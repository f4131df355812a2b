/-
What the program says of itself.
-/
namespace SourceLexer

/-- What help is asked for. -/
inductive HelpTopic where
  /-- The program. -/
  | program
  /-- The command `lex`, in short. -/
  | lexInShort
  /-- The command `lex`, with all there is to say. -/
  | lexInFull
  /-- The command `help`. -/
  | help

namespace HelpTopic

/-- Lines with their ends. -/
def ofLines (lines : List String) : String := String.join (lines.map (· ++ "\n"))

/-- The help on a topic. -/
def text : HelpTopic → String
  | program => ofLines [
      "Gibbous language front end",
      "",
      "Usage: gib [OPTIONS] <COMMAND>",
      "",
      "Commands:",
      "  lex   Tokenize a file and display the tokens",
      "  help  Print this message or the help of the given subcommand(s)",
      "",
      "Options:",
      "      --log-level <FILTER>  Log filter, e.g. `debug` or `gib_lexer=trace` " ++
        "(overrides GIB_LOG and RUST_LOG)",
      "  -h, --help                Print help",
      "  -V, --version             Print version"]
  | lexInShort => ofLines [
      "Tokenize a file and display the tokens",
      "",
      "Usage: gib lex [OPTIONS] <FILE>",
      "",
      "Arguments:",
      "  <FILE>  Source file, or `-` for standard input",
      "",
      "Options:",
      "      --format <FORMAT>     Output format [default: text] [possible values: text, json]",
      "      --log-level <FILTER>  Log filter, e.g. `debug` or `gib_lexer=trace` " ++
        "(overrides GIB_LOG and RUST_LOG)",
      "  -h, --help                Print help (see more with '--help')"]
  | lexInFull => ofLines [
      "Tokenize a file and display the tokens",
      "",
      "Usage: gib lex [OPTIONS] <FILE>",
      "",
      "Arguments:",
      "  <FILE>",
      "          Source file, or `-` for standard input",
      "",
      "Options:",
      "      --format <FORMAT>",
      "          Output format",
      "",
      "          Possible values:",
      "          - text: One token per line, for people",
      "          - json: A JSON array of tokens, for tools",
      "          ",
      "          [default: text]",
      "",
      "      --log-level <FILTER>",
      "          Log filter, e.g. `debug` or `gib_lexer=trace` " ++
        "(overrides GIB_LOG and RUST_LOG)",
      "",
      "  -h, --help",
      "          Print help (see a summary with '-h')"]
  | help => ofLines [
      "Print this message or the help of the given subcommand(s)",
      "",
      "Usage: gib help [COMMAND]...",
      "",
      "Arguments:",
      "  [COMMAND]...  Print help for the subcommand(s)"]

end HelpTopic

end SourceLexer
