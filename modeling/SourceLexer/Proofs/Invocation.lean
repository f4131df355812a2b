/-
What comes of an invocation.

An invocation that asks for the tokens of a file either writes the whole listing or
writes nothing and names one failure (`Stops`); the log goes in front of the failure
and has no part in either.  That needs logging to come back (`Invocation.IsLogged`),
which the libraries that the log is left to do as long as they are reliable and read
the text of the filter; where they end the program, nothing else is written.  So two
invocations can be compared by the content that they are given:

* `lexContent_eq_ok_iff` and `lexContent_eq_error_iff` — when there is a listing, and
  when there is which failure;
* `Stops.relabel` — the same content fails in the same way under any label;
* `Invocation.outcome_of_ok` and `Invocation.outcome_of_error` — the outcome of either;
* `Invocation.output_cases` — never a part of a listing, whatever becomes of the log;
* `program_all_or_nothing` — every invocation, and any two of them.
-/
import Mathlib
import SourceLexer.Program
import SourceLexer.Proofs.Reliance

namespace SourceLexer

/-! ### Texts -/

/-- Bytes are the text that they encode and no other. -/
theorem fromUTF8?_eq_some_iff {bytes : ByteArray} {text : String} :
    String.fromUTF8? bytes = some text ↔ bytes = text.toUTF8 := by
  rw [String.fromUTF8?]
  constructor
  · intro h
    split at h
    · obtain rfl := Option.some.inj h
      rfl
    · cases h
  · rintro rfl
    rw [String.toUTF8_eq_toByteArray, dif_pos text.isValidUTF8]
    rfl

theorem fromUTF8?_eq_none_iff {bytes : ByteArray} :
    String.fromUTF8? bytes = none ↔ ∀ text : String, bytes ≠ text.toUTF8 := by
  rw [Option.eq_none_iff_forall_ne_some]
  exact forall_congr' fun text => fromUTF8?_eq_some_iff.not

theorem textOf_eq_ok_iff {content : Except ReadFault ByteArray} {text : String} :
    textOf content = .ok text ↔ content = .ok text.toUTF8 := by
  cases content with
  | error fault => exact ⟨nofun, nofun⟩
  | ok bytes =>
    rw [textOf, Except.ok.injEq, ← fromUTF8?_eq_some_iff]
    cases String.fromUTF8? bytes with
    | none => exact ⟨nofun, nofun⟩
    | some text' => rw [Except.ok.injEq, Option.some_inj]

/-! ### Failures -/

/-- Why there is no listing of content that is called `label`. -/
inductive Stops (label : String) (content : Except ReadFault ByteArray) : Failure → Prop
  /-- The content cannot be read. -/
  | unread (fault : ReadFault) (h : content = .error fault) :
    Stops label content (.ofRead label fault)
  /-- The content is not UTF-8. -/
  | notText (bytes : ByteArray) (h : content = .ok bytes)
    (hu : ∀ text : String, bytes ≠ text.toUTF8) : Stops label content (.invalidText label)
  /-- The content is a text that has no tokens. -/
  | notLexed (source : String) (e : LexError) (h : content = .ok source.toUTF8)
    (he : lex source = .error e) : Stops label content (.lexing e)

/-- A failure of reading names what was to be read, and says the same of everything. -/
theorem exists_message_ofRead (fault : ReadFault) :
    ∃ before behind, ∀ path, (Failure.ofRead path fault).message = before ++ path ++ behind := by
  simp only [Failure.ofRead]
  split
  · exact ⟨"cannot find file '", "'", fun _ => rfl⟩
  · exact ⟨"permission denied reading '", "'", fun _ => rfl⟩
  · exact ⟨"'", "' contains invalid UTF-8 data", fun _ => rfl⟩
  · refine ⟨"error reading '", "': " ++ fault.detail, fun path => ?_⟩
    rw [← String.append_assoc]
    rfl

/-- Whether two failures are the same but for what the content is called: the same failure of
lexing, or one message with either label in its place. -/
def SameFailure (label label' : String) (f g : Failure) : Prop :=
  (∃ e, f = .lexing e ∧ g = .lexing e) ∨
    ∃ before behind, f.message = before ++ label ++ behind ∧ g.message = before ++ label' ++ behind

/-- What stops content that is called `label` also stops it when it is called `label'`. -/
theorem Stops.relabel {label : String} {content : Except ReadFault ByteArray} {f : Failure}
    (h : Stops label content f) (label' : String) :
    ∃ g, Stops label' content g ∧ SameFailure label label' f g := by
  cases h with
  | unread fault h =>
    obtain ⟨before, behind, hm⟩ := exists_message_ofRead fault
    exact ⟨_, .unread fault h, Or.inr ⟨before, behind, hm label, hm label'⟩⟩
  | notText bytes h hu =>
    obtain ⟨before, behind, hm⟩ := exists_message_ofRead .invalidText
    exact ⟨_, .notText bytes h hu, Or.inr ⟨before, behind, hm label, hm label'⟩⟩
  | notLexed source e h he => exact ⟨_, .notLexed source e h he, Or.inl ⟨e, rfl, rfl⟩⟩

/-- The failure of a text is that of its lexing, and the failure of anything else names it. -/
theorem Stops.message {label : String} {content : Except ReadFault ByteArray} {f : Failure}
    (h : Stops label content f) :
    (∃ source e, content = .ok source.toUTF8 ∧ lex source = .error e ∧ f.message = e.message) ∨
      (∀ source : String, content ≠ .ok source.toUTF8) ∧
        ∃ before behind, f.message = before ++ label ++ behind := by
  cases h with
  | unread fault h =>
    obtain ⟨before, behind, hm⟩ := exists_message_ofRead fault
    exact Or.inr ⟨by rw [h]; exact nofun, before, behind, hm label⟩
  | notText bytes h hu =>
    obtain ⟨before, behind, hm⟩ := exists_message_ofRead .invalidText
    refine Or.inr ⟨fun source hs => hu source ?_, before, behind, hm label⟩
    rwa [h, Except.ok.injEq] at hs
  | notLexed source e h he => exact Or.inl ⟨source, e, h, he, rfl⟩

/-! ### Listings -/

section

variable {file : String} {format : Format} {content : Except ReadFault ByteArray}

theorem lexContent_eq_ok_iff {output : String} :
    lexContent file format content = .ok output ↔ ∃ source tokens,
      content = .ok source.toUTF8 ∧ lex source = .ok tokens ∧
        output = listing format (labelOf file) tokens := by
  rw [lexContent]
  constructor
  · intro h
    split at h
    · cases h
    · next source hs =>
      split at h
      · cases h
      · next tokens ht =>
        exact ⟨source, tokens, textOf_eq_ok_iff.mp hs, ht, (Except.ok.inj h).symm⟩
  · rintro ⟨source, tokens, hs, ht, rfl⟩
    rw [textOf_eq_ok_iff.mpr hs]
    simp only
    rw [ht]

theorem lexContent_eq_error_iff {f : Failure} :
    lexContent file format content = .error f ↔ Stops (labelOf file) content f := by
  rw [lexContent]
  constructor
  · intro h
    split at h
    · next fault hs =>
      obtain rfl := Except.error.inj h
      -- what could be read and is no text is a fault of its own
      cases content with
      | error fault' =>
        obtain rfl : fault' = fault := Except.error.inj hs
        exact .unread fault' rfl
      | ok bytes =>
        have hu : ∀ text : String, bytes ≠ text.toUTF8 := by
          rintro text rfl
          rw [textOf_eq_ok_iff.mpr rfl] at hs
          cases hs
        rw [textOf, fromUTF8?_eq_none_iff.mpr hu] at hs
        obtain rfl := Except.error.inj hs
        exact .notText bytes rfl hu
    · next source hs =>
      split at h
      · next e he =>
        obtain rfl := Except.error.inj h
        exact .notLexed source e (textOf_eq_ok_iff.mp hs) he
      · cases h
  · rintro (⟨fault, rfl⟩ | ⟨bytes, rfl, hu⟩ | ⟨source, e, rfl, he⟩)
    · rfl
    · rw [textOf, fromUTF8?_eq_none_iff.mpr hu]
      rfl
    · rw [textOf_eq_ok_iff.mpr rfl]
      simp only
      rw [he]

end

/-! ### Invocations -/

/-- An invocation of the program that asks for the tokens of a file. -/
structure Invocation where
  arguments : List String
  surroundings : Surroundings
  file : String
  format : Format
  logLevel : Option String
  parsed : Command.parse arguments = some (.lex file format logLevel)

namespace Invocation

/-- What the file holds, or standard input in its place. -/
def content (i : Invocation) : Except ReadFault ByteArray :=
  if i.file = "-" then i.surroundings.input else i.surroundings.files i.file

/-- What the content is called. -/
def label (i : Invocation) : String := if i.file = "-" then "<stdin>" else i.file

/-- Where a filter for the log may be written. -/
def settings (i : Invocation) : LogSettings :=
  ⟨i.logLevel, i.surroundings.ownVariable, i.surroundings.sharedVariable⟩

/-- There are tokens or there is a failure. -/
theorem ok_or_stops (i : Invocation) :
    (∃ source tokens, i.content = .ok source.toUTF8 ∧ lex source = .ok tokens) ∨
      ∃ f, Stops i.label i.content f := by
  cases h : lexContent i.file i.format i.content with
  | ok output =>
    obtain ⟨source, tokens, hs, ht, -⟩ := lexContent_eq_ok_iff.mp h
    exact Or.inl ⟨source, tokens, hs, ht⟩
  | error f => exact Or.inr ⟨f, lexContent_eq_error_iff.mp h⟩

section

variable {φ : Type} (L : Logging φ) (i j : Invocation)

/-- What the program leaves behind, with `L` to log. -/
def outcome : Outcome := Program.runWith L i.arguments i.surroundings

/-- What logging comes to. -/
def logging : Except Panic String := L.text i.settings (logOf i.file i.content)

/-- Whether logging comes back. -/
def IsLogged : Prop := ∃ log, i.logging L = .ok log

/-- What logging writes. -/
def log : String :=
  match i.logging L with
  | .ok log => log
  | .error panic => panic.words

/-- What comes of an invocation: the whole listing, or nothing but a failure. -/
structure AllOrNothing : Prop where
  exitCode_eq_zero_iff : (i.outcome L).exitCode = 0 ↔
    ∃ source tokens, i.content = .ok source.toUTF8 ∧ lex source = .ok tokens
  output_of_ok : ∀ source tokens, i.content = .ok source.toUTF8 → lex source = .ok tokens →
    (i.outcome L).output = listing i.format i.label tokens
  failure_of_ne_zero : (i.outcome L).exitCode ≠ 0 →
    (i.outcome L).exitCode = 1 ∧ (i.outcome L).output = "" ∧
      ∃ f, Stops i.label i.content f ∧
        (i.outcome L).errors = i.log L ++ "error: " ++ f.message ++ "\n" ∧
        ((∃ source e, i.content = .ok source.toUTF8 ∧ lex source = .error e ∧
            f.message = e.message) ∨
          (∀ source : String, i.content ≠ .ok source.toUTF8) ∧
            ∃ before behind, f.message = before ++ i.label ++ behind)

/-- What two invocations have in common that are for the same content: everything but the label,
the log and, if the formats differ, the listing. -/
structure SameButLabel : Prop where
  exitCode_eq : (i.outcome L).exitCode = (j.outcome L).exitCode
  json_eq : i.format = .json → j.format = .json → (i.outcome L).output = (j.outcome L).output
  text_eq : i.format = .text → j.format = .text → (i.outcome L).exitCode = 0 → ∃ count lines,
    (i.outcome L).output = Listing.header i.label count ++ lines ∧
      (j.outcome L).output = Listing.header j.label count ++ lines
  failure_eq : (i.outcome L).exitCode ≠ 0 → ∃ f g, SameFailure i.label j.label f g ∧
    (i.outcome L).errors = i.log L ++ "error: " ++ f.message ++ "\n" ∧
      (j.outcome L).errors = j.log L ++ "error: " ++ g.message ++ "\n"

end

variable {φ : Type} {L : Logging φ} {i j : Invocation}

/-! ### The outcome -/

theorem outcome_eq (L : Logging φ) (i : Invocation) :
    i.outcome L = Program.runLex L i.file i.format i.settings i.content := by
  rw [outcome, Program.runWith, i.parsed]
  rfl

theorem IsLogged.logging_eq (h : i.IsLogged L) : i.logging L = .ok (i.log L) := by
  obtain ⟨log, hlog⟩ := h
  rw [Invocation.log, hlog]

theorem outcome_of_ok (hlog : i.IsLogged L) {source : String} {tokens : List Token}
    (h : i.content = .ok source.toUTF8) (ht : lex source = .ok tokens) :
    i.outcome L = ⟨0, listing i.format i.label tokens, i.log L⟩ := by
  have hlisting : lexContent i.file i.format i.content = .ok (listing i.format i.label tokens) :=
    lexContent_eq_ok_iff.mpr ⟨source, tokens, h, ht, rfl⟩
  rw [outcome_eq, Program.runLex, ← logging, hlog.logging_eq, hlisting]

theorem outcome_of_error (hlog : i.IsLogged L) {f : Failure} (h : Stops i.label i.content f) :
    i.outcome L = ⟨1, "", i.log L ++ "error: " ++ f.message ++ "\n"⟩ := by
  have hfailure : lexContent i.file i.format i.content = .error f := lexContent_eq_error_iff.mpr h
  rw [outcome_eq, Program.runLex, ← logging, hlog.logging_eq, hfailure]

/-- Where logging ends the program, no more is written than it has written itself. -/
theorem outcome_of_panic {panic : Panic} (h : i.logging L = .error panic) :
    i.outcome L = ⟨101, "", panic.words⟩ := by
  rw [outcome_eq, Program.runLex, ← logging, h]
  rfl

/-- A listing is written as a whole and with exit code 0, or nothing is, whatever becomes of the
log. -/
theorem output_cases (L : Logging φ) (i : Invocation) :
    (i.outcome L).exitCode ≠ 0 ∧ (i.outcome L).output = "" ∨
      ∃ source tokens, i.content = .ok source.toUTF8 ∧ lex source = .ok tokens ∧
        (i.outcome L).exitCode = 0 ∧ (i.outcome L).output = listing i.format i.label tokens := by
  cases hlog : i.logging L with
  | error panic =>
    rw [outcome_of_panic hlog]
    exact Or.inl ⟨nofun, rfl⟩
  | ok log =>
    obtain ⟨source, tokens, hs, ht⟩ | ⟨f, hf⟩ := i.ok_or_stops
    · rw [outcome_of_ok ⟨log, hlog⟩ hs ht]
      exact Or.inr ⟨source, tokens, hs, ht, rfl, rfl⟩
    · rw [outcome_of_error ⟨log, hlog⟩ hf]
      exact Or.inl ⟨nofun, rfl⟩

/-! ### One invocation and two -/

theorem allOrNothing (hlog : i.IsLogged L) : i.AllOrNothing L := by
  obtain ⟨source, tokens, hs, ht⟩ | ⟨f, hf⟩ := i.ok_or_stops
  · have houtcome := outcome_of_ok hlog hs ht
    refine ⟨?_, ?_, ?_⟩
    · rw [houtcome]
      exact iff_of_true rfl ⟨source, tokens, hs, ht⟩
    · intro source' tokens' hs' ht'
      rw [outcome_of_ok hlog hs' ht']
    · rw [houtcome]
      exact fun hne => absurd rfl hne
  · have houtcome := outcome_of_error hlog hf
    have hne : (i.outcome L).exitCode ≠ 0 := by rw [houtcome]; exact fun h => nomatch h
    have hnone : ∀ source tokens, i.content = .ok source.toUTF8 → lex source ≠ .ok tokens := by
      intro source tokens hs ht
      exact hne (by rw [outcome_of_ok hlog hs ht])
    refine ⟨?_, ?_, ?_⟩
    · exact iff_of_false hne fun ⟨source, tokens, hs, ht⟩ => hnone source tokens hs ht
    · exact fun source tokens hs ht => absurd ht (hnone source tokens hs)
    · rw [houtcome]
      exact fun _ => ⟨rfl, rfl, f, hf, rfl, hf.message⟩

theorem sameButLabel (hi : i.IsLogged L) (hj : j.IsLogged L) (h : i.content = j.content) :
    i.SameButLabel L j := by
  obtain ⟨source, tokens, hs, ht⟩ | ⟨f, hf⟩ := i.ok_or_stops
  · have hi := outcome_of_ok hi hs ht
    have hj := outcome_of_ok hj (h ▸ hs) ht
    refine ⟨?_, ?_, ?_, ?_⟩
    · rw [hi, hj]
    · intro hfi hfj
      rw [hi, hj, hfi, hfj]
      rfl
    · intro hfi hfj _
      rw [hi, hj, hfi, hfj]
      exact ⟨tokens.length, String.join (tokens.map Listing.line), rfl, rfl⟩
    · rw [hi]
      exact fun hne => absurd rfl hne
  · obtain ⟨g, hg, hfg⟩ := hf.relabel j.label
    have hi := outcome_of_error hi hf
    have hj := outcome_of_error hj (h ▸ hg)
    refine ⟨?_, ?_, ?_, ?_⟩
    · rw [hi, hj]
    · intro _ _
      rw [hi, hj]
    · rw [hi]
      exact fun _ _ hzero => nomatch hzero
    · rw [hi, hj]
      exact fun _ => ⟨f, g, hfg, rfl, rfl⟩

/-- Invocations for the same file with the same content differ only in the log, which stands in
front of what else is written as errors. -/
theorem same_but_log (hi : i.IsLogged L) (hj : j.IsLogged L) (hfile : i.file = j.file)
    (hformat : i.format = j.format) (h : i.content = j.content) : ∃ code output rest,
      i.outcome L = ⟨code, output, i.log L ++ rest⟩ ∧
        j.outcome L = ⟨code, output, j.log L ++ rest⟩ := by
  have hlabel : i.label = j.label := by rw [label, label, hfile]
  obtain ⟨source, tokens, hs, ht⟩ | ⟨f, hf⟩ := i.ok_or_stops
  · refine ⟨0, listing i.format i.label tokens, "", ?_, ?_⟩
    · rw [outcome_of_ok hi hs ht, String.append_empty]
    · rw [outcome_of_ok hj (h ▸ hs) ht, hformat, hlabel, String.append_empty]
  · refine ⟨1, "", "error: " ++ f.message ++ "\n", ?_, ?_⟩
    · rw [outcome_of_error hi hf]
      simp only [String.append_assoc]
    · rw [outcome_of_error hj (hlabel ▸ h ▸ hf)]
      simp only [String.append_assoc]

theorem isLogged (hL : L.IsReliable) (h : L.Reads i.settings) : i.IsLogged L :=
  hL.exists_text h _

theorem log_eq_empty (hL : L.IsReliable) (h : i.settings.directive? = none) : i.log L = "" := by
  rw [log, logging, hL.text_of_none h]

end Invocation

/-- **An invocation is all or nothing, and the log has no part in it**, whichever libraries the
program logs with, as long as they can be relied on and read the text of the filter. -/
theorem program_all_or_nothing {φ : Type} (L : Logging φ) (hL : L.IsReliable) (i : Invocation)
    (hi : L.Reads i.settings) :
    i.AllOrNothing L ∧ ∀ j : Invocation, L.Reads j.settings →
      (i.file = j.file → i.format = j.format → i.content = j.content →
        (i.outcome L).exitCode = (j.outcome L).exitCode ∧
          (i.outcome L).output = (j.outcome L).output ∧
          (i.settings.directive? = none →
            (j.outcome L).errors = j.log L ++ (i.outcome L).errors)) ∧
      (i.content = j.content → i.SameButLabel L j) := by
  have hlogged := Invocation.isLogged hL hi
  refine ⟨Invocation.allOrNothing hlogged, fun j hj => ?_⟩
  have hlogged' := Invocation.isLogged hL hj
  refine ⟨fun hfile hformat h => ?_, Invocation.sameButLabel hlogged hlogged'⟩
  obtain ⟨code, output, rest, hi, hj⟩ :=
    Invocation.same_but_log hlogged hlogged' hfile hformat h
  rw [hi, hj]
  refine ⟨rfl, rfl, fun hnone => ?_⟩
  rw [Invocation.log_eq_empty hL hnone, String.empty_append]

/-- An invocation for standard input. -/
def Invocation.onInput (input : Except ReadFault ByteArray) (ownVariable : Option String) :
    Invocation where
  arguments := ["lex", "-"]
  surroundings := ⟨fun _ => .error .notFound, input, ownVariable, none⟩
  file := "-"
  format := .text
  logLevel := none
  parsed := rfl

/-- An invocation for a file. -/
def Invocation.onFile (content : Except ReadFault ByteArray) : Invocation where
  arguments := ["lex", "main.gib"]
  surroundings := ⟨fun _ => content, .ok ByteArray.empty, none, none⟩
  file := "main.gib"
  format := .text
  logLevel := none
  parsed := rfl

/-- A source without tokens, with and without a log, from standard input and from a file; and a
directory in the place of standard input. -/
theorem program_all_or_nothing_stray :
    ((Invocation.onInput "@".toUTF8 none).outcome .standard).exitCode = 1 ∧
      ((Invocation.onInput "@".toUTF8 (some "debug")).outcome .standard).errors =
        (Invocation.onInput "@".toUTF8 (some "debug")).log .standard ++
          ((Invocation.onInput "@".toUTF8 none).outcome .standard).errors ∧
      (Invocation.onInput "@".toUTF8 none).SameButLabel .standard
        (Invocation.onFile "@".toUTF8) ∧
      ((Invocation.onInput (.error .isADirectory) none).outcome .standard).exitCode = 1 := by
  have hL := Logging.standard_isReliable
  have hnone : Logging.standard.Reads ⟨none, none, none⟩ := Logging.standard_reads nofun
  have hdebug : Logging.standard.Reads ⟨none, some "debug", none⟩ := by
    refine Logging.standard_reads fun directive hd => ?_
    obtain rfl : "debug" = directive := Option.some.inj hd
    decide
  have hlex : lex "@" = .error (.unrecognizedCharacter '@' Position.start) := by decide +kernel
  obtain ⟨h, h'⟩ := program_all_or_nothing .standard hL (Invocation.onInput "@".toUTF8 none) hnone
  have hne : ((Invocation.onInput "@".toUTF8 none).outcome .standard).exitCode ≠ 0 := by
    have hlogged : (Invocation.onInput "@".toUTF8 none).IsLogged .standard :=
      Invocation.isLogged hL hnone
    rw [Invocation.outcome_of_error hlogged (.notLexed "@" _ rfl hlex)]
    exact nofun
  obtain ⟨hdirectory, -⟩ :=
    program_all_or_nothing .standard hL (Invocation.onInput (.error .isADirectory) none) hnone
  have hne' : ((Invocation.onInput (.error .isADirectory) none).outcome .standard).exitCode ≠ 0 := by
    rw [Ne, hdirectory.exitCode_eq_zero_iff]
    exact fun ⟨_, _, hs, _⟩ => nomatch hs
  exact ⟨(h.failure_of_ne_zero hne).1,
    ((h' (Invocation.onInput "@".toUTF8 (some "debug")) hdebug).1 rfl rfl rfl).2.2 rfl,
    (h' (Invocation.onFile "@".toUTF8) hnone).2 rfl, (hdirectory.failure_of_ne_zero hne').1⟩

end SourceLexer
