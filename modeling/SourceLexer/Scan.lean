/-
From a text to its tokens.

A scan reads a cursor over characters to its end or to the first error.  At each
turn it takes the position of the cursor's state, consumes one character and
lets the class of that character decide how the token goes on (`lexeme`);
words, integers and strings go on for as long as they can (`eatWhile`).  What
the scan recognises it also writes down as events, one for each token when it is
found and one at the end.

Every turn consumes at least one character and none puts a character back
(`remaining_lexeme_le`), so the number of characters that remain bounds the
scan.
-/
import SourceLexer.CharClass
import SourceLexer.LexError
import SourceLexer.Token
import SourceLexer.Tracking

namespace SourceLexer

variable {σ : Type}

/-- Consumes characters for as long as they satisfy `p` and puts them at the end of `text`. -/
def eatWhile (p : Char → Bool) (text : String) (c : Cursor Char σ) : String × Cursor Char σ :=
  match _h : c.peek 1 with
  | some a => if p a then eatWhile p (text.push a) c.consume.2 else (text, c)
  | none => (text, c)
termination_by c.remaining
decreasing_by exact Cursor.remaining_consume_lt (by simp [Cursor.hasNext, _h])

theorem remaining_eatWhile_le (p : Char → Bool) (text : String) (c : Cursor Char σ) :
    (eatWhile p text c).2.remaining ≤ c.remaining := by
  fun_induction eatWhile p text c with
  | case1 text c a h hp ih =>
    have := Cursor.remaining_consume c
    omega
  | case2 => exact Nat.le_refl _
  | case3 => exact Nat.le_refl _

/-- The rest of a string behind its opening quotation mark; the closing mark is consumed too. -/
def stringBody (start : Position) (c : Cursor Char σ) :
    Except LexError (Option Token) × Cursor Char σ :=
  let (body, c) := eatWhile (· ≠ '"') "" c
  match c.consume with
  | (some _, c) => (.ok (some (.startingAt .string body start)), c)
  | (none, c) => (.error (.unterminatedString start), c)

/-- What the character `first`, just consumed, begins at `start`: a token, nothing if it is
blank, or an error. -/
def lexeme (first : Char) (start : Position) (c : Cursor Char σ) :
    Except LexError (Option Token) × Cursor Char σ :=
  match CharClass.of first with
  | .operator kind => (.ok (some (.startingAt kind (String.singleton first) start)), c)
  | .equals =>
    if c.peek 1 = some '=' then (.ok (some (.startingAt .doubleEquals "==" start)), c.consume.2)
    else (.ok (some (.startingAt .equals "=" start)), c)
  | .quote => stringBody start c
  | .letter =>
    let (word, c) := eatWhile Char.isAlpha (String.singleton first) c
    (.ok (some (.startingAt (Kind.ofWord word) word start)), c)
  | .digit =>
    let (digits, c) := eatWhile Char.isDigit (String.singleton first) c
    (.ok (some (.startingAt .integer digits start)), c)
  | .blank => (.ok none, c)
  | .other => (.error (.unrecognizedCharacter first start), c)

theorem remaining_stringBody_le (start : Position) (c : Cursor Char σ) :
    (stringBody start c).2.remaining ≤ c.remaining := by
  have h₁ := remaining_eatWhile_le (· ≠ '"') "" c
  have h₂ := Cursor.remaining_consume (eatWhile (· ≠ '"') "" c).2
  unfold stringBody
  simp only
  split <;> (rename_i h; rw [h] at h₂; simp only at h₂ ⊢; omega)

/-- Going on with a token puts no character back. -/
theorem remaining_lexeme_le (first : Char) (start : Position) (c : Cursor Char σ) :
    (lexeme first start c).2.remaining ≤ c.remaining := by
  unfold lexeme
  split
  · exact Nat.le_refl _
  · split
    · have := Cursor.remaining_consume c
      simp only
      omega
    · exact Nat.le_refl _
  · exact remaining_stringBody_le start c
  · exact remaining_eatWhile_le _ _ c
  · exact remaining_eatWhile_le _ _ c
  · exact Nat.le_refl _
  · exact Nat.le_refl _

/-- What a scan writes down. -/
inductive Event where
  /-- A token was recognised. -/
  | token (t : Token)
  /-- The text was read to its end and has `count` tokens. -/
  | complete (count : Nat)
  /-- The scan stopped with an error. -/
  | failed (e : LexError)
deriving DecidableEq

/-- A finished scan: its result, its events, and the cursor as it was left. -/
structure Scan (σ : Type) where
  result : Except LexError (List Token)
  events : List Event
  cursor : Cursor Char σ

/-- The scan of what remains at `c`, behind the tokens and events found so far. -/
def scanFrom [Tracked σ] (c : Cursor Char σ) (tokens : Array Token) (events : Array Event) :
    Scan σ :=
  match _h : c.peek 1 with
  | none => ⟨.ok tokens.toList, (events.push (.complete tokens.size)).toList, c⟩
  | some first =>
    match _hl : lexeme first (Tracked.position c.state) c.consume.2 with
    | (.ok none, c') => scanFrom c' tokens events
    | (.ok (some t), c') => scanFrom c' (tokens.push t) (events.push (.token t))
    | (.error e, c') => ⟨.error e, (events.push (.failed e)).toList, c'⟩
termination_by c.remaining
decreasing_by
  all_goals
    have h₁ := remaining_lexeme_le first (Tracked.position c.state) c.consume.2
    have h₂ := Cursor.remaining_consume_lt (c := c) (by simp [Cursor.hasNext, _h])
    rw [_hl] at h₁
    simp only at h₁
    omega

/-- The scan of a whole text, with positions counted from its beginning. -/
def scan (source : String) : Scan Position :=
  scanFrom (Cursor.ofArray source.toList.toArray Position.start).track #[] #[]

/-- The tokens of a text, or the first error in it. -/
def lex (source : String) : Except LexError (List Token) := (scan source).result

end SourceLexer
