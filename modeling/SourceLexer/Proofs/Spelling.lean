/-
How tokens are spelled.

The text of a token is tied to its kind (`Kind.Allows`): operators and keywords
have one spelling each, strings and runs are free within their characters.  A
kind with a text it allows is the same thing as a segment that is not blank
(`allows_of_lexeme?`), and whether two tokens that touch would be read as one
can be told from their kinds (`endsBefore_segment_iff`).
-/
import SourceLexer.Proofs.Segmentation

namespace SourceLexer

namespace Kind

/-- Whether a kind is that of a run of letters. -/
def isWord (k : Kind) : Bool := k = identifier || k.isKeyword

theorem isWord_ofWord (word : String) : (ofWord word).isWord = true := by
  rw [ofWord]
  cases h : keyword? word with
  | none => rfl
  | some k =>
    rw [Option.getD_some, isWord, isKeyword_of_keyword? h, Bool.or_true]

/-- Whether a token of a kind can have a text. -/
def Allows (text : String) : Kind → Prop
  | star => text = "*"
  | slash => text = "/"
  | plus => text = "+"
  | minus => text = "-"
  | equals => text = "="
  | doubleEquals => text = "=="
  | string => '"' ∉ text.toList
  | identifier =>
    text ≠ "" ∧ (∀ c ∈ text.toList, c.isAlpha = true) ∧ text ∉ ["let", "const", "var"]
  | integer => text ≠ "" ∧ ∀ c ∈ text.toList, c.isDigit = true
  | kwLet => text = "let"
  | kwConst => text = "const"
  | kwVar => text = "var"

/-- The segment of a kind with a text. -/
def segment (text : String) : Kind → Segment
  | star => .operator '*' .star
  | slash => .operator '/' .slash
  | plus => .operator '+' .plus
  | minus => .operator '-' .minus
  | equals => .equals
  | doubleEquals => .doubleEquals
  | string => .quoted text.toList
  | identifier | kwLet | kwConst | kwVar => .letters text.toList
  | integer => .digits text.toList

/-- The text of a kind as it is written: strings stand between quotation marks. -/
def spelling (text : String) (k : Kind) : List Char :=
  if k = string then '"' :: text.toList ++ ['"'] else text.toList

theorem length_le_length_spelling (text : String) (k : Kind) :
    text.toList.length ≤ (k.spelling text).length := by
  rw [spelling]
  split
  · rw [List.length_append, List.length_cons]
    omega
  · exact le_rfl

theorem wellformed_segment {text : String} {k : Kind} (h : k.Allows text) :
    (k.segment text).Wellformed := by
  have hne : text ≠ "" → text.toList ≠ [] := fun h => mt String.toList_eq_nil_iff.mp h
  cases k with
  | string => exact h
  | identifier => exact ⟨hne h.1, h.2.1⟩
  | integer => exact ⟨hne h.1, h.2⟩
  | kwLet | kwConst | kwVar =>
    rw [Allows] at h
    subst h
    simp [segment, Segment.Wellformed]
  | equals | doubleEquals => trivial
  | star | slash | plus | minus => simp [segment, Segment.Wellformed, operatorSigns]

theorem lexeme?_segment {text : String} {k : Kind} (h : k.Allows text) :
    (k.segment text).lexeme? = some (k, text) := by
  cases k with
  | string => rw [segment, Segment.lexeme?, String.ofList_toList]
  | identifier =>
    rw [segment, Segment.lexeme?, String.ofList_toList, (ofWord_eq_iff text).2.2.2.mpr h.2.2]
  | integer => rw [segment, Segment.lexeme?, String.ofList_toList]
  | _ =>
    rw [Allows] at h
    subst h
    rfl

theorem chars_segment {text : String} {k : Kind} (h : k.Allows text) :
    (k.segment text).chars = k.spelling text := by
  cases k with
  | string | identifier | integer => rfl
  | _ =>
    rw [Allows] at h
    subst h
    rfl

/-- A segment that is not blank is the segment of its kind and its text. -/
theorem allows_of_lexeme? {s : Segment} (hs : s.Wellformed) {text : String} {k : Kind}
    (h : s.lexeme? = some (k, text)) : k.Allows text ∧ k.segment text = s := by
  have hne : ∀ run : List Char, run ≠ [] → String.ofList run ≠ "" := by
    intro run hr he
    exact hr (by simpa using congrArg String.toList he)
  cases s with
  | blank c => cases h
  | operator c kind =>
    obtain ⟨rfl, rfl⟩ := Prod.mk.inj (Option.some.inj h)
    simp only [Segment.Wellformed, operatorSigns, List.mem_cons, List.not_mem_nil, or_false,
      Prod.mk.injEq] at hs
    rcases hs with ⟨rfl, rfl⟩ | ⟨rfl, rfl⟩ | ⟨rfl, rfl⟩ | ⟨rfl, rfl⟩
    · exact ⟨rfl, rfl⟩
    · exact ⟨rfl, rfl⟩
    · exact ⟨rfl, rfl⟩
    · exact ⟨rfl, rfl⟩
  | doubleEquals =>
    obtain ⟨rfl, rfl⟩ := Prod.mk.inj (Option.some.inj h)
    exact ⟨rfl, rfl⟩
  | equals =>
    obtain ⟨rfl, rfl⟩ := Prod.mk.inj (Option.some.inj h)
    exact ⟨rfl, rfl⟩
  | quoted body =>
    obtain ⟨rfl, rfl⟩ := Prod.mk.inj (Option.some.inj h)
    rw [Allows, segment, String.toList_ofList]
    exact ⟨hs, rfl⟩
  | letters run =>
    obtain ⟨hk, rfl⟩ := Prod.mk.inj (Option.some.inj h)
    have hw := isWord_ofWord (String.ofList run)
    have hi := ofWord_eq_iff (String.ofList run)
    rw [hk] at hw hi
    -- only identifiers and keywords are kinds of words
    cases k with
    | identifier =>
      rw [Allows, segment, String.toList_ofList]
      exact ⟨⟨hne run hs.1, hs.2, hi.2.2.2.mp rfl⟩, rfl⟩
    | kwLet => exact ⟨hi.1.mp rfl, by rw [segment, String.toList_ofList]⟩
    | kwConst => exact ⟨hi.2.1.mp rfl, by rw [segment, String.toList_ofList]⟩
    | kwVar => exact ⟨hi.2.2.1.mp rfl, by rw [segment, String.toList_ofList]⟩
    | _ => cases hw
  | digits run =>
    obtain ⟨rfl, rfl⟩ := Prod.mk.inj (Option.some.inj h)
    rw [Allows, segment, String.toList_ofList]
    exact ⟨⟨hne run hs.1, hs.2⟩, rfl⟩

/-! ### Tokens that touch -/

/-- Whether a token of kind `l` right behind one of kind `k` would be read as a part of it. -/
def Merges (k l : Kind) : Prop :=
  k.isWord = true ∧ l.isWord = true ∨ k = integer ∧ l = integer ∨
    k = equals ∧ (l = equals ∨ l = doubleEquals)

theorem goesOn_segment_iff (k l : Kind) (text text' : String) :
    (k.segment text).GoesOn (l.segment text').charClass ↔ k.Merges l := by
  have hword : (l.segment text').charClass = .letter ↔ l.isWord = true := by
    cases l <;> simp [segment, Segment.charClass, isWord, isKeyword]
  have hdigit : (l.segment text').charClass = .digit ↔ l = integer := by
    cases l <;> simp [segment, Segment.charClass]
  have hequals : (l.segment text').charClass = .equals ↔ l = equals ∨ l = doubleEquals := by
    cases l <;> simp [segment, Segment.charClass]
  rw [Merges, ← hword, ← hdigit, ← hequals]
  generalize (l.segment text').charClass = cls
  cases k <;> simp [segment, Segment.GoesOn, isWord, isKeyword]

/-- One token ends in front of another unless the two would be read as one. -/
theorem endsBefore_segment_iff (k : Kind) {l : Kind} {text' : String} (h : l.Allows text')
    (text : String) (rest : List Char) :
    (k.segment text).EndsBefore ((l.segment text').chars ++ rest) ↔ ¬ k.Merges l := by
  obtain ⟨c, cs, hc⟩ := (l.segment text').exists_head (wellformed_segment h)
  rw [hc, List.cons_append, Segment.endsBefore_cons_iff,
    (l.segment text').of_head (wellformed_segment h) hc, goesOn_segment_iff]

end Kind

end SourceLexer
