/-
The pieces that a source is made of.

A source is read in segments (`Segment`): blanks, operators, strings and runs
of letters or of digits.  What a segment may look like (`Segment.Wellformed`)
and what may come directly behind it (`Segment.EndsBefore`) are said without
the lexer; a run or a single `=` is a segment only if the next character cannot
prolong it.

* `Segment.of_head` — the class of its first character tells what a segment is;
* `exists_segment` — what a text can begin with;
* `segment_unique` — a text begins with at most one segment.
-/
import Mathlib
import SourceLexer.CharClass

namespace SourceLexer

/-! ### Segments -/

/-- A blank: White_Space but for the no-break spaces and the next-line control, and the four
information separators. -/
def Blank (c : Char) : Prop :=
  isWhiteSpace c = true ∧ c ∉ ['\u00A0', '\u2007', '\u202F', '\u0085'] ∨
    0x1C ≤ c.toNat ∧ c.toNat ≤ 0x1F

/-- The operators that are always a segment of their own. -/
def operatorSigns : List (Char × Kind) :=
  [('*', .star), ('/', .slash), ('+', .plus), ('-', .minus)]

/-- A piece of a source that is read in one go. -/
inductive Segment where
  | blank (c : Char)
  | operator (c : Char) (kind : Kind)
  | doubleEquals
  | equals
  | quoted (body : List Char)
  | letters (run : List Char)
  | digits (run : List Char)
deriving DecidableEq

namespace Segment

/-- The characters of a segment. -/
def chars : Segment → List Char
  | blank c => [c]
  | operator c _ => [c]
  | doubleEquals => ['=', '=']
  | equals => ['=']
  | quoted body => '"' :: body ++ ['"']
  | letters run => run
  | digits run => run

/-- What a segment may look like. -/
def Wellformed : Segment → Prop
  | blank c => Blank c
  | operator c kind => (c, kind) ∈ operatorSigns
  | doubleEquals => True
  | equals => True
  | quoted body => '"' ∉ body
  | letters run => run ≠ [] ∧ ∀ c ∈ run, c.isAlpha = true
  | digits run => run ≠ [] ∧ ∀ c ∈ run, c.isDigit = true

/-- Whether a segment ends in front of `rest`, which may be empty. -/
def EndsBefore (rest : List Char) : Segment → Prop
  | equals => rest.head? ≠ some '='
  | letters _ => ∀ c, rest.head? = some c → c.isAlpha = false
  | digits _ => ∀ c, rest.head? = some c → c.isDigit = false
  | _ => True

/-- Only the next character matters to where a segment ends. -/
theorem endsBefore_congr {s : Segment} {as bs : List Char} (h : as.head? = bs.head?) :
    s.EndsBefore as ↔ s.EndsBefore bs := by
  cases s with
  | equals => rw [EndsBefore, EndsBefore, h]
  | letters run => rw [EndsBefore, EndsBefore, h]
  | digits run => rw [EndsBefore, EndsBefore, h]
  | _ => exact Iff.rfl

/-- The kind and the text of the token that a segment is, unless it is blank. -/
def lexeme? : Segment → Option (Kind × String)
  | blank _ => none
  | operator c kind => some (kind, String.singleton c)
  | doubleEquals => some (.doubleEquals, "==")
  | equals => some (.equals, "=")
  | quoted body => some (.string, String.ofList body)
  | letters run => some (Kind.ofWord (String.ofList run), String.ofList run)
  | digits run => some (.integer, String.ofList run)

/-- The class of the character that a segment begins with. -/
def charClass : Segment → CharClass
  | blank _ => .blank
  | operator _ kind => .operator kind
  | doubleEquals => .equals
  | equals => .equals
  | quoted _ => .quote
  | letters _ => .letter
  | digits _ => .digit

end Segment

/-- Whether some segment begins with a character. -/
def BeginsSegment (c : Char) : Prop := ∃ s : Segment, s.Wellformed ∧ s.chars.head? = some c

/-! ### Classes of first characters -/

theorem isBlank_iff (c : Char) : isBlank c = true ↔ Blank c := by
  simp [isBlank, Blank, inRanges, and_assoc]

theorem operator?_eq_some_iff (c : Char) (kind : Kind) :
    operator? c = some kind ↔ (c, kind) ∈ operatorSigns := by
  unfold operator? operatorSigns
  grind

theorem isAlpha_iff_toNat {c : Char} : c.isAlpha = true ↔
    0x41 ≤ c.toNat ∧ c.toNat ≤ 0x5A ∨ 0x61 ≤ c.toNat ∧ c.toNat ≤ 0x7A := by
  simp [Char.isAlpha, Char.isUpper, Char.isLower, UInt32.le_iff_toNat_le]

theorem isDigit_eq_false_of_isAlpha {c : Char} (h : c.isAlpha = true) : c.isDigit = false := by
  rw [isAlpha_iff_toNat] at h
  rw [Bool.eq_false_iff, ne_eq, Char.isDigit_iff_toNat]
  show ¬ (0x30 ≤ c.toNat ∧ c.toNat ≤ 0x39)
  omega

/-- A blank lies outside the graphic characters of ASCII. -/
theorem Blank.toNat_le_or_lt {c : Char} (h : Blank c) : c.toNat ≤ 0x20 ∨ 0x7E < c.toNat := by
  obtain ⟨h, -⟩ | h := h
  · obtain ⟨r, hr, h⟩ := inRanges_iff.mp h
    -- no range of White_Space reaches into the graphic characters
    simp only [whiteSpaceRanges, List.mem_cons, List.not_mem_nil, or_false] at hr
    rcases hr with rfl | rfl | rfl | rfl | rfl | rfl | rfl | rfl | rfl | rfl <;>
      simp only at h <;> omega
  · omega

theorem Blank.isAlpha_eq_false {c : Char} (h : Blank c) : c.isAlpha = false := by
  have := h.toNat_le_or_lt
  rw [Bool.eq_false_iff, ne_eq, isAlpha_iff_toNat]
  omega

theorem Blank.isDigit_eq_false {c : Char} (h : Blank c) : c.isDigit = false := by
  have := h.toNat_le_or_lt
  rw [Bool.eq_false_iff, ne_eq, Char.isDigit_iff_toNat]
  show ¬ (0x30 ≤ c.toNat ∧ c.toNat ≤ 0x39)
  omega

namespace CharClass

/-- The characters that are told apart one by one. -/
def marks : List Char := ['*', '/', '+', '-', '=', '"']

theorem of_eq_of_not_mem {c : Char} (h : c ∉ marks) :
    of c = if c.isAlpha then .letter else if c.isDigit then .digit
      else if isBlank c then .blank else .other := by
  simp only [marks, List.mem_cons, List.not_mem_nil, or_false, not_or] at h
  obtain ⟨h₁, h₂, h₃, h₄, h₅, h₆⟩ := h
  simp only [of, operator?, if_neg h₁, if_neg h₂, if_neg h₃, if_neg h₄, if_neg h₅, if_neg h₆]

theorem not_mem_marks {p : Char → Bool} {c : Char} (hp : marks.any p = false)
    (h : p c = true) : c ∉ marks := by
  intro hm
  rw [List.any_eq_false] at hp
  exact hp c hm h

theorem of_eq_letter {c : Char} (h : c.isAlpha = true) : of c = .letter := by
  rw [of_eq_of_not_mem (not_mem_marks rfl h), if_pos h]

theorem of_eq_digit {c : Char} (h : c.isDigit = true) : of c = .digit := by
  have ha : ¬ c.isAlpha = true := fun ha => by
    rw [isDigit_eq_false_of_isAlpha ha] at h
    cases h
  rw [of_eq_of_not_mem (not_mem_marks rfl h), if_neg ha, if_pos h]

theorem of_eq_blank {c : Char} (h : Blank c) : of c = .blank := by
  have hb := (isBlank_iff c).mpr h
  rw [of_eq_of_not_mem (not_mem_marks rfl hb), h.isAlpha_eq_false, h.isDigit_eq_false,
    if_neg (by decide), if_neg (by decide), if_pos hb]

theorem of_eq_operator {c : Char} {kind : Kind} (h : (c, kind) ∈ operatorSigns) :
    of c = .operator kind := by
  rw [of, (operator?_eq_some_iff c kind).mpr h]

end CharClass

theorem Segment.exists_head {s : Segment} (h : s.Wellformed) : ∃ c cs, s.chars = c :: cs := by
  cases s with
  | letters run => exact List.exists_cons_of_ne_nil h.1
  | digits run => exact List.exists_cons_of_ne_nil h.1
  | _ => exact ⟨_, _, rfl⟩

/-- The class of its first character tells what a segment is. -/
theorem Segment.of_head {s : Segment} (h : s.Wellformed) {c : Char} {cs : List Char}
    (hc : s.chars = c :: cs) : CharClass.of c = s.charClass := by
  cases s with
  | blank d =>
    obtain ⟨rfl, -⟩ := List.cons.inj hc
    exact CharClass.of_eq_blank h
  | operator d kind =>
    obtain ⟨rfl, -⟩ := List.cons.inj hc
    exact CharClass.of_eq_operator h
  | doubleEquals =>
    obtain ⟨rfl, -⟩ := List.cons.inj hc
    rfl
  | equals =>
    obtain ⟨rfl, -⟩ := List.cons.inj hc
    rfl
  | quoted body =>
    obtain ⟨rfl, -⟩ := List.cons.inj hc
    rfl
  | letters run =>
    have hr : run = c :: cs := hc
    exact CharClass.of_eq_letter (h.2 c (by simp [hr]))
  | digits run =>
    have hr : run = c :: cs := hc
    exact CharClass.of_eq_digit (h.2 c (by simp [hr]))

/-- What a class says about its characters. -/
def CharClass.Describes (c : Char) : CharClass → Prop
  | .operator kind => (c, kind) ∈ operatorSigns
  | .equals => c = '='
  | .quote => c = '"'
  | .letter => c.isAlpha = true
  | .digit => c.isDigit = true
  | .blank => Blank c
  | .other => ¬ BeginsSegment c

theorem not_beginsSegment {c : Char} (h : CharClass.of c = .other) : ¬ BeginsSegment c := by
  rintro ⟨s, hs, hc⟩
  obtain ⟨d, cs, hd⟩ := s.exists_head hs
  rw [hd, List.head?_cons, Option.some_inj] at hc
  have hclass := s.of_head hs hd
  rw [hc, h] at hclass
  cases s <;> cases hclass

theorem CharClass.describes_of (c : Char) : (of c).Describes c := by
  by_cases hm : c ∈ marks
  · simp only [marks, List.mem_cons, List.not_mem_nil, or_false] at hm
    rcases hm with rfl | rfl | rfl | rfl | rfl | rfl
    · exact (operator?_eq_some_iff _ _).mp rfl
    · exact (operator?_eq_some_iff _ _).mp rfl
    · exact (operator?_eq_some_iff _ _).mp rfl
    · exact (operator?_eq_some_iff _ _).mp rfl
    · rfl
    · rfl
  -- the tests come one after the other: each may assume that those before it failed
  · have h := of_eq_of_not_mem hm
    by_cases ha : c.isAlpha
    · rw [h, if_pos ha]
      exact ha
    by_cases hd : c.isDigit
    · rw [h, if_neg ha, if_pos hd]
      exact hd
    by_cases hb : isBlank c
    · rw [h, if_neg ha, if_neg hd, if_pos hb]
      exact (isBlank_iff c).mp hb
    rw [if_neg ha, if_neg hd, if_neg hb] at h
    rw [h]
    exact not_beginsSegment h

theorem CharClass.of_eq_other {c : Char} (h : ¬ BeginsSegment c) : of c = .other := by
  have hd := describes_of c
  by_contra hc
  refine h ?_
  cases hk : of c with
  | other => exact absurd hk hc
  | operator kind =>
    rw [hk] at hd
    exact ⟨.operator c kind, hd, rfl⟩
  | equals =>
    rw [hk] at hd
    obtain rfl : c = '=' := hd
    exact ⟨.equals, trivial, rfl⟩
  | quote =>
    rw [hk] at hd
    obtain rfl : c = '"' := hd
    exact ⟨.quoted [], List.not_mem_nil, rfl⟩
  | letter =>
    rw [hk] at hd
    exact ⟨.letters [c], ⟨List.cons_ne_nil _ _, List.forall_mem_singleton.mpr hd⟩, rfl⟩
  | digit =>
    rw [hk] at hd
    exact ⟨.digits [c], ⟨List.cons_ne_nil _ _, List.forall_mem_singleton.mpr hd⟩, rfl⟩
  | blank =>
    rw [hk] at hd
    exact ⟨.blank c, hd, rfl⟩

namespace CharClass

theorem of_eq_letter_iff (c : Char) : of c = .letter ↔ c.isAlpha = true := by
  refine ⟨fun h => ?_, of_eq_letter⟩
  have hd := describes_of c
  rw [h] at hd
  exact hd

theorem of_eq_digit_iff (c : Char) : of c = .digit ↔ c.isDigit = true := by
  refine ⟨fun h => ?_, of_eq_digit⟩
  have hd := describes_of c
  rw [h] at hd
  exact hd

theorem of_eq_equals_iff (c : Char) : of c = .equals ↔ c = '=' := by
  refine ⟨fun h => ?_, fun h => by rw [h]; rfl⟩
  have hd := describes_of c
  rw [h] at hd
  exact hd

theorem of_eq_quote_iff (c : Char) : of c = .quote ↔ c = '"' := by
  refine ⟨fun h => ?_, fun h => by rw [h]; rfl⟩
  have hd := describes_of c
  rw [h] at hd
  exact hd

end CharClass

/-- Whether a character of class `k` behind a segment would belong to the same piece. -/
def Segment.GoesOn (k : CharClass) : Segment → Prop
  | equals => k = .equals
  | letters _ => k = .letter
  | digits _ => k = .digit
  | _ => False

theorem Segment.endsBefore_cons_iff (s : Segment) (c : Char) (cs : List Char) :
    s.EndsBefore (c :: cs) ↔ ¬ s.GoesOn (CharClass.of c) := by
  cases s with
  | equals =>
    rw [EndsBefore, GoesOn, CharClass.of_eq_equals_iff, List.head?_cons, ne_eq, Option.some_inj]
  | letters run =>
    rw [EndsBefore, GoesOn, CharClass.of_eq_letter_iff, Bool.not_eq_true]
    exact ⟨fun h => h c rfl, fun h d hd => by rwa [← Option.some.inj hd]⟩
  | digits run =>
    rw [EndsBefore, GoesOn, CharClass.of_eq_digit_iff, Bool.not_eq_true]
    exact ⟨fun h => h c rfl, fun h d hd => by rwa [← Option.some.inj hd]⟩
  | _ => exact ⟨fun _ h => h, fun _ => trivial⟩

theorem Segment.endsBefore_nil (s : Segment) : s.EndsBefore [] := by
  cases s with
  | equals => exact Option.some_ne_none '=' |>.symm
  | letters run =>
    intro c hc
    cases hc
  | digits run =>
    intro c hc
    cases hc
  | _ => trivial

/-! ### The first segment of a text -/

theorem head?_dropWhile_eq_false {p : Char → Bool} {cs : List Char} {c : Char}
    (h : (cs.dropWhile p).head? = some c) : p c = false := by
  have := List.head?_dropWhile_not p cs
  rw [h] at this
  simpa using this

/-- A run that goes on for as long as it can. -/
theorem eq_takeWhile_of_append {p : Char → Bool} {run rest : List Char}
    (hr : ∀ c ∈ run, p c = true) (he : ∀ c, rest.head? = some c → p c = false) :
    (run ++ rest).takeWhile p = run := by
  rw [List.takeWhile_append_of_pos hr]
  cases rest with
  | nil => rw [List.takeWhile_nil, List.append_nil]
  | cons c cs => rw [List.takeWhile_cons_of_neg (by rw [he c rfl]; decide), List.append_nil]

theorem takeWhile_ne_quote {body : List Char} (rest : List Char) (h : '"' ∉ body) :
    (body ++ '"' :: rest).takeWhile (· ≠ '"') = body := by
  refine eq_takeWhile_of_append ?_ ?_
  · intro c hc
    simpa using ne_of_mem_of_not_mem hc h
  · intro c hc
    obtain rfl : '"' = c := Option.some.inj hc
    rfl

/-- A text begins with a segment, or no segment begins with its first character, or it begins
with a string that does not end. -/
theorem exists_segment (c : Char) (cs : List Char) :
    (∃ (s : Segment) (rest : List Char), c :: cs = s.chars ++ rest ∧ s.Wellformed ∧ s.EndsBefore rest) ∨
      ¬ BeginsSegment c ∨ c = '"' ∧ '"' ∉ cs := by
  have h := CharClass.describes_of c
  cases hc : CharClass.of c with
  | operator kind =>
    rw [hc] at h
    exact Or.inl ⟨.operator c kind, cs, rfl, h, trivial⟩
  | equals =>
    rw [hc] at h
    obtain rfl : c = '=' := h
    by_cases he : cs.head? = some '='
    · obtain ⟨rest, rfl⟩ := List.head?_eq_some_iff.mp he
      exact Or.inl ⟨.doubleEquals, rest, rfl, trivial, trivial⟩
    · exact Or.inl ⟨.equals, cs, rfl, trivial, he⟩
  | quote =>
    rw [hc] at h
    obtain rfl : c = '"' := h
    by_cases hq : '"' ∈ cs
    · obtain ⟨body, rest, rfl, hb⟩ := List.eq_append_cons_of_mem hq
      refine Or.inl ⟨.quoted body, rest, ?_, hb, trivial⟩
      simp [Segment.chars]
    · exact Or.inr (Or.inr ⟨rfl, hq⟩)
  | letter =>
    rw [hc] at h
    -- the run goes on for as long as it can
    refine Or.inl ⟨.letters (c :: cs.takeWhile Char.isAlpha), cs.dropWhile Char.isAlpha, ?_,
      ⟨List.cons_ne_nil _ _, ?_⟩, fun d hd => head?_dropWhile_eq_false hd⟩
    · rw [Segment.chars, List.cons_append, List.takeWhile_append_dropWhile]
    · intro d hd
      rcases List.mem_cons.mp hd with rfl | hd
      · exact h
      · exact List.mem_takeWhile_imp hd
  | digit =>
    rw [hc] at h
    refine Or.inl ⟨.digits (c :: cs.takeWhile Char.isDigit), cs.dropWhile Char.isDigit, ?_,
      ⟨List.cons_ne_nil _ _, ?_⟩, fun d hd => head?_dropWhile_eq_false hd⟩
    · rw [Segment.chars, List.cons_append, List.takeWhile_append_dropWhile]
    · intro d hd
      rcases List.mem_cons.mp hd with rfl | hd
      · exact h
      · exact List.mem_takeWhile_imp hd
  | blank =>
    rw [hc] at h
    exact Or.inl ⟨.blank c, cs, rfl, h, trivial⟩
  | other =>
    rw [hc] at h
    exact Or.inr (Or.inl h)

/-- A text begins with at most one segment. -/
theorem segment_unique {s t : Segment} {as bs : List Char} (h : s.chars ++ as = t.chars ++ bs)
    (hs : s.Wellformed) (ht : t.Wellformed) (hs' : s.EndsBefore as) (ht' : t.EndsBefore bs) :
    s = t ∧ as = bs := by
  obtain ⟨c, cs, hc⟩ := s.exists_head hs
  obtain ⟨d, ds, hd⟩ := t.exists_head ht
  have hcd : c = d := by
    rw [hc, hd] at h
    exact (List.cons.inj h).1
  -- segments that begin with the same character are of one class, and only `=` and `==` are
  -- of the same class without being of the same form
  have hclass : s.charClass = t.charClass := by
    rw [← s.of_head hs hc, ← t.of_head ht hd, hcd]
  cases s with
  | blank a =>
    cases t with
    | blank b => exact ⟨by rw [(List.cons.inj h).1], (List.cons.inj h).2⟩
    | _ => cases hclass
  | operator a k =>
    cases t with
    | operator b l =>
      obtain rfl : k = l := CharClass.operator.inj hclass
      exact ⟨by rw [(List.cons.inj h).1], (List.cons.inj h).2⟩
    | _ => cases hclass
  | doubleEquals =>
    cases t with
    | doubleEquals => exact ⟨rfl, (List.cons.inj (List.cons.inj h).2).2⟩
    | equals => exact absurd (congrArg List.head? (List.cons.inj h).2).symm ht'
    | _ => cases hclass
  | equals =>
    cases t with
    | doubleEquals => exact absurd (congrArg List.head? (List.cons.inj h).2) hs'
    | equals => exact ⟨rfl, (List.cons.inj h).2⟩
    | _ => cases hclass
  | quoted body =>
    cases t with
    | quoted body' =>
      have h' : body ++ '"' :: as = body' ++ '"' :: bs := by
        simpa [Segment.chars] using h
      have hb : body = body' := by
        rw [← takeWhile_ne_quote as hs, h', takeWhile_ne_quote bs ht]
      subst hb
      exact ⟨rfl, (List.cons.inj (List.append_cancel_left h')).2⟩
    | _ => cases hclass
  | letters run =>
    cases t with
    | letters run' =>
      have hr : run = run' := by
        rw [← eq_takeWhile_of_append hs.2 hs', ← eq_takeWhile_of_append ht.2 ht']
        exact congrArg (List.takeWhile Char.isAlpha) h
      subst hr
      exact ⟨rfl, List.append_cancel_left h⟩
    | _ => cases hclass
  | digits run =>
    cases t with
    | digits run' =>
      have hr : run = run' := by
        rw [← eq_takeWhile_of_append hs.2 hs', ← eq_takeWhile_of_append ht.2 ht']
        exact congrArg (List.takeWhile Char.isDigit) h
      subst hr
      exact ⟨rfl, List.append_cancel_left h⟩
    | _ => cases hclass

end SourceLexer
