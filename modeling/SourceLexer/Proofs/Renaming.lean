/-
Characters that are replaced by others of their class.

A renaming (`Renaming`) keeps the characters that mean something by themselves
and takes letters to letters, digits to digits, blanks to blanks, and what begins
no token to such characters again.  A scan cannot tell a source from the renamed
one but by the words that are keywords:

* `Renaming.charClass_apply` — renaming keeps the class of every character;
* `Renaming.reads` — the reading of the renamed source is the renamed reading;
* `lex_rename` — tokens and errors of the renamed source.
-/
import SourceLexer.Proofs.Spelling

namespace SourceLexer

/-- A map of characters that keeps what the lexer tells apart. -/
structure Renaming where
  apply : Char → Char
  apply_newline : apply '\n' = '\n'
  /-- Operators and the quotation mark stay. -/
  apply_mark : ∀ c ∈ CharClass.marks, apply c = c
  isAlpha_apply : ∀ c, c.isAlpha = true → (apply c).isAlpha = true
  isDigit_apply : ∀ c, c.isDigit = true → (apply c).isDigit = true
  blank_apply : ∀ c, Blank c → c ≠ '\n' → Blank (apply c) ∧ apply c ≠ '\n'
  /-- Of all the others none begins a token or is blank afterwards. -/
  other_apply : ∀ c, c ∉ CharClass.marks → c.isAlpha = false → c.isDigit = false → ¬ Blank c →
    ¬ BeginsSegment (apply c)

namespace Renaming

variable (ρ : Renaming)

/-! ### What is renamed -/

/-- A text, character by character. -/
def text (s : String) : String := s.map ρ.apply

/-- The kind of a renamed token: a word is looked up again, any other kind stays. -/
def kind (k : Kind) (s : String) : Kind := if k.isWord then Kind.ofWord (ρ.text s) else k

/-- A token with its text renamed, in the same place and with the same end. -/
def token (t : Token) : Token := { t with kind := ρ.kind t.kind t.text, text := ρ.text t.text }

/-- An error with the character renamed that it is about. -/
def error : LexError → LexError
  | .unterminatedString p => .unterminatedString p
  | .unrecognizedCharacter c p => .unrecognizedCharacter (ρ.apply c) p

/-- A segment, character by character. -/
def segment : Segment → Segment
  | .blank c => .blank (ρ.apply c)
  | .operator c k => .operator (ρ.apply c) k
  | .doubleEquals => .doubleEquals
  | .equals => .equals
  | .quoted body => .quoted (body.map ρ.apply)
  | .letters run => .letters (run.map ρ.apply)
  | .digits run => .digits (run.map ρ.apply)

/-- An ending, character by character. -/
def ending : Ending → Ending
  | .complete => .complete
  | .stray c behind => .stray (ρ.apply c) (behind.map ρ.apply)
  | .unclosed body => .unclosed (body.map ρ.apply)

theorem toList_text (s : String) : (ρ.text s).toList = s.toList.map ρ.apply := String.toList_map

theorem text_ofList (cs : List Char) :
    ρ.text (String.ofList cs) = String.ofList (cs.map ρ.apply) := by
  rw [← String.toList_inj, toList_text, String.toList_ofList, String.toList_ofList]

/-! ### Classes stay -/

theorem charClass_apply (c : Char) : CharClass.of (ρ.apply c) = CharClass.of c := by
  by_cases hm : c ∈ CharClass.marks
  · rw [ρ.apply_mark c hm]
  by_cases ha : c.isAlpha = true
  · rw [CharClass.of_eq_letter ha, CharClass.of_eq_letter (ρ.isAlpha_apply c ha)]
  by_cases hd : c.isDigit = true
  · rw [CharClass.of_eq_digit hd, CharClass.of_eq_digit (ρ.isDigit_apply c hd)]
  by_cases hb : Blank c
  · by_cases hn : c = '\n'
    · rw [hn, ρ.apply_newline]
    · rw [CharClass.of_eq_blank hb, CharClass.of_eq_blank (ρ.blank_apply c hb hn).1]
  -- nothing is left but the characters that begin no segment
  · have hc : CharClass.of c = .other := by
      rw [CharClass.of_eq_of_not_mem hm, if_neg ha, if_neg hd, if_neg (mt (isBlank_iff c).mp hb)]
    rw [hc]
    exact CharClass.of_eq_other
      (ρ.other_apply c hm (by simpa using ha) (by simpa using hd) hb)

theorem apply_eq_newline_iff (c : Char) : ρ.apply c = '\n' ↔ c = '\n' := by
  refine ⟨fun h => ?_, fun h => by rw [h, ρ.apply_newline]⟩
  -- what becomes a newline is blank, and other blanks do not become one
  have hclass := ρ.charClass_apply c
  have hblank : Blank c := by
    have hd := CharClass.describes_of c
    rw [← hclass, h] at hd
    exact hd
  by_contra hn
  exact (ρ.blank_apply c hblank hn).2 h

theorem apply_eq_quote_iff (c : Char) : ρ.apply c = '"' ↔ c = '"' := by
  rw [← CharClass.of_eq_quote_iff, ρ.charClass_apply, CharClass.of_eq_quote_iff]

theorem quote_not_mem_map {cs : List Char} (h : '"' ∉ cs) : '"' ∉ cs.map ρ.apply := by
  intro hm
  obtain ⟨c, hc, hq⟩ := List.mem_map.mp hm
  rw [ρ.apply_eq_quote_iff] at hq
  exact h (hq ▸ hc)

/-! ### Positions and ends stay -/

theorem pastAll_map (p : Position) (cs : List Char) :
    p.pastAll (cs.map ρ.apply) = p.pastAll cs := by
  have hpast : ∀ (p : Position) c, p.past (ρ.apply c) = p.past c := by
    intro p c
    simp only [Position.past, ρ.apply_eq_newline_iff]
  rw [Position.pastAll, List.foldl_map]
  simp only [hpast]
  rfl

theorem extent_text (s : String) : Extent.of (ρ.text s) = Extent.of s := by
  have hpush : ∀ (e : Extent) c, e.push (ρ.apply c) = e.push c := by
    intro e c
    simp only [Extent.push, ρ.apply_eq_newline_iff]
  rw [Extent.of, toList_text, List.foldl_map]
  simp only [hpush]
  rfl

theorem startingAt_rename (k : Kind) (s : String) (p : Position) :
    ρ.token (.startingAt k s p) = .startingAt (ρ.kind k s) (ρ.text s) p := by
  simp only [token, Token.startingAt, extent_text]

/-! ### The renamed reading -/

theorem chars_segment (s : Segment) : (ρ.segment s).chars = s.chars.map ρ.apply := by
  cases s with
  | doubleEquals | equals => simp [segment, Segment.chars, ρ.apply_mark '=' (by decide)]
  | quoted body => simp [segment, Segment.chars, ρ.apply_mark '"' (by decide)]
  | _ => rfl

theorem spelled_segments (ss : List Segment) :
    spelled (ss.map ρ.segment) = (spelled ss).map ρ.apply := by
  induction ss with
  | nil => rfl
  | cons s ss ih =>
    rw [List.map_cons, spelled_cons, spelled_cons, List.map_append, ρ.chars_segment, ih]

theorem mem_marks_of_operator {c : Char} {k : Kind} (h : (c, k) ∈ operatorSigns) :
    c ∈ CharClass.marks ∧ k.isWord = false := by
  simp only [operatorSigns, List.mem_cons, List.not_mem_nil, or_false, Prod.mk.injEq] at h
  rcases h with ⟨rfl, rfl⟩ | ⟨rfl, rfl⟩ | ⟨rfl, rfl⟩ | ⟨rfl, rfl⟩ <;> decide

theorem forall_mem_map {p : Char → Bool} (hp : ∀ c, p c = true → p (ρ.apply c) = true)
    {run : List Char} (h : ∀ c ∈ run, p c = true) : ∀ c ∈ run.map ρ.apply, p c = true := by
  intro d hd
  obtain ⟨c, hc, rfl⟩ := List.mem_map.mp hd
  exact hp c (h c hc)

theorem wellformed_segment {s : Segment} (hs : s.Wellformed) : (ρ.segment s).Wellformed := by
  cases s with
  | blank c =>
    by_cases hn : c = '\n'
    · show Blank (ρ.apply c)
      rw [hn, ρ.apply_newline, ← hn]
      exact hs
    · exact (ρ.blank_apply c hs hn).1
  | operator c k =>
    show (ρ.apply c, k) ∈ operatorSigns
    rw [ρ.apply_mark c (mem_marks_of_operator hs).1]
    exact hs
  | doubleEquals => trivial
  | equals => trivial
  | quoted body => exact ρ.quote_not_mem_map hs
  | letters run => exact ⟨mt List.map_eq_nil_iff.mp hs.1, ρ.forall_mem_map ρ.isAlpha_apply hs.2⟩
  | digits run => exact ⟨mt List.map_eq_nil_iff.mp hs.1, ρ.forall_mem_map ρ.isDigit_apply hs.2⟩

/-- Where a segment ends depends on the class of the next character alone. -/
theorem endsBefore_segment {s : Segment} {rest : List Char} (h : s.EndsBefore rest) :
    (ρ.segment s).EndsBefore (rest.map ρ.apply) := by
  cases rest with
  | nil => exact Segment.endsBefore_nil _
  | cons c cs =>
    rw [Segment.endsBefore_cons_iff] at h
    rw [List.map_cons, Segment.endsBefore_cons_iff, ρ.charClass_apply]
    cases s <;> exact h

theorem segmented_segments {rest : List Char} {ss : List Segment} (hss : Segmented rest ss) :
    Segmented (rest.map ρ.apply) (ss.map ρ.segment) := by
  induction ss with
  | nil => trivial
  | cons s ss ih =>
    obtain ⟨hs, hs', hss⟩ := hss
    refine ⟨ρ.wellformed_segment hs, ?_, ih hss⟩
    rw [ρ.spelled_segments, ← List.map_append]
    exact ρ.endsBefore_segment hs'

theorem chars_ending (e : Ending) : (ρ.ending e).chars = e.chars.map ρ.apply := by
  cases e with
  | unclosed body => simp [ending, Ending.chars, ρ.apply_mark '"' (by decide)]
  | _ => rfl

theorem wellformed_ending {e : Ending} (he : e.Wellformed) : (ρ.ending e).Wellformed := by
  cases e with
  | complete => trivial
  | stray c behind =>
    refine not_beginsSegment ?_
    rw [ρ.charClass_apply, CharClass.of_eq_other he]
  | unclosed body => exact ρ.quote_not_mem_map he

/-- A renamed source is read as the source is, character by character. -/
theorem reads {r : Reading} {cs : List Char} (h : r.Reads cs) :
    Reading.Reads ⟨r.segments.map ρ.segment, ρ.ending r.ending⟩ (cs.map ρ.apply) := by
  obtain ⟨rfl, hss, he⟩ := h
  refine ⟨?_, ?_, ρ.wellformed_ending he⟩
  · rw [ρ.spelled_segments, ρ.chars_ending, List.map_append]
  · rw [ρ.chars_ending]
    exact ρ.segmented_segments hss

/-! ### The tokens of the renamed reading -/

theorem lexeme?_segment {s : Segment} (hs : s.Wellformed) :
    (ρ.segment s).lexeme? = s.lexeme?.map fun l => (ρ.kind l.1 l.2, ρ.text l.2) := by
  cases s with
  | blank c => rfl
  | operator c k =>
    have hk : ρ.kind k (String.singleton c) = k := by
      rw [kind, (mem_marks_of_operator hs).2, if_neg Bool.false_ne_true]
    have htext : ρ.text (String.singleton c) = String.singleton (ρ.apply c) := by
      rw [← String.toList_inj, toList_text]
      simp
    simp only [segment, Segment.lexeme?, Option.map_some, hk, htext]
  | doubleEquals | equals =>
    have hequals : ρ.apply '=' = '=' := ρ.apply_mark '=' (by decide)
    simp [segment, Segment.lexeme?, kind, Kind.isWord, Kind.isKeyword, text, ← String.toList_inj,
      hequals]
  | quoted body =>
    rw [segment, Segment.lexeme?, Segment.lexeme?, Option.map_some, text_ofList]
    rfl
  | letters run =>
    have hk : ρ.kind (Kind.ofWord (String.ofList run)) (String.ofList run) =
        Kind.ofWord (String.ofList (run.map ρ.apply)) := by
      rw [kind, Kind.isWord_ofWord, if_pos rfl, text_ofList]
    simp only [segment, Segment.lexeme?, Option.map_some, hk, text_ofList]
  | digits run =>
    rw [segment, Segment.lexeme?, Segment.lexeme?, Option.map_some, text_ofList]
    rfl

theorem tokensFrom_segments {rest : List Char} {ss : List Segment} (hss : Segmented rest ss)
    (p : Position) : tokensFrom p (ss.map ρ.segment) = (tokensFrom p ss).map ρ.token := by
  induction ss generalizing p with
  | nil => rfl
  | cons s ss ih =>
    obtain ⟨hs, -, hss⟩ := hss
    have htoken : (ρ.segment s).token? p = (s.token? p).map ρ.token := by
      rw [Segment.token?, Segment.token?, ρ.lexeme?_segment hs, Option.map_map, Option.map_map]
      congr 1
      funext l
      exact (ρ.startingAt_rename l.1 l.2 p).symm
    rw [List.map_cons, tokensFrom, tokensFrom, ρ.chars_segment, ρ.pastAll_map, ih hss, htoken,
      List.map_append, Option.toList_map]

end Renaming

/-- **Lexing sees of a character its class alone**, apart from keywords: the tokens of a renamed
source are the renamed tokens, in the same places, and an error stays where it is. -/
theorem lex_rename (ρ : Renaming) (source : String) :
    lex (ρ.text source) =
      match lex source with
      | .ok ts => .ok (ts.map ρ.token)
      | .error e => .error (ρ.error e) := by
  obtain ⟨r, hr⟩ := exists_reads source.toList
  have hrenamed : Reading.Reads ⟨r.segments.map ρ.segment, ρ.ending r.ending⟩
      (ρ.text source).toList := by
    rw [ρ.toList_text]
    exact ρ.reads hr
  have hstop : Reading.stop Position.start ⟨r.segments.map ρ.segment, ρ.ending r.ending⟩ =
      r.stop Position.start := by
    rw [Reading.stop, ρ.spelled_segments, ρ.pastAll_map, Reading.stop]
  rw [lex_of_reads hr, lex_of_reads hrenamed, Reading.result, hstop, Reading.result]
  cases r.ending with
  | complete => exact congrArg Except.ok (ρ.tokensFrom_segments hr.segmented _)
  | stray c behind => rfl
  | unclosed body => rfl

namespace Renaming

/-- The shape of a source: of letters, digits, blanks and stray characters it shows only that they
are such. -/
def shape : Renaming where
  apply c :=
    match CharClass.of c with
    | .letter => 'x'
    | .digit => '0'
    | .blank => if c = '\n' then c else ' '
    | .other => '?'
    | _ => c
  apply_newline := rfl
  apply_mark c hm := by
    simp only [CharClass.marks, List.mem_cons, List.not_mem_nil, or_false] at hm
    rcases hm with rfl | rfl | rfl | rfl | rfl | rfl <;> rfl
  isAlpha_apply c h := by rw [CharClass.of_eq_letter h]; rfl
  isDigit_apply c h := by rw [CharClass.of_eq_digit h]; rfl
  blank_apply c h hn := by
    simp only [CharClass.of_eq_blank h, if_neg hn]
    exact ⟨(isBlank_iff ' ').mp rfl, by decide⟩
  other_apply c hm ha hd hb := by
    have hc : CharClass.of c = .other := by
      rw [CharClass.of_eq_of_not_mem hm, ha, hd, if_neg Bool.false_ne_true,
        if_neg Bool.false_ne_true, if_neg (mt (isBlank_iff c).mp hb)]
    rw [hc]
    exact not_beginsSegment rfl

end Renaming

/-- Of a keyword the shape leaves a word; an emoji is as good as a letter within a string. -/
theorem lex_rename_shape :
    lex "let\u2003s=\"a😀\"7" = .ok [⟨.kwLet, "let", 0, 0, -1, 3⟩,
      ⟨.identifier, "s", 0, 0, 3, 1⟩, ⟨.equals, "=", 0, 0, 4, 1⟩, ⟨.string, "a😀", 0, 0, 5, 2⟩,
      ⟨.integer, "7", 0, 0, 9, 1⟩] ∧
    lex "xxx x=\"x?\"0" = .ok [⟨.identifier, "xxx", 0, 0, -1, 3⟩,
      ⟨.identifier, "x", 0, 0, 3, 1⟩, ⟨.equals, "=", 0, 0, 4, 1⟩, ⟨.string, "x?", 0, 0, 5, 2⟩,
      ⟨.integer, "0", 0, 0, 9, 1⟩] := by
  have htext : Renaming.shape.text "let\u2003s=\"a😀\"7" = "xxx x=\"x?\"0" := by
    rw [← String.toList_inj, Renaming.toList_text]
    decide
  have h : lex "let\u2003s=\"a😀\"7" = .ok [⟨.kwLet, "let", 0, 0, -1, 3⟩,
      ⟨.identifier, "s", 0, 0, 3, 1⟩, ⟨.equals, "=", 0, 0, 4, 1⟩, ⟨.string, "a😀", 0, 0, 5, 2⟩,
      ⟨.integer, "7", 0, 0, 9, 1⟩] := by decide +kernel
  have hrenamed := lex_rename Renaming.shape "let\u2003s=\"a😀\"7"
  rw [htext, h] at hrenamed
  refine ⟨h, hrenamed.trans ?_⟩
  decide +kernel

end SourceLexer
