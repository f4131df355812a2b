/-
The lexical grammar.

Segments stand one behind the other (`Segmented`) up to the end of a source or
to a place where none begins (`Ending`).  Both together are a `Reading` of the
source, and every source has exactly one (`existsUnique_reads`).
-/
import SourceLexer.Proofs.Segment

namespace SourceLexer

/-- The characters of segments that stand one behind the other. -/
def spelled (ss : List Segment) : List Char := ss.flatMap Segment.chars

@[simp] theorem spelled_nil : spelled [] = [] := rfl

@[simp] theorem spelled_cons (s : Segment) (ss : List Segment) :
    spelled (s :: ss) = s.chars ++ spelled ss := rfl

@[simp] theorem spelled_append (ss ts : List Segment) :
    spelled (ss ++ ts) = spelled ss ++ spelled ts :=
  List.flatMap_append

/-- Whether segments can stand one behind the other in front of `rest`. -/
def Segmented (rest : List Char) : List Segment → Prop
  | [] => True
  | s :: ss => s.Wellformed ∧ s.EndsBefore (spelled ss ++ rest) ∧ Segmented rest ss

theorem segmented_append_iff {rest : List Char} {ss ts : List Segment} :
    Segmented rest (ss ++ ts) ↔ Segmented (spelled ts ++ rest) ss ∧ Segmented rest ts := by
  induction ss with
  | nil => exact ⟨fun h => ⟨trivial, h⟩, fun h => h.2⟩
  | cons s ss ih =>
    rw [List.cons_append, Segmented, Segmented, ih, spelled_append, List.append_assoc]
    tauto

/-- What is behind some segments matters to the last of them only. -/
theorem Segmented.before {rest rest' : List Char} {ss : List Segment} (h : Segmented rest ss)
    (hl : ∀ s, ss.getLast? = some s → s.EndsBefore rest') : Segmented rest' ss := by
  induction ss with
  | nil => trivial
  | cons s ss ih =>
    obtain ⟨hs, hs', hss⟩ := h
    cases ss with
    | nil => exact ⟨hs, hl s rfl, trivial⟩
    | cons t ts =>
      -- what `s` sees is the first character of `t`, whatever comes behind
      refine ⟨hs, (Segment.endsBefore_congr ?_).mp hs', ih hss hl⟩
      obtain ⟨c, cs, hc⟩ := t.exists_head hss.1
      rw [spelled_cons, hc]
      rfl

/-- What comes behind the segments of a source. -/
inductive Ending where
  /-- Nothing. -/
  | complete
  /-- A character that no segment begins with, and what is behind it. -/
  | stray (c : Char) (behind : List Char)
  /-- A string that does not end. -/
  | unclosed (body : List Char)
deriving DecidableEq

namespace Ending

/-- The characters of an ending. -/
def chars : Ending → List Char
  | complete => []
  | stray c behind => c :: behind
  | unclosed body => '"' :: body

/-- What an ending may look like. -/
def Wellformed : Ending → Prop
  | complete => True
  | stray c _ => ¬ BeginsSegment c
  | unclosed body => '"' ∉ body

end Ending

/-- Segments, and what comes behind the last of them. -/
structure Reading where
  segments : List Segment
  ending : Ending
deriving DecidableEq

/-- Whether a text is read so. -/
structure Reading.Reads (r : Reading) (cs : List Char) : Prop where
  spelled_eq : spelled r.segments ++ r.ending.chars = cs
  segmented : Segmented r.ending.chars r.segments
  wellformed : r.ending.Wellformed

/-! ### Every text is read in exactly one way -/

namespace Reading

theorem reads_nil_iff {e : Ending} {cs : List Char} :
    Reads ⟨[], e⟩ cs ↔ e.chars = cs ∧ e.Wellformed :=
  ⟨fun h => ⟨h.spelled_eq, h.wellformed⟩, fun h => ⟨h.1, trivial, h.2⟩⟩

theorem reads_cons_iff {s : Segment} {ss : List Segment} {e : Ending} {cs : List Char} :
    Reads ⟨s :: ss, e⟩ cs ↔
      ∃ rest, s.chars ++ rest = cs ∧ s.Wellformed ∧ s.EndsBefore rest ∧ Reads ⟨ss, e⟩ rest := by
  constructor
  · rintro ⟨h, ⟨hs, hs', hss⟩, he⟩
    exact ⟨spelled ss ++ e.chars, by rw [← h, spelled_cons, List.append_assoc], hs, hs',
      rfl, hss, he⟩
  · rintro ⟨rest, rfl, hs, hs', rfl, hss, he⟩
    exact ⟨by rw [spelled_cons, List.append_assoc], ⟨hs, hs', hss⟩, he⟩

end Reading

/-- No segment goes on into an ending behind it. -/
theorem Ending.endsBefore {e : Ending} (he : e.Wellformed) (s : Segment) :
    s.EndsBefore e.chars := by
  cases e with
  | complete => exact s.endsBefore_nil
  | stray c behind =>
    rw [chars, s.endsBefore_cons_iff, CharClass.of_eq_other he]
    cases s <;> exact nofun
  | unclosed body =>
    rw [chars, s.endsBefore_cons_iff]
    cases s <;> exact nofun

namespace Reading

/-- The segments of a text are also those of the part of it in front of the ending. -/
theorem reads_iff_complete {ss : List Segment} {e : Ending} {cs : List Char} :
    Reads ⟨ss, e⟩ cs ↔
      Reads ⟨ss, .complete⟩ (spelled ss) ∧ spelled ss ++ e.chars = cs ∧ e.Wellformed := by
  constructor
  · rintro ⟨h, hss, he⟩
    exact ⟨⟨List.append_nil _, hss.before fun s _ => s.endsBefore_nil, trivial⟩, h, he⟩
  · rintro ⟨⟨-, hss, -⟩, h, he⟩
    exact ⟨h, hss.before fun s _ => Ending.endsBefore he s, he⟩

end Reading

open Reading

theorem exists_reads (cs : List Char) : ∃ r : Reading, r.Reads cs := by
  induction hn : cs.length using Nat.strong_induction_on generalizing cs with
  | _ n ih =>
    cases cs with
    | nil => exact ⟨⟨[], .complete⟩, reads_nil_iff.mpr ⟨rfl, trivial⟩⟩
    | cons c cs =>
      obtain ⟨s, rest, h, hs, hs'⟩ | hb | ⟨rfl, hq⟩ := exists_segment c cs
      · obtain ⟨d, ds, hd⟩ := s.exists_head hs
        -- a segment is not empty, so the induction hypothesis applies behind it
        have hlt : rest.length < n := by
          rw [← hn, h, hd, List.length_append, List.length_cons]
          omega
        obtain ⟨r, hr⟩ := ih rest.length hlt rest rfl
        exact ⟨⟨s :: r.segments, r.ending⟩, reads_cons_iff.mpr ⟨rest, h.symm, hs, hs', hr⟩⟩
      · exact ⟨⟨[], .stray c cs⟩, reads_nil_iff.mpr ⟨rfl, hb⟩⟩
      · exact ⟨⟨[], .unclosed cs⟩, reads_nil_iff.mpr ⟨rfl, hq⟩⟩

/-- No segment begins where a reading ends. -/
theorem Ending.not_segment {e : Ending} (he : e.Wellformed) {s : Segment} (hs : s.Wellformed)
    (rest : List Char) : s.chars ++ rest ≠ e.chars := by
  intro h
  obtain ⟨d, ds, hd⟩ := s.exists_head hs
  rw [hd, List.cons_append] at h
  cases e with
  | complete => cases h
  | stray c behind =>
    refine he ⟨s, hs, ?_⟩
    rw [hd, (List.cons.inj h).1, List.head?_cons]
  | unclosed body =>
    have hclass := s.of_head hs hd
    rw [(List.cons.inj h).1] at hclass
    -- only a string begins with a quotation mark, and this one would end
    cases s with
    | quoted inner =>
      have hds : ds = inner ++ ['"'] := (List.cons.inj hd).2.symm
      refine he ?_
      rw [← (List.cons.inj h).2, hds]
      simp
    | _ => cases hclass

theorem Ending.chars_injective {e f : Ending} (he : e.Wellformed) (hf : f.Wellformed)
    (h : e.chars = f.chars) : e = f := by
  have hq : BeginsSegment '"' := ⟨.quoted [], List.not_mem_nil, rfl⟩
  cases e with
  | complete =>
    cases f with
    | complete => rfl
    | _ => cases h
  | stray c behind =>
    cases f with
    | complete => cases h
    | stray d behind' => rw [(List.cons.inj h).1, (List.cons.inj h).2]
    | unclosed body => exact absurd hq ((List.cons.inj h).1 ▸ he)
  | unclosed body =>
    cases f with
    | complete => cases h
    | stray d behind => exact absurd hq ((List.cons.inj h).1 ▸ hf)
    | unclosed body' => rw [(List.cons.inj h).2]

theorem reads_unique {r r' : Reading} {cs : List Char} (h : r.Reads cs) (h' : r'.Reads cs) :
    r = r' := by
  obtain ⟨ss, e⟩ := r
  obtain ⟨ts, f⟩ := r'
  induction ss generalizing ts cs with
  | nil =>
    obtain ⟨rfl, he⟩ := reads_nil_iff.mp h
    cases ts with
    | nil =>
      obtain ⟨hf, hf'⟩ := reads_nil_iff.mp h'
      rw [Ending.chars_injective hf' he hf]
    | cons t ts =>
      -- a segment of one reading cannot face the ending of the other
      obtain ⟨rest, hr, ht, -, -⟩ := reads_cons_iff.mp h'
      exact absurd hr (Ending.not_segment he ht rest)
  | cons s ss ih =>
    obtain ⟨rest, rfl, hs, hs', hr⟩ := reads_cons_iff.mp h
    cases ts with
    | nil =>
      obtain ⟨hf, hf'⟩ := reads_nil_iff.mp h'
      exact absurd hf.symm (Ending.not_segment hf' hs rest)
    | cons t ts =>
      obtain ⟨rest', hrest, ht, ht', hr'⟩ := reads_cons_iff.mp h'
      obtain ⟨rfl, rfl⟩ := segment_unique hrest ht hs ht' hs'
      have hrest := ih hr ts hr'
      rw [Reading.mk.injEq] at hrest
      rw [hrest.1, hrest.2]

/-- Every text is read in exactly one way. -/
theorem existsUnique_reads (cs : List Char) : ∃! r : Reading, r.Reads cs := by
  obtain ⟨r, hr⟩ := exists_reads cs
  exact ⟨r, hr, fun r' hr' => reads_unique hr' hr⟩

end SourceLexer
