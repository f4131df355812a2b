/-
Positions as functions of offsets.

A scan never computes a position from an offset; it takes the one to which the
observers of its cursor have moved.  `Position.atOffset` is the closed form of
it, from the newlines among the first characters of the source and from what
stands behind the last of them.

* `pastAll_take_eq_atOffset` — the position behind the first characters of a
  source, for each number of them;
* `atOffset_before` — further on is strictly later, until a word is full;
* `positions_of_offsets` — tokens and errors are where their first characters are.
-/
import SourceLexer.Proofs.Segmentation

namespace SourceLexer

/-- The position behind the first `o` characters of a source, in closed form. -/
def Position.atOffset (source : List Char) (o : Nat) : Position where
  line := UInt32.ofNat (min ((source.take o).count '\n') (2 ^ 32 - 1))
  column := Int32.ofInt (min
    (if '\n' ∈ source.take o then ((source.take o).rtakeWhile (· ≠ '\n')).length
      else (o : Int) - 1) (2 ^ 31 - 1))

theorem ofNat_min_eq_ofNatClamp (n : Nat) :
    UInt32.ofNat (min n (2 ^ 32 - 1)) = UInt32.ofNatClamp n := by
  rw [← UInt32.toNat_inj, toNat_ofNatClamp, UInt32.toNat_ofNat_of_lt']
  show _ < 2 ^ 32
  omega

theorem ofInt_min_eq_ofIntClamp {i : Int} (h : -2 ^ 31 ≤ i) :
    Int32.ofInt (min i (2 ^ 31 - 1)) = Int32.ofIntClamp i := by
  rw [← Int32.toInt_inj, toInt_ofIntClamp h, Int32.toInt_ofInt_of_le (by omega) (by omega)]

namespace Place

theorem start_after (cs : List Char) :
    start.after cs = ⟨cs.count '\n',
      if '\n' ∈ cs then (cs.rtakeWhile (· ≠ '\n')).length else (cs.length : Int) - 1⟩ := by
  rw [after_eq, start]
  simp only [Place.mk.injEq, Nat.zero_add, true_and]
  split
  · rfl
  · omega

theorem neg_one_le_column_start_after (cs : List Char) : -1 ≤ (start.after cs).column := by
  rw [start_after]
  show (-1 : Int) ≤ ite _ _ _
  split <;> omega

theorem position_start_after_take {source : List Char} {o : Nat} (h : o ≤ source.length) :
    (start.after (source.take o)).position = Position.atOffset source o := by
  have hc := neg_one_le_column_start_after (source.take o)
  rw [position, Position.atOffset, ofNat_min_eq_ofNatClamp, ofInt_min_eq_ofIntClamp]
  · rw [start_after, List.length_take, Nat.min_eq_left h]
  · rw [start_after, List.length_take, Nat.min_eq_left h] at hc
    have : (-2 ^ 31 : Int) ≤ -1 := by decide
    exact this.trans hc

end Place

/-- Reading from the start leads to the clamped form of the place that it leads to. -/
theorem pastAll_start (cs : List Char) :
    Position.start.pastAll cs = (Place.start.after cs).position := by
  rw [Place.position_after (by decide), Place.position_start]

/-- The position behind the first characters of a source. -/
theorem pastAll_take_eq_atOffset {source : List Char} {o : Nat} (h : o ≤ source.length) :
    Position.start.pastAll (source.take o) = Position.atOffset source o := by
  rw [pastAll_start, Place.position_start_after_take h]

/-! ### The order of offsets -/

theorem Place.start_after_lt {cs : List Char} (h : cs.length < 2 ^ 31) :
    (Place.start.after cs).line < 2 ^ 32 ∧ (Place.start.after cs).column < 2 ^ 31 := by
  have hl : cs.count '\n' ≤ cs.length := List.count_le_length
  have ht : (cs.rtakeWhile (· ≠ '\n')).length ≤ cs.length :=
    (List.rtakeWhile_suffix _ _).length_le
  rw [start_after]
  refine ⟨by show cs.count '\n' < 2 ^ 32; omega, ?_⟩
  show ite _ _ _ < (2 ^ 31 : Int)
  split <;> omega

/-- Behind a text that is short enough no position is clamped. -/
theorem place_pastAll {cs : List Char} (h : cs.length < 2 ^ 31) :
    (Position.start.pastAll cs).place = Place.start.after cs := by
  obtain ⟨hl, hc⟩ := Place.start_after_lt h
  have hc' := Place.neg_one_le_column_start_after cs
  have hm : (-2 ^ 31 : Int) ≤ -1 := by decide
  rw [pastAll_start, Place.place_position hl (hm.trans hc') hc]

theorem place_atOffset {source : List Char} {o : Nat} (h : o ≤ source.length)
    (hs : source.length < 2 ^ 31) :
    (Position.atOffset source o).place = Place.start.after (source.take o) := by
  rw [← pastAll_take_eq_atOffset h, place_pastAll]
  rw [List.length_take]
  omega

/-- Further on in a source is strictly later. -/
theorem atOffset_before {source : List Char} (hs : source.length < 2 ^ 31) {o o' : Nat}
    (ho : o < o') (h : o' ≤ source.length) :
    (Position.atOffset source o).place.Before (Position.atOffset source o').place := by
  rw [place_atOffset (by omega) hs, place_atOffset h hs]
  have ht : source.take o' = source.take o ++ (source.drop o).take (o' - o) := by
    rw [← List.take_add, Nat.add_sub_cancel' (by omega)]
  rw [ht, Place.after_append]
  refine Place.before_after _ ?_
  rw [← List.length_pos_iff, List.length_take, List.length_drop]
  omega

/-! ### The offsets of lexemes -/

/-- The segments that are not blank, with their offsets; the first segment is at `o`. -/
def lexemesFrom (o : Nat) : List Segment → List (Nat × Segment)
  | [] => []
  | s :: ss =>
    (if s.lexeme?.isSome then [(o, s)] else []) ++ lexemesFrom (o + s.chars.length) ss

theorem offset_lt_of_mem_lexemesFrom {o : Nat} {ss : List Segment} {rest : List Char}
    (hss : Segmented rest ss) {l : Nat × Segment} (hl : l ∈ lexemesFrom o ss) :
    o ≤ l.1 ∧ l.1 < o + (spelled ss).length := by
  induction ss generalizing o with
  | nil => cases hl
  | cons s ss ih =>
    obtain ⟨hs, -, hss⟩ := hss
    obtain ⟨c, cs, hc⟩ := s.exists_head hs
    have hpos : 0 < s.chars.length := by
      rw [hc]
      exact Nat.succ_pos _
    rw [spelled_cons, List.length_append]
    rcases List.mem_append.mp hl with hl | hl
    · split at hl
      · obtain rfl := List.mem_singleton.mp hl
        show o ≤ o ∧ o < _
        omega
      · cases hl
    · have := ih hss hl
      omega

theorem pairwise_lexemesFrom {o : Nat} {ss : List Segment} {rest : List Char}
    (hss : Segmented rest ss) : (lexemesFrom o ss).Pairwise fun l l' => l.1 < l'.1 := by
  induction ss generalizing o with
  | nil => exact List.Pairwise.nil
  | cons s ss ih =>
    obtain ⟨hs, -, hss⟩ := hss
    obtain ⟨c, cs, hc⟩ := s.exists_head hs
    have hpos : 0 < s.chars.length := by
      rw [hc]
      exact Nat.succ_pos _
    rw [lexemesFrom]
    split
    -- what is behind `s` is at least as far on as `s` is long
    · refine List.pairwise_cons.mpr ⟨fun l hl => ?_, ih hss⟩
      have := (offset_lt_of_mem_lexemesFrom hss hl).1
      show o < l.1
      omega
    · exact ih hss

/-- What a token has to do with the lexeme at an offset of its source. -/
structure IsTokenAt (source : List Char) (l : Nat × Segment) (t : Token) : Prop where
  lexeme : l.2.lexeme? = some (t.kind, t.text)
  chars : l.2.chars <+: source.drop l.1
  start : t.start = Position.atOffset source l.1

theorem forall₂_tokensFrom {source rest : List Char} {ss : List Segment} (pre : List Char)
    (h : pre ++ spelled ss ++ rest = source) :
    List.Forall₂ (IsTokenAt source) (lexemesFrom pre.length ss)
      (tokensFrom (Position.start.pastAll pre) ss) := by
  induction ss generalizing pre with
  | nil => exact List.Forall₂.nil
  | cons s ss ih =>
    -- `pre` has been read, so `s` is at the offset `pre.length`
    have hp : Position.start.pastAll pre = Position.atOffset source pre.length := by
      rw [← pastAll_take_eq_atOffset, ← h, List.append_assoc, List.take_left]
      rw [← h, List.append_assoc, List.length_append]
      omega
    have hss := ih (pre ++ s.chars) (by rw [← h, spelled_cons]; simp)
    rw [List.length_append, Position.pastAll_append] at hss
    rw [lexemesFrom, tokensFrom, Segment.token?]
    cases hl : s.lexeme? with
    | none => exact hss
    | some l =>
      refine List.Forall₂.cons ⟨hl, ?_, hp⟩ hss
      show s.chars <+: source.drop pre.length
      rw [← h, List.append_assoc, List.drop_left, spelled_cons, List.append_assoc]
      exact List.prefix_append _ _

/-- Tokens of a source that is short enough start one strictly after the other. -/
theorem pairwise_start {source : List Char} (hs : source.length < 2 ^ 31) {r : Reading}
    (hr : r.Reads source) {ts : List Token}
    (hts : List.Forall₂ (IsTokenAt source) (lexemesFrom 0 r.segments) ts) :
    (ts.map Token.start).Pairwise fun p q => p.place.Before q.place := by
  have hlen := hts.length_eq
  rw [List.pairwise_map, List.pairwise_iff_getElem]
  intro i j hi hj hij
  have hti := hts.get (by omega) hi
  have htj := hts.get (by omega) hj
  have hlt := List.pairwise_iff_getElem.mp (pairwise_lexemesFrom (o := 0) hr.segmented) i j
    (by omega) (by omega) hij
  have hle := (offset_lt_of_mem_lexemesFrom hr.segmented
    (List.getElem_mem (l := lexemesFrom 0 r.segments) (n := j) (by omega))).2
  have hsource := congrArg List.length hr.spelled_eq
  rw [List.length_append] at hsource
  show (ts.get ⟨i, hi⟩).start.place.Before (ts.get ⟨j, hj⟩).start.place
  rw [hti.start, htj.start]
  exact atOffset_before hs hlt (by show (lexemesFrom 0 r.segments)[j].1 ≤ _; omega)

theorem isTokenAt_of_lex {source : String} {r : Reading} (hr : r.Reads source.toList)
    {ts : List Token} (h : lex source = .ok ts) :
    List.Forall₂ (IsTokenAt source.toList) (lexemesFrom 0 r.segments) ts := by
  rw [← ((lex_eq_ok_iff hr).mp h).2]
  exact forall₂_tokensFrom [] hr.spelled_eq

theorem stop_eq_atOffset {source : List Char} {r : Reading} (hr : r.Reads source) :
    r.stop Position.start = Position.atOffset source (spelled r.segments).length := by
  rw [← pastAll_take_eq_atOffset, ← hr.spelled_eq, List.take_left, Reading.stop]
  rw [← hr.spelled_eq, List.length_append]
  omega

/-- **Every position is the closed form of an offset**: a token starts at the offset of its first
character, an error is at the offset of the character or the quotation mark that is to blame,
and in a source that is short enough the positions of offsets are strictly increasing. -/
theorem positions_of_offsets (source : String) :
    (∃ r : Reading, r.Reads source.toList ∧
      (∀ ts, lex source = .ok ts →
        List.Forall₂ (IsTokenAt source.toList) (lexemesFrom 0 r.segments) ts) ∧
      ∀ e, lex source = .error e →
        source.toList.drop (spelled r.segments).length = r.ending.chars ∧
        r.ending.error? e.position = some e ∧
        e.position = Position.atOffset source.toList (spelled r.segments).length) ∧
    (source.length < 2 ^ 31 →
      (∀ o o', o < o' → o' ≤ source.length →
        (Position.atOffset source.toList o).place.Before
          (Position.atOffset source.toList o').place) ∧
      ∀ ts, lex source = .ok ts →
        (ts.map Token.start).Pairwise (fun p q => p.place.Before q.place) ∧
        (ts.map Token.start).Nodup) := by
  obtain ⟨r, hr⟩ := exists_reads source.toList
  have htokens := fun ts (hts : lex source = .ok ts) => isTokenAt_of_lex hr hts
  refine ⟨⟨r, hr, htokens, ?_⟩, fun hs => ⟨?_, ?_⟩⟩
  · intro e he
    have herror := (lex_eq_error_iff hr).mp he
    have hp := Ending.position_of_error? herror
    rw [hp, ← stop_eq_atOffset hr]
    refine ⟨?_, herror, rfl⟩
    rw [← hr.spelled_eq, List.drop_left]
  · intro o o'
    rw [← String.length_toList] at hs ⊢
    exact atOffset_before hs
  · intro ts hts
    rw [← String.length_toList] at hs
    have hb := pairwise_start hs hr (htokens ts hts)
    exact ⟨hb, hb.imp fun h heq => h.ne (congrArg Position.place heq)⟩

end SourceLexer
