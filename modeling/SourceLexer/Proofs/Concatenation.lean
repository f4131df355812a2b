/-
Lexing one source behind another.

Two sources meet cleanly if the last token of the first cannot go on into the
second (`CleanBoundary`).  Then the tokens of both together are those of the
first and behind them those of the second, moved to where the first source ends
(`Position.shift`); an error of the second source is moved in the same way.

* `pastAll_append_eq_shift` — reading on from a place is reading from the start, moved;
* `lex_append` — lexing at a clean boundary.
-/
import SourceLexer.Proofs.Offset

namespace SourceLexer

/-! ### Moving positions -/

/-- Where a position of a source is if the source stands behind another that ends at `base`:
what is on the first line goes on with the line of `base`. -/
def Position.shift (base p : Position) : Position :=
  if p.line = 0 then ⟨base.line, Int32.ofIntClamp (base.column.toInt + p.column.toInt + 1)⟩
  else ⟨UInt32.ofNatClamp (base.line.toNat + p.line.toNat), p.column⟩

/-- A token moved with its source; its text and its extent stay. -/
def Token.shift (base : Position) (t : Token) : Token :=
  { t with startLine := (base.shift t.start).line, startOffset := (base.shift t.start).column }

/-- An error moved with its source. -/
def LexError.shift (base : Position) : LexError → LexError
  | .unterminatedString p => .unterminatedString (base.shift p)
  | .unrecognizedCharacter c p => .unrecognizedCharacter c (base.shift p)

namespace Place

/-- Where a place of a text is if the text stands behind one that ends at `b`. -/
def shift (b q : Place) : Place :=
  if q.line = 0 then ⟨b.line, b.column + q.column + 1⟩ else ⟨b.line + q.line, q.column⟩

theorem after_eq_shift (b : Place) (cs : List Char) : b.after cs = b.shift (start.after cs) := by
  rw [after_eq, start_after, shift]
  by_cases hm : '\n' ∈ cs
  · have hpos : 0 < cs.count '\n' := List.count_pos_iff.mpr hm
    simp only [if_pos hm, if_neg hpos.ne']
  · have hzero : cs.count '\n' = 0 := List.count_eq_zero.mpr hm
    simp only [if_neg hm, if_pos hzero, Place.mk.injEq]
    omega

theorem line_position_eq_zero_iff (q : Place) : q.position.line = 0 ↔ q.line = 0 := by
  rw [← UInt32.toNat_inj, line_position]
  show min q.line (2 ^ 32 - 1) = 0 ↔ q.line = 0
  omega

/-- Clamping before and after moving is the same. -/
theorem position_shift {b q : Place} (hb : -1 ≤ b.column) (hq : -1 ≤ q.column) :
    (b.shift q).position = b.position.shift q.position := by
  have hbc := column_position (show -2 ^ 31 ≤ b.column by omega)
  have hqc := column_position (show -2 ^ 31 ≤ q.column by omega)
  have hbl := line_position b
  have hql := line_position q
  -- a sum that one clamped part already fills is clamped in any case
  rw [shift, Position.shift]
  by_cases h : q.line = 0
  · rw [if_pos h, if_pos ((line_position_eq_zero_iff q).mpr h)]
    refine Position.ext_toInt rfl ?_
    show (Int32.ofIntClamp (b.column + q.column + 1)).toInt = (Int32.ofIntClamp _).toInt
    rw [toInt_ofIntClamp (by omega), toInt_ofIntClamp (by omega), hbc, hqc]
    omega
  · rw [if_neg h, if_neg (mt (line_position_eq_zero_iff q).mp h)]
    refine Position.ext_toInt ?_ rfl
    show (UInt32.ofNatClamp (b.line + q.line)).toNat = (UInt32.ofNatClamp _).toNat
    rw [toNat_ofNatClamp, toNat_ofNatClamp, hbl, hql]
    omega

end Place

/-- Reading on from where a text ends is reading from the start, moved. -/
theorem pastAll_append_eq_shift (as bs : List Char) :
    Position.start.pastAll (as ++ bs) =
      (Position.start.pastAll as).shift (Position.start.pastAll bs) := by
  rw [pastAll_start, pastAll_start, pastAll_start, Place.after_append, Place.after_eq_shift,
    Place.position_shift (Place.neg_one_le_column_start_after as)
      (Place.neg_one_le_column_start_after bs)]

/-! ### Moving readings -/

theorem Segment.token?_shift (base p : Position) (s : Segment) :
    s.token? (base.shift p) = (s.token? p).map (Token.shift base) := by
  rw [token?, token?, Option.map_map]
  rfl

theorem Ending.error?_shift (base p : Position) (e : Ending) :
    e.error? (base.shift p) = (e.error? p).map (LexError.shift base) := by
  cases e with
  | complete => rfl
  | stray c behind => rfl
  | unclosed body => rfl

theorem tokensFrom_shift (as pre : List Char) (ss : List Segment) :
    tokensFrom (Position.start.pastAll (as ++ pre)) ss =
      (tokensFrom (Position.start.pastAll pre) ss).map
        (Token.shift (Position.start.pastAll as)) := by
  induction ss generalizing pre with
  | nil => rfl
  | cons s ss ih =>
    rw [tokensFrom, tokensFrom, ← Position.pastAll_append, ← Position.pastAll_append,
      List.append_assoc, ih, pastAll_append_eq_shift, Segment.token?_shift, List.map_append,
      Option.toList_map]

/-! ### Clean boundaries -/

/-- Whether no token of `a`, whose tokens are `tokens`, could go on into `b`. -/
structure CleanBoundary (a b : String) (tokens : List Token) : Prop where
  /-- No two letters meet. -/
  letters : ¬ (a.toList.getLast?.any Char.isAlpha = true ∧ b.toList.head?.any Char.isAlpha = true)
  /-- No two digits meet. -/
  digits : ¬ (a.toList.getLast?.any Char.isDigit = true ∧ b.toList.head?.any Char.isDigit = true)
  /-- No `=` meets another if the first is a token of its own. -/
  equals : ¬ (tokens.getLast?.any (·.kind = .equals) = true ∧
    a.toList.getLast? = some '=' ∧ b.toList.head? = some '=')

theorem any_getLast?_append {p : Char → Bool} {as run : List Char} (hne : run ≠ [])
    (h : ∀ c ∈ run, p c = true) : (as ++ run).getLast?.any p = true := by
  obtain ⟨x, hx⟩ := Option.isSome_iff_exists.mp (List.getLast?_isSome.mpr hne)
  rw [List.getLast?_append, hx]
  exact h x (List.mem_of_getLast? hx)

/-- At a clean boundary the segments of the first source end in front of the second. -/
theorem CleanBoundary.segmented {a b : String} {ss : List Segment}
    (ha : Reading.Reads ⟨ss, .complete⟩ a.toList)
    (h : CleanBoundary a b (tokensFrom Position.start ss)) : Segmented b.toList ss := by
  -- only the last segment of `a` can go on into `b`
  refine ha.segmented.before ?_
  intro s hs
  obtain ⟨pre, rfl⟩ := List.getLast?_eq_some_iff.mp hs
  have hchars : a.toList = spelled pre ++ s.chars := by
    rw [← ha.spelled_eq]
    simp [Ending.chars]
  have hwell : s.Wellformed := (segmented_append_iff.mp ha.segmented).2.1
  cases s with
  | equals =>
    intro hb
    refine h.equals ⟨?_, ?_, hb⟩
    · have hlast : (tokensFrom Position.start (pre ++ [.equals])).getLast? =
          some (.startingAt .equals "=" (Position.start.pastAll (spelled pre))) := by
        rw [tokensFrom_append]
        exact List.getLast?_concat
      rw [hlast]
      rfl
    · rw [hchars]
      exact List.getLast?_concat
  | letters run =>
    intro y hy
    rw [Bool.eq_false_iff]
    intro hy'
    refine h.letters ⟨?_, by rw [hy]; exact hy'⟩
    rw [hchars]
    exact any_getLast?_append hwell.1 hwell.2
  | digits run =>
    intro y hy
    rw [Bool.eq_false_iff]
    intro hy'
    refine h.digits ⟨?_, by rw [hy]; exact hy'⟩
    rw [hchars]
    exact any_getLast?_append hwell.1 hwell.2
  | _ => trivial

theorem Reading.Reads.behind {r : Reading} {bs : List Char} (hr : r.Reads bs)
    {ss : List Segment} {as : List Char} (ha : spelled ss = as) (hss : Segmented bs ss) :
    Reading.Reads ⟨ss ++ r.segments, r.ending⟩ (as ++ bs) := by
  refine ⟨?_, segmented_append_iff.mpr ⟨?_, hr.segmented⟩, hr.wellformed⟩
  · rw [spelled_append, List.append_assoc, hr.spelled_eq, ha]
  · rw [hr.spelled_eq]
    exact hss

/-- **Lexing is compositional at a clean boundary**: the tokens of the second source, or its
error, are moved to where the first source ends. -/
theorem lex_append (a b : String) (ta : List Token) (ha : lex a = .ok ta)
    (h : CleanBoundary a b ta) :
    (∀ tb, lex b = .ok tb → lex (a ++ b) =
      .ok (ta ++ tb.map (Token.shift (Position.atOffset a.toList a.length)))) ∧
    ∀ e, lex b = .error e → lex (a ++ b) =
      .error (e.shift (Position.atOffset a.toList a.length)) := by
  obtain ⟨ss, hss, hspelled, rfl⟩ := reads_of_lex_ok ha
  obtain ⟨r, hr⟩ := exists_reads b.toList
  have hboth : Reading.Reads ⟨ss ++ r.segments, r.ending⟩ (a ++ b).toList := by
    rw [String.toList_append]
    exact hr.behind hspelled (h.segmented hss)
  have hbase : Position.atOffset a.toList a.length = Position.start.pastAll a.toList := by
    rw [← String.length_toList, ← pastAll_take_eq_atOffset le_rfl, List.take_length]
  rw [hbase]
  constructor
  · intro tb hb
    obtain ⟨hending, rfl⟩ := (lex_eq_ok_iff hr).mp hb
    have hmoved := tokensFrom_shift a.toList [] r.segments
    rw [List.append_nil] at hmoved
    refine (lex_eq_ok_iff hboth).mpr ⟨hending, ?_⟩
    rw [tokensFrom_append, hspelled, hmoved]
    rfl
  · intro e hb
    have hstop : Reading.stop Position.start ⟨ss ++ r.segments, r.ending⟩ =
        (Position.start.pastAll a.toList).shift (r.stop Position.start) := by
      rw [Reading.stop, spelled_append, hspelled, pastAll_append_eq_shift]
      rfl
    refine (lex_eq_error_iff hboth).mpr ?_
    rw [hstop, Ending.error?_shift, (lex_eq_error_iff hr).mp hb]
    rfl

/-- Behind `==` a boundary is clean, whatever comes. -/
theorem lex_append_double_equals :
    lex "let\n==" = .ok [⟨.kwLet, "let", 0, 0, -1, 3⟩, ⟨.doubleEquals, "==", 1, 0, 0, 2⟩] ∧
    lex "=\n5" = .ok [⟨.equals, "=", 0, 0, -1, 1⟩, ⟨.integer, "5", 1, 0, 0, 1⟩] ∧
    lex ("let\n==" ++ "=\n5") = .ok [⟨.kwLet, "let", 0, 0, -1, 3⟩,
      ⟨.doubleEquals, "==", 1, 0, 0, 2⟩, ⟨.equals, "=", 1, 0, 2, 1⟩, ⟨.integer, "5", 2, 0, 0, 1⟩] := by
  have ha : lex "let\n==" =
      .ok [⟨.kwLet, "let", 0, 0, -1, 3⟩, ⟨.doubleEquals, "==", 1, 0, 0, 2⟩] := by cbv
  have hb : lex "=\n5" = .ok [⟨.equals, "=", 0, 0, -1, 1⟩, ⟨.integer, "5", 1, 0, 0, 1⟩] := by cbv
  refine ⟨ha, hb, ?_⟩
  rw [(lex_append _ _ _ ha ⟨by decide, by decide, by decide⟩).1 _ hb]
  decide

end SourceLexer
