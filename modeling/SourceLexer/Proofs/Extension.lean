/-
Writing more behind a source.

Whatever comes behind a source, what was read of it before its last segment is
read in the same way, and an error that it has stays.  Only the last segment can
go on into what is added (`Segment.exists_extension`), so the reading of the
longer source agrees with that of the shorter one up to there
(`Reading.Reads.extend`).

* `Reading.Reads.stray_append` and `Reading.Reads.unclosed_append` — a source
  that ends with an error still does so;
* `Reading.Reads.close` — the closing quotation mark is all that an unclosed
  string lacks;
* `lex_extension` — tokens and errors under arbitrary extension.
-/
import SourceLexer.Proofs.Offset

namespace SourceLexer

/-- Of what is behind some segments only the first character matters to them. -/
theorem Segmented.congr {rest rest' : List Char} {ss : List Segment} (hss : Segmented rest ss)
    (h : rest.head? = rest'.head?) : Segmented rest' ss := by
  induction ss with
  | nil => trivial
  | cons s ss ih =>
    obtain ⟨hs, hs', hss⟩ := hss
    have hhead : (spelled ss ++ rest).head? = (spelled ss ++ rest').head? := by
      rw [List.head?_append, List.head?_append, h]
    exact ⟨hs, (Segment.endsBefore_congr hhead).mp hs', ih hss⟩

/-! ### The last segment -/

/-- A run goes on for as long as what is added qualifies. -/
theorem exists_run_extension {p : Char → Bool} {run : List Char} (hrun : ∀ c ∈ run, p c = true)
    (added : List Char) : ∃ more rest, more ++ rest = added ∧ (∀ c ∈ run ++ more, p c = true) ∧
      ∀ c, rest.head? = some c → p c = false := by
  refine ⟨added.takeWhile p, added.dropWhile p, List.takeWhile_append_dropWhile, ?_,
    fun c hc => head?_dropWhile_eq_false hc⟩
  intro c hc
  rcases List.mem_append.mp hc with hc | hc
  · exact hrun c hc
  · exact List.mem_takeWhile_imp hc

/-- A segment goes on into what is added behind it, or it stays as it is. -/
theorem Segment.exists_extension {s : Segment} (hs : s.Wellformed) (added : List Char) :
    ∃ (s' : Segment) (rest : List Char), s'.chars ++ rest = s.chars ++ added ∧ s'.Wellformed ∧
      s'.EndsBefore rest ∧ s.chars <+: s'.chars := by
  cases s with
  | equals =>
    by_cases h : added.head? = some '='
    · obtain ⟨rest, rfl⟩ := List.head?_eq_some_iff.mp h
      exact ⟨.doubleEquals, rest, rfl, trivial, trivial, ['='], rfl⟩
    · exact ⟨.equals, added, rfl, trivial, h, List.prefix_rfl⟩
  | letters run =>
    obtain ⟨more, rest, rfl, hmore, hrest⟩ := exists_run_extension hs.2 added
    exact ⟨.letters (run ++ more), rest, List.append_assoc _ _ _,
      ⟨List.append_ne_nil_of_left_ne_nil hs.1 _, hmore⟩, hrest, List.prefix_append _ _⟩
  | digits run =>
    obtain ⟨more, rest, rfl, hmore, hrest⟩ := exists_run_extension hs.2 added
    exact ⟨.digits (run ++ more), rest, List.append_assoc _ _ _,
      ⟨List.append_ne_nil_of_left_ne_nil hs.1 _, hmore⟩, hrest, List.prefix_append _ _⟩
  | blank c => exact ⟨.blank c, added, rfl, hs, trivial, List.prefix_rfl⟩
  | operator c kind => exact ⟨.operator c kind, added, rfl, hs, trivial, List.prefix_rfl⟩
  | doubleEquals => exact ⟨.doubleEquals, added, rfl, hs, trivial, List.prefix_rfl⟩
  | quoted body => exact ⟨.quoted body, added, rfl, hs, trivial, List.prefix_rfl⟩

namespace Reading.Reads

/-- The reading of a longer source, if the shorter one is segmented to its end: all segments but
the last are the same, and what they are followed by reaches as far as the last one. -/
theorem extend {ss : List Segment} {cs : List Char} (h : Reads ⟨ss, .complete⟩ cs)
    (added : List Char) :
    ∃ r : Reading, r.Reads (cs ++ added) ∧ ss.dropLast <+: r.segments ∧
      cs.length ≤ (spelled r.segments).length := by
  obtain ⟨hspelled, hss, -⟩ := h
  change spelled ss ++ [] = cs at hspelled
  rw [List.append_nil] at hspelled
  subst hspelled
  rcases List.eq_nil_or_concat ss with rfl | ⟨front, s, rfl⟩
  · obtain ⟨r, hr⟩ := exists_reads added
    exact ⟨r, hr, List.nil_prefix, Nat.zero_le _⟩
  · rw [List.concat_eq_append] at hss ⊢
    obtain ⟨hfront, hs, -⟩ := segmented_append_iff.mp hss
    obtain ⟨s', rest, heq, hs', hends, hle⟩ := s.exists_extension hs added
    obtain ⟨r, hr⟩ := exists_reads rest
    -- the front sees the same first character, whether or not the last segment goes on
    have hhead : (spelled [s] ++ []).head? = (s'.chars ++ rest).head? := by
      obtain ⟨c, cs, hc⟩ := s.exists_head hs
      rw [heq, spelled_cons, hc]
      rfl
    refine ⟨⟨front ++ s' :: r.segments, r.ending⟩, ⟨?_, ?_, hr.wellformed⟩, ?_, ?_⟩
    · rw [spelled_append, spelled_cons, spelled_append, spelled_cons, spelled_nil,
        List.append_nil, List.append_assoc, List.append_assoc, List.append_assoc, hr.spelled_eq,
        heq]
    · refine segmented_append_iff.mpr ⟨?_, hs', ?_, hr.segmented⟩
      · rw [spelled_cons, List.append_assoc, hr.spelled_eq]
        exact hfront.congr hhead
      · rw [hr.spelled_eq]
        exact hends
    · rw [List.dropLast_concat]
      exact List.prefix_append _ _
    · have hlen := hle.length_le
      simp only [spelled_append, spelled_cons, spelled_nil, List.length_append, List.length_nil]
      omega

/-! ### Endings -/

theorem stray_append {ss : List Segment} {c : Char} {behind cs : List Char}
    (h : Reads ⟨ss, .stray c behind⟩ cs) (added : List Char) :
    Reads ⟨ss, .stray c (behind ++ added)⟩ (cs ++ added) := by
  obtain ⟨rfl, hss, hc⟩ := h
  refine ⟨?_, hss.congr rfl, hc⟩
  rw [List.append_assoc]
  rfl

theorem unclosed_append {ss : List Segment} {body cs : List Char}
    (h : Reads ⟨ss, .unclosed body⟩ cs) {added : List Char} (ha : '"' ∉ added) :
    Reads ⟨ss, .unclosed (body ++ added)⟩ (cs ++ added) := by
  obtain ⟨rfl, hss, hb⟩ := h
  refine ⟨?_, hss.congr rfl, ?_⟩
  · rw [List.append_assoc]
    rfl
  · intro hq
    rcases List.mem_append.mp hq with hq | hq
    · exact hb hq
    · exact ha hq

/-- In front of an unclosed string a source is segmented to its end. -/
theorem before_unclosed {ss : List Segment} {body cs : List Char}
    (h : Reads ⟨ss, .unclosed body⟩ cs) : Reads ⟨ss, .complete⟩ (spelled ss) :=
  (reads_iff_complete.mp h).1

/-- An unclosed string is a segment once its quotation mark is added. -/
theorem close {ss : List Segment} {body cs : List Char} (h : Reads ⟨ss, .unclosed body⟩ cs) :
    Reads ⟨ss ++ [.quoted body], .complete⟩ (cs ++ ['"']) := by
  obtain ⟨rfl, hss, hb⟩ := h
  refine ⟨?_, segmented_append_iff.mpr ⟨?_, hb, trivial, trivial⟩, trivial⟩
  · rw [spelled_append, spelled_cons, spelled_nil]
    simp [Ending.chars, Segment.chars]
  · exact hss.congr rfl

end Reading.Reads

/-! ### Tokens -/

theorem tokensFrom_mono (p : Position) {ss ts : List Segment} (h : ss <+: ts) :
    tokensFrom p ss <+: tokensFrom p ts := by
  obtain ⟨more, rfl⟩ := h
  rw [tokensFrom_append]
  exact List.prefix_append _ _

/-- The tokens but the last are tokens of the segments but the last. -/
theorem dropLast_tokensFrom_le (p : Position) (ss : List Segment) :
    (tokensFrom p ss).dropLast <+: tokensFrom p ss.dropLast := by
  rcases List.eq_nil_or_concat ss with rfl | ⟨front, s, rfl⟩
  · exact List.prefix_rfl
  · rw [List.concat_eq_append, List.dropLast_concat, tokensFrom_append, tokensFrom, tokensFrom,
      List.append_nil]
    -- the last segment is the last token, unless it is blank
    cases s.token? (p.pastAll (spelled front)) with
    | none =>
      rw [Option.toList_none, List.append_nil]
      exact List.dropLast_prefix _
    | some t =>
      rw [Option.toList_some, List.dropLast_concat]

/-- **Results are stable under extension.**  An unrecognized character is found again; an
unterminated string stays unterminated until its quotation mark comes, and then it is the last
token; and of a source that has tokens only the last of them can change, so an error of the longer
source is not in the shorter one. -/
theorem lex_extension (s : String) :
    (∀ c p, lex s = .error (.unrecognizedCharacter c p) →
      ∀ t, lex (s ++ t) = .error (.unrecognizedCharacter c p)) ∧
    (∀ p, lex s = .error (.unterminatedString p) →
      ∃ (x r : String) (tx : List Token), s = x ++ "\"" ++ r ∧ '"' ∉ r.toList ∧
        p = Position.atOffset s.toList x.length ∧ lex x = .ok tx ∧
        (∀ t : String, '"' ∉ t.toList → lex (s ++ t) = .error (.unterminatedString p)) ∧
        ∀ u : String, '"' ∉ u.toList →
          lex (s ++ u ++ "\"") = .ok (tx ++ [.startingAt .string (r ++ u) p])) ∧
    ∀ ts, lex s = .ok ts → ∀ t,
      (∀ us, lex (s ++ t) = .ok us → ts.dropLast <+: us) ∧
      ∀ e, lex (s ++ t) = .error e → ∃ r : Reading, r.Reads (s ++ t).toList ∧
        r.ending.error? e.position = some e ∧ s.length ≤ (spelled r.segments).length ∧
        e.position = Position.atOffset (s ++ t).toList (spelled r.segments).length := by
  obtain ⟨⟨ss, ending⟩, hr⟩ := exists_reads s.toList
  refine ⟨?_, ?_, ?_⟩
  · intro c p h t
    have herror := (lex_eq_error_iff hr).mp h
    cases ending with
    | complete => cases herror
    | unclosed body => cases herror
    | stray d behind =>
      have hmore : Reading.Reads ⟨ss, .stray d (behind ++ t.toList)⟩ (s ++ t).toList := by
        rw [String.toList_append]
        exact hr.stray_append t.toList
      exact (lex_eq_error_iff hmore).mpr herror
  · intro p h
    have herror := (lex_eq_error_iff hr).mp h
    cases ending with
    | complete => cases herror
    | stray d behind => cases herror
    | unclosed body =>
      have hstop := stop_eq_atOffset hr
      obtain rfl := LexError.unterminatedString.inj (Option.some.inj herror)
      have hx : Reading.Reads ⟨ss, .complete⟩ (String.ofList (spelled ss)).toList := by
        rw [String.toList_ofList]
        exact hr.before_unclosed
      have hmore : ∀ t : String, '"' ∉ t.toList →
          Reading.Reads ⟨ss, .unclosed (body ++ t.toList)⟩ (s ++ t).toList := by
        intro t ht
        rw [String.toList_append]
        exact hr.unclosed_append ht
      refine ⟨String.ofList (spelled ss), String.ofList body, _, ?_, ?_, ?_,
        (lex_eq_ok_iff hx).mpr ⟨rfl, rfl⟩, ?_, ?_⟩
      · rw [← String.toList_inj, ← hr.spelled_eq]
        simp [Ending.chars]
      · rw [String.toList_ofList]
        exact hr.wellformed
      · rw [String.length_ofList]
        exact hstop
      · intro t ht
        exact (lex_eq_error_iff (hmore t ht)).mpr rfl
      · intro u hu
        have hclosed : Reading.Reads ⟨ss ++ [.quoted (body ++ u.toList)], .complete⟩
            (s ++ u ++ "\"").toList := by
          rw [String.toList_append]
          exact (hmore u hu).close
        refine (lex_eq_ok_iff hclosed).mpr ⟨rfl, ?_⟩
        rw [tokensFrom_append]
        simp [tokensFrom, Segment.token?, Segment.lexeme?, Reading.stop]
  · intro ts h t
    obtain ⟨rfl, rfl⟩ := (lex_eq_ok_iff hr).mp h
    obtain ⟨r, hr', hprefix, hlen⟩ := hr.extend t.toList
    rw [← String.toList_append] at hr'
    rw [String.length_toList] at hlen
    constructor
    · intro us hus
      obtain ⟨-, rfl⟩ := (lex_eq_ok_iff hr').mp hus
      exact (dropLast_tokensFrom_le _ ss).trans (tokensFrom_mono _ hprefix)
    · intro e he
      have herror := (lex_eq_error_iff hr').mp he
      have hp := Ending.position_of_error? herror
      refine ⟨r, hr', ?_, hlen, ?_⟩
      · rw [hp]
        exact herror
      · rw [hp, stop_eq_atOffset hr']

/-- What is added may turn a word into a keyword, end a string, and leave a stray character where it
is. -/
theorem lex_extension_last_word :
    lex "a le" = .ok [⟨.identifier, "a", 0, 0, -1, 1⟩, ⟨.identifier, "le", 0, 0, 1, 2⟩] ∧
    lex ("a le" ++ "t@") = .error (.unrecognizedCharacter '@' ⟨0, 4⟩) ∧
    lex ("a let@" ++ "\"") = .error (.unrecognizedCharacter '@' ⟨0, 4⟩) ∧
    [⟨.identifier, "a", 0, 0, -1, 1⟩] <+:
      [⟨.identifier, "a", 0, 0, -1, 1⟩, (⟨.kwLet, "let", 0, 0, 1, 3⟩ : Token)] ∧
    (∃ n, "a le".length ≤ n ∧ (⟨0, 4⟩ : Position) = Position.atOffset ("a le" ++ "t@").toList n) ∧
    lex "a \"le" = .error (.unterminatedString ⟨0, 1⟩) ∧
    ∃ (x r : String) (tx : List Token), "a \"le" = x ++ "\"" ++ r ∧ lex x = .ok tx ∧
      lex ("a \"le" ++ "t@") = .error (.unterminatedString ⟨0, 1⟩) ∧
      lex ("a \"le" ++ "t@" ++ "\"") = .ok (tx ++ [.startingAt .string (r ++ "t@") ⟨0, 1⟩]) := by
  have h : lex "a le" =
      .ok [⟨.identifier, "a", 0, 0, -1, 1⟩, ⟨.identifier, "le", 0, 0, 1, 2⟩] := by cbv
  have hlet : lex ("a le" ++ "t") =
      .ok [⟨.identifier, "a", 0, 0, -1, 1⟩, ⟨.kwLet, "let", 0, 0, 1, 3⟩] := by cbv
  have hstray : lex ("a le" ++ "t@") = .error (.unrecognizedCharacter '@' ⟨0, 4⟩) := by cbv
  have hopen : lex "a \"le" = .error (.unterminatedString ⟨0, 1⟩) := by decide +kernel
  have hquote : '"' ∉ "t@".toList := by decide
  obtain ⟨-, -, hlast⟩ := lex_extension "a le"
  obtain ⟨r, -, -, hlen, hp⟩ := (hlast _ h "t@").2 _ hstray
  obtain ⟨x, r', tx, hsplit, -, -, hx, hmore, hclosed⟩ := (lex_extension "a \"le").2.1 _ hopen
  exact ⟨h, hstray, (lex_extension "a let@").1 _ _ hstray _, (hlast _ h "t").1 _ hlet,
    ⟨_, hlen, hp⟩, hopen, x, r', tx, hsplit, hx, hmore "t@" hquote, hclosed "t@" hquote⟩

end SourceLexer
