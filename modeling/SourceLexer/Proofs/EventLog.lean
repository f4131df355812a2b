/-
What a scan writes down.

On success the events of a scan tell its tokens and their number.  On failure the
tokens are lost and the events are all that is left of them: they tell the tokens
of the part of the source in front of the failing token (`Precedes`), the same
that this part has by itself, because no segment goes on into an ending
(`reads_iff_complete`).

* `eq_of_precedes` — there is only one such part;
* `events_agree_with_result` — the events of every scan.
-/
import SourceLexer.Proofs.Offset

namespace SourceLexer

/-- Whether `x` is what stands in a source in front of the token that an error is about: in front
of the character that begins no token, or of the quotation mark that is not closed. -/
inductive Precedes (source x : String) : LexError → Prop
  | stray (c : Char) (behind : String) (h : source = x ++ String.singleton c ++ behind) :
    Precedes source x (.unrecognizedCharacter c (Position.atOffset source.toList x.length))
  | unclosed (body : String) (h : source = x ++ "\"" ++ body) (hb : '"' ∉ body.toList) :
    Precedes source x (.unterminatedString (Position.atOffset source.toList x.length))

section

variable {source : String} {r : Reading} {e : LexError}

theorem precedes_of_reads (hr : r.Reads source.toList)
    (he : r.ending.error? (r.stop Position.start) = some e) :
    Precedes source (String.ofList (spelled r.segments)) e := by
  have hstop : r.stop Position.start =
      Position.atOffset source.toList (String.ofList (spelled r.segments)).length := by
    rw [String.length_ofList, stop_eq_atOffset hr]
  have hsource := hr.spelled_eq
  have hwell := hr.wellformed
  rw [hstop] at he
  cases hending : r.ending with
  | complete =>
    rw [hending] at he
    cases he
  | stray c behind =>
    rw [hending] at he hsource
    obtain rfl := Option.some.inj he
    refine .stray c (String.ofList behind) ?_
    rw [← String.toList_inj, ← hsource]
    simp [Ending.chars]
  | unclosed body =>
    rw [hending] at he hsource hwell
    obtain rfl := Option.some.inj he
    refine .unclosed (String.ofList body) ?_ ?_
    · rw [← String.toList_inj, ← hsource]
      simp [Ending.chars]
    · rw [String.toList_ofList]
      exact hwell

/-- What precedes the failing token and has tokens itself is read as it is read in the source. -/
theorem eq_of_precedes (hr : r.Reads source.toList)
    (he : r.ending.error? (r.stop Position.start) = some e) {x : String} (hx : Precedes source x e)
    {us : List Token} (hus : lex x = .ok us) : x = String.ofList (spelled r.segments) := by
  obtain ⟨ss, hss, hspelled, -⟩ := reads_of_lex_ok hus
  rw [← hspelled] at hss
  -- the source is also read as the segments of `x` and an ending
  obtain ⟨ending, hending⟩ : ∃ ending, Reading.Reads ⟨ss, ending⟩ source.toList := by
    cases hx with
    | stray c behind h =>
      refine ⟨.stray c behind.toList, Reading.reads_iff_complete.mpr ⟨hss, ?_, ?_⟩⟩
      · rw [hspelled, h]
        simp [Ending.chars]
      · have hwell := hr.wellformed
        cases hr' : r.ending with
        | complete => rw [hr'] at he; cases he
        | unclosed body => rw [hr'] at he; cases he
        | stray d behind' =>
          rw [hr'] at he hwell
          obtain rfl := (LexError.unrecognizedCharacter.inj (Option.some.inj he)).1
          exact hwell
    | unclosed body h hb =>
      refine ⟨.unclosed body.toList, Reading.reads_iff_complete.mpr ⟨hss, ?_, hb⟩⟩
      rw [hspelled, h]
      simp [Ending.chars]
  have hsame := reads_unique hending hr
  rw [← String.toList_inj, String.toList_ofList, ← hspelled, ← hsame]

end

/-- **The events of a scan agree with its result.**  On success they are the tokens in order and
then their number; on failure they are the tokens of what precedes the failing token, in order and
no others, and then the error. -/
theorem events_agree_with_result (source : String) :
    (∀ ts, lex source = .ok ts →
      (scan source).events = ts.map Event.token ++ [.complete ts.length]) ∧
    ∀ e, lex source = .error e → ∃ (x : String) (us : List Token),
      Precedes source x e ∧ (∀ x', Precedes source x' e → (∃ us', lex x' = .ok us') → x' = x) ∧
      lex x = .ok us ∧ (scan source).events = us.map Event.token ++ [.failed e] := by
  obtain ⟨r, hr⟩ := exists_reads source.toList
  have hevents : (scan source).events = r.events Position.start := by rw [scan_of_reads hr]
  rw [hevents, Reading.events]
  constructor
  · intro ts h
    obtain ⟨hending, rfl⟩ := (lex_eq_ok_iff hr).mp h
    rw [hending]
    rfl
  · intro e h
    have he := (lex_eq_error_iff hr).mp h
    have hx : Reading.Reads ⟨r.segments, .complete⟩
        (String.ofList (spelled r.segments)).toList := by
      rw [String.toList_ofList]
      exact (Reading.reads_iff_complete.mp hr).1
    refine ⟨_, tokensFrom Position.start r.segments, precedes_of_reads hr he, ?_,
      (lex_eq_ok_iff hx).mpr ⟨rfl, rfl⟩, ?_⟩
    · rintro x' hx' ⟨us', hus'⟩
      exact eq_of_precedes hr he hx' hus'
    · rw [he]

end SourceLexer
