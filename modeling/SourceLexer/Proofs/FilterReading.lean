/-
How the text of a filter is read.

The parts of a rule are found in its text without the blanks around it, and cut out
of the text with them.  As long as no blank is in front, a part is cut out where it
has been found (`FoundAt`), and no part ends inside a character:

* `LogRule.parse_ne_cut` — a rule without a blank in front is read to its end;
* `LogFilter.parse_ne_cut` — and so is a filter, if none of its pieces has one.
-/
import Mathlib
import SourceLexer.LogFilter

namespace SourceLexer

/-! ### Places in bytes -/

theorem byteCount_append (cs ds : List Char) : byteCount (cs ++ ds) = byteCount cs + byteCount ds := by
  induction cs with
  | nil => exact (Nat.zero_add _).symm
  | cons c cs ih => rw [List.cons_append, byteCount, byteCount, ih, Nat.add_assoc]

/-- Whether `rest` is what is found at a place of a text. -/
def FoundAt (text : List Char) (place : Nat) (rest : List Char) : Prop :=
  ∃ front behind, text = front ++ (rest ++ behind) ∧ byteCount front = place

namespace FoundAt

variable {text rest : List Char} {place : Nat}

/-- What is behind a part is found behind its bytes. -/
theorem advance (found : List Char) (h : FoundAt text place (found ++ rest)) :
    FoundAt text (place + byteCount found) rest := by
  obtain ⟨front, behind, rfl, rfl⟩ := h
  refine ⟨front ++ found, behind, ?_, byteCount_append front found⟩
  simp only [List.append_assoc]

theorem before_eq (h : FoundAt text place rest) : ∃ front, LogRule.before text place = .ok front := by
  obtain ⟨front, behind, rfl, rfl⟩ := h
  rw [LogRule.before, cutBehind?_append]
  exact ⟨front, rfl⟩

theorem behind_eq (h : FoundAt text place rest) :
    ∃ behind, LogRule.behind text place = .ok (rest ++ behind) := by
  obtain ⟨front, behind, rfl, rfl⟩ := h
  rw [LogRule.behind, cutBehind?_append]
  exact ⟨behind, rfl⟩

/-- A part is cut out where it has been found. -/
theorem part_eq {found : List Char} (h : FoundAt text place (found ++ rest)) :
    LogRule.part text place (place + byteCount found) = .ok found := by
  obtain ⟨front, behind, rfl, rfl⟩ := h
  have hbefore : LogRule.before (front ++ (found ++ rest ++ behind))
      (byteCount front + byteCount found) = .ok (front ++ found) := by
    rw [← byteCount_append, LogRule.before, List.append_assoc, ← List.append_assoc front,
      cutBehind?_append]
  rw [LogRule.part, hbefore]
  show LogRule.behind (front ++ found) (byteCount front) = .ok found
  rw [LogRule.behind, cutBehind?_append]

end FoundAt

/-! ### Rules -/

theorem LogFilterStop.within_ne_cut {α : Type} (x : Except LogFilterError α) :
    within x ≠ .error .cut := by
  cases x with
  | error e => exact nofun
  | ok a => exact nofun

/-- Reading that goes on does not stop inside a character if neither part of it does. -/
theorem bind_ne_cut {α β : Type} {x : Except LogFilterStop α} {f : α → Except LogFilterStop β}
    (hx : x ≠ .error .cut) (hf : ∀ a, f a ≠ .error .cut) : (x >>= f) ≠ .error .cut := by
  cases x with
  | error stop =>
    intro h
    cases h
    exact hx rfl
  | ok a => exact hf a

theorem map_ne_cut {α β : Type} {x : Except LogFilterStop α} (hx : x ≠ .error .cut) (f : α → β) :
    x.map f ≠ .error .cut := by
  cases x with
  | error stop =>
    intro h
    cases h
    exact hx rfl
  | ok a => exact nofun

namespace LogRule

variable {text rest : List Char} {place : Nat}

theorem levelFrom_ne_cut (h : FoundAt text place rest) : levelFrom text place ≠ .error .cut := by
  obtain ⟨behind, hbehind⟩ := h.behind_eq
  rw [levelFrom, hbehind]
  exact LogFilterStop.within_ne_cut _

theorem levelAfter_ne_cut (h : FoundAt text place rest) :
    levelAfter text place rest ≠ .error .cut := by
  unfold levelAfter
  split
  · exact nofun
  · next rest => exact levelFrom_ne_cut (h.advance ['='])
  · exact nofun

theorem parseField_ne_cut (h : FoundAt text place rest) (target : List Char)
    (span : Option (List Char)) : parseField text target span place rest ≠ .error .cut := by
  rw [← List.takeWhile_append_dropWhile (p := (· ≠ '}')) (l := rest)] at h
  unfold parseField
  simp only
  split
  · next rest' hrest =>
    rw [hrest] at h
    rw [h.part_eq]
    refine bind_ne_cut nofun fun written => ?_
    split
    · exact nofun
    · refine bind_ne_cut (LogFilterStop.within_ne_cut _) fun field => ?_
      split
      · next rest'' =>
        have hlevel := (h.advance _).advance ['}', ']']
        exact bind_ne_cut (levelAfter_ne_cut hlevel) fun level => nofun
      · exact nofun
  · exact nofun

theorem parseSpan_ne_cut (h : FoundAt text place rest) (target : List Char) :
    parseSpan text target place rest ≠ .error .cut := by
  rw [← List.takeWhile_append_dropWhile (p := fun c => c ≠ ']' && c ≠ '{') (l := rest)] at h
  unfold parseSpan
  simp only
  split
  · next rest' hrest =>
    rw [hrest] at h
    rw [h.part_eq]
    refine bind_ne_cut nofun fun name => ?_
    have hlevel := (h.advance _).advance [']']
    exact bind_ne_cut (levelAfter_ne_cut hlevel) fun level => nofun
  · next rest' hrest =>
    rw [hrest] at h
    rw [h.part_eq]
    refine bind_ne_cut nofun fun name => ?_
    exact parseField_ne_cut ((h.advance _).advance ['{']) target _
  · exact nofun

/-- A text without a blank in front is found in itself. -/
theorem foundAt_trimmed (h : text.head?.any isWhiteSpace = false) :
    FoundAt text 0 (trimmed text) := by
  have hfront : text.dropWhile isWhiteSpace = text := by
    cases text with
    | nil => rfl
    | cons c cs =>
      have hc : isWhiteSpace c = false := h
      rw [List.dropWhile_cons_of_neg (by rw [hc]; exact Bool.false_ne_true)]
  obtain ⟨behind, hbehind⟩ := List.rdropWhile_prefix isWhiteSpace text
  refine ⟨[], behind, ?_, rfl⟩
  rw [trimmed, hfront]
  exact hbehind.symm

/-- **A rule without a blank in front is read to its end**, or to an error. -/
theorem parse_ne_cut (h : text.head?.any isWhiteSpace = false) :
    parse text ≠ .error .cut := by
  have hfound := foundAt_trimmed h
  rw [← List.takeWhile_append_dropWhile (p := fun c => c ≠ '=' && c ≠ '[') (l := trimmed text)]
    at hfound
  have hrest := hfound.advance _
  rw [Nat.zero_add] at hrest
  obtain ⟨target, htarget⟩ := hrest.before_eq
  unfold parse
  simp only
  split
  · exact nofun
  · split
    · next rest heq =>
      rw [heq] at hrest
      rw [htarget]
      refine bind_ne_cut nofun fun target => ?_
      exact bind_ne_cut (levelFrom_ne_cut (hrest.advance ['='])) fun level => nofun
    · next rest heq =>
      rw [heq] at hrest
      rw [htarget]
      exact bind_ne_cut nofun (parseSpan_ne_cut (hrest.advance ['[']))
    · split
      · exact nofun
      · exact nofun

end LogRule

/-! ### Filters -/

/-- Reading one thing after the other does not stop inside a character if reading none of them
does. -/
theorem mapM_ne_cut {α β : Type} {f : α → Except LogFilterStop β} {l : List α}
    (h : ∀ a ∈ l, f a ≠ .error .cut) : l.mapM f ≠ .error .cut := by
  induction l with
  | nil => exact nofun
  | cons a l ih =>
    rw [List.mapM_cons]
    refine bind_ne_cut (h a List.mem_cons_self) fun b => ?_
    exact bind_ne_cut (ih fun a ha => h a (List.mem_cons_of_mem _ ha)) fun bs => nofun

namespace LogFilter

/-- Whether no piece of a text begins with a blank. -/
def IsFlush (text : String) : Prop :=
  ∀ piece ∈ pieces ',' text.toList, piece.head?.any isWhiteSpace = false

instance (text : String) : Decidable (IsFlush text) :=
  inferInstanceAs
    (Decidable (∀ piece ∈ pieces ',' text.toList, piece.head?.any isWhiteSpace = false))

/-- **A filter whose pieces begin without blanks is read to its end**, or to an error. -/
theorem parse_ne_cut {text : String} (h : IsFlush text) : parse text ≠ .error .cut := by
  refine map_ne_cut (mapM_ne_cut fun piece hpiece => ?_) _
  exact LogRule.parse_ne_cut (h piece (List.mem_of_mem_filter hpiece))

/-- Behind a blank the target ends one byte too early, inside of its letter. -/
example : parse " é=info" = .error .cut := rfl

end LogFilter

end SourceLexer
