/-
Sessions over characters are runs of tracked cursors.

A step of a session is an operation, a step of tracking, or a question that changes
nothing (`Session.Step.tracked`).  What was written down is forgotten before each
step, and no observer looks at it, so a session leads to the same cursor as its
steps, but for the state:

* `Session.run_append_singleton` — each answer is given by the cursor that the steps
  before it lead to;
* `Session.cursorAfter_hasPast` — that cursor is what the history tells;
* `session_follows_live_observers` — hence its position follows the live observers.
-/
import SourceLexer.Proofs.Attachment

namespace SourceLexer

namespace Session

/-- The cursor after some steps of a session. -/
def cursorAfter {α : Type} (e : Elements α) (c : Cursor α (Notes α)) (steps : List Step) :
    Cursor α (Notes α) :=
  steps.foldl (fun c step => (answer e c step).2) c

/-- Each answer is the one of the cursor after the steps before. -/
theorem run_append_singleton {α : Type} (e : Elements α) (c : Cursor α (Notes α))
    (steps : List Step) (step : Step) :
    run e c (steps ++ [step]) = run e c steps ++ [(answer e (cursorAfter e c steps) step).1] := by
  induction steps generalizing c with
  | nil => rfl
  | cons first steps ih =>
    rw [List.cons_append, run, run]
    exact congrArg _ (ih _)

/-- What a step does with a cursor over characters. -/
def Step.tracked : Step → List (TrackedStep (Notes Char))
  | .consume => [.operate .consume rfl]
  | .current => [.operate .current rfl]
  | .peek offset => [.operate (.peek offset) rfl]
  | .peekNext => [.operate .peekNext rfl]
  | .hasNext => [.operate .hasNext rfl]
  | .addObserver tag => [.observe (Notes.bystander tag)]
  | .removeObserver handle => [.operate (.remove handle) rfl]
  | .track => [.track]
  | .move m => [.move m]
  | _ => []

theorem perform_snd (c : Cursor Char (Notes Char)) (step : Step) :
    (perform .chars c step).2 = c.takeSteps step.tracked := by
  cases step <;> rfl

/-- One observer for each tag is what the steps that add them lead to. -/
theorem start_eq_takeSteps (elements : List Char) (tags : List String) (p : Position) :
    start elements tags p = (Cursor.ofArray elements.toArray ⟨p, []⟩).takeSteps
      ((tags.map Step.addObserver).flatMap Step.tracked) := by
  have hsteps : (tags.map Step.addObserver).flatMap Step.tracked =
      tags.map fun tag => .observe (Notes.bystander tag) := by
    rw [List.flatMap_map, List.map_eq_flatMap]
    rfl
  rw [hsteps, start, Cursor.registerAll, Cursor.takeSteps, List.foldl_map, List.foldl_map]
  rfl

/-- A session leads to the cursor that its steps tell, with the observers of the beginning added
first. -/
theorem cursorAfter_hasPast (elements : List Char) (tags : List String) (p : Position)
    (steps : List Step) :
    (cursorAfter .chars (start elements tags p) steps).HasPast elements.toArray
      ((tags.map Step.addObserver ++ steps).flatMap Step.tracked) := by
  induction steps using List.reverseRecOn with
  | nil =>
    rw [List.append_nil, start_eq_takeSteps]
    exact (Cursor.hasPast_ofArray _ _).takeSteps _
  | append_singleton steps step ih =>
    rw [← List.append_assoc, List.flatMap_append, List.flatMap_singleton, cursorAfter,
      List.foldl_append, ← cursorAfter]
    show (perform .chars _ step).2.HasPast _ _
    rw [perform_snd]
    exact (ih.withState _).takeSteps _

end Session

/-- **The position of a session follows its live observers**, those of the beginning first. -/
theorem session_follows_live_observers (elements : List Char) (tags : List String) (p : Position)
    (steps : List Session.Step) :
    (Session.cursorAfter .chars (Session.start elements tags p) steps).FollowsObservers
      (liveRoles ((tags.map Session.Step.addObserver ++ steps).flatMap Session.Step.tracked)) :=
  (Session.cursorAfter_hasPast elements tags p steps).followsObservers

end SourceLexer
