/-
The cursor that a history leads to.

A history is the list of operations that a cursor has been through.  It tells,
without the cursor, which observers have been registered (`registered`) and not been
removed since (`live`), how many places have been passed (`consumptions`) and
who has been told what (`notices`).  A cursor is exactly what its history tells:

* `after_append_singleton` — one operation more;
* `run_eq_after` — hence the cursor after any operations, in closed form.
-/
import Mathlib
import SourceLexer.Operation

namespace SourceLexer

/-! ### Operations -/

namespace Operation

variable {α σ : Type}

def isConsume : Operation α σ → Bool
  | consume => true
  | _ => false

/-- Whether an operation asks to remove the observer with a handle. -/
def removes (n : Nat) : Operation α σ → Bool
  | remove m => m = n
  | _ => false

/-- The observer that an operation registers. -/
def registered? : Operation α σ → Option (α → σ → σ)
  | register hear => some hear
  | _ => none

end Operation

namespace Cursor

variable {α σ : Type}

/-- The cursor after some operations. -/
def run (c : Cursor α σ) (ops : List (Operation α σ)) : Cursor α σ :=
  ops.foldl (fun c op => (c.perform op).2) c

theorem run_append (c : Cursor α σ) (ops ops' : List (Operation α σ)) :
    c.run (ops ++ ops') = (c.run ops).run ops' :=
  List.foldl_append

/-- Registering observers one after the other is a run as well. -/
theorem registerAll_eq_run (c : Cursor α σ) (hears : List (α → σ → σ)) :
    c.registerAll hears = c.run (hears.map .register) := by
  rw [registerAll, run, List.foldl_map]
  rfl

end Cursor

/-! ### Histories -/

/-- Each element of a list, behind those in front of it. -/
def withPast {β : Type} (l : List β) : List (List β × β) := l.inits.zip l

theorem withPast_append_singleton {β : Type} (l : List β) (b : β) :
    withPast (l ++ [b]) = withPast l ++ [(l, b)] := by
  -- the last prefix of a list is the list, and no element is behind it
  obtain ⟨front, hfront⟩ : ∃ front, l.inits = front ++ [l] := by
    induction l with
    | nil => exact ⟨[], rfl⟩
    | cons a l ih =>
      obtain ⟨front, hfront⟩ := ih
      exact ⟨[] :: front.map (a :: ·), by rw [List.inits_cons, hfront]; simp⟩
  have hlen : front.length = l.length := by
    have := List.length_inits l
    rw [hfront, List.length_append, List.length_singleton] at this
    omega
  have hzip : ∀ last more, (front ++ last).zip (l ++ more) = front.zip l ++ last.zip more :=
    fun last more => List.zip_append hlen
  have hpast : withPast l = front.zip l := by
    have := hzip [l] []
    rwa [List.append_nil, List.zip_nil_right, List.append_nil, ← hfront] at this
  rw [hpast, withPast, List.inits_append, hfront, List.append_assoc, hzip]
  rfl

section

variable {α σ : Type}

/-- How often something has been consumed, elements or not. -/
def consumptions (past : List (Operation α σ)) : Nat := past.countP Operation.isConsume

/-- The observers that have been registered, each with the number of those before it as handle. -/
def registered (past : List (Operation α σ)) : List (Observer α σ) :=
  (past.filterMap Operation.registered?).mapIdx fun n hear => ⟨n, hear⟩

/-- Whether a handle has been removed at a time when it had been issued. -/
def isRemoved (past : List (Operation α σ)) (n : Nat) : Bool :=
  (withPast past).any fun (earlier, op) => op.removes n && decide (n < (registered earlier).length)

/-- The observers that have been registered and not been removed. -/
def live (past : List (Operation α σ)) : List (Observer α σ) :=
  (registered past).filter fun o => !isRemoved past o.handle

/-- Whom an operation tells what: all live observers, in order, of an element that is consumed. -/
def noticesOf (elements : Array α) (earlier : List (Operation α σ)) (op : Operation α σ) :
    List (Observer α σ × α) :=
  if op.isConsume then
    elements[consumptions earlier]?.toList.flatMap fun a => (live earlier).map (·, a)
  else []

/-- Whom a history has told what. -/
def notices (elements : Array α) (past : List (Operation α σ)) : List (Observer α σ × α) :=
  (withPast past).flatMap fun (earlier, op) => noticesOf elements earlier op

/-- What the observer with a handle has been told. -/
def heardBy (n : Nat) (ns : List (Observer α σ × α)) : List α :=
  (ns.filter (·.1.handle = n)).map Prod.snd

/-- The state that telling observers leads to. -/
def told (s : σ) (ns : List (Observer α σ × α)) : σ := ns.foldl (fun s n => n.1.hear n.2 s) s

end

/-! ### One operation more -/

section

variable {α σ : Type} (past : List (Operation α σ)) (op : Operation α σ)

theorem consumptions_append (ops : List (Operation α σ)) :
    consumptions (past ++ ops) = consumptions past + consumptions ops :=
  List.countP_append

theorem consumptions_cons :
    consumptions (op :: past) = (if op.isConsume then 1 else 0) + consumptions past := by
  rw [consumptions, List.countP_cons, Nat.add_comm]
  rfl

theorem registered_append_singleton :
    registered (past ++ [op]) =
      registered past ++ (op.registered?.map fun hear => ⟨(registered past).length, hear⟩).toList := by
  rw [registered, List.filterMap_append, registered]
  cases h : op.registered? with
  | none => rw [List.filterMap_cons_none h]; simp
  | some hear => rw [List.filterMap_cons_some h]; simp [List.mapIdx_append]

theorem isRemoved_append_singleton (n : Nat) :
    isRemoved (past ++ [op]) n =
      (isRemoved past n || op.removes n && decide (n < (registered past).length)) := by
  rw [isRemoved, withPast_append_singleton, List.any_append, List.any_cons, List.any_nil,
    Bool.or_false]
  rfl

theorem notices_append_singleton (elements : Array α) :
    notices elements (past ++ [op]) = notices elements past ++ noticesOf elements past op := by
  rw [notices, withPast_append_singleton, List.flatMap_append, List.flatMap_singleton]
  rfl

end

section

variable {α σ : Type} {past : List (Operation α σ)}

/-- A handle is the number of the observers registered before. -/
theorem handle_of_getElem? {n : Nat} {o : Observer α σ} (h : (registered past)[n]? = some o) :
    o.handle = n := by
  rw [registered, List.getElem?_mapIdx, Option.map_eq_some_iff] at h
  obtain ⟨hear, -, rfl⟩ := h
  rfl

theorem handle_lt_of_mem_registered {o : Observer α σ} (h : o ∈ registered past) :
    o.handle < (registered past).length := by
  obtain ⟨n, hn⟩ := List.mem_iff_getElem?.mp h
  rw [handle_of_getElem? hn]
  exact (List.getElem?_eq_some_iff.mp hn).1

theorem pairwise_handle_registered :
    (registered past).Pairwise fun o o' => o.handle < o'.handle := by
  rw [List.pairwise_iff_getElem]
  intro i j hi hj hij
  rw [handle_of_getElem? (List.getElem?_eq_getElem hi),
    handle_of_getElem? (List.getElem?_eq_getElem hj)]
  exact hij

/-- What has been removed had been issued. -/
theorem lt_of_isRemoved {n : Nat} (h : isRemoved past n = true) : n < (registered past).length := by
  induction past using List.reverseRecOn with
  | nil => cases h
  | append_singleton past op ih =>
    rw [registered_append_singleton, List.length_append]
    rw [isRemoved_append_singleton, Bool.or_eq_true, Bool.and_eq_true, decide_eq_true_iff] at h
    rcases h with h | ⟨-, h⟩
    · exact Nat.lt_add_right _ (ih h)
    · exact Nat.lt_add_right _ h

theorem mem_live_iff {o : Observer α σ} :
    o ∈ live past ↔ o ∈ registered past ∧ isRemoved past o.handle = false := by
  rw [live, List.mem_filter, Bool.not_eq_true']

theorem exists_mem_live_iff {n : Nat} :
    (∃ o ∈ live past, o.handle = n) ↔ n < (registered past).length ∧ isRemoved past n = false := by
  constructor
  · rintro ⟨o, ho, rfl⟩
    obtain ⟨hregistered, hremoved⟩ := mem_live_iff.mp ho
    exact ⟨handle_lt_of_mem_registered hregistered, hremoved⟩
  · rintro ⟨hn, hremoved⟩
    have hhandle := handle_of_getElem? (List.getElem?_eq_getElem hn)
    refine ⟨(registered past)[n], mem_live_iff.mpr ⟨List.getElem_mem hn, ?_⟩, hhandle⟩
    rw [hhandle]
    exact hremoved

theorem pairwise_handle_live : (live past).Pairwise fun o o' => o.handle < o'.handle :=
  pairwise_handle_registered.filter _

end

section

variable {α σ : Type} (past : List (Operation α σ))

theorem live_append_register (hear : α → σ → σ) :
    live (past ++ [.register hear]) = live past ++ [⟨(registered past).length, hear⟩] := by
  have hnew : isRemoved past (registered past).length = false := by
    rw [Bool.eq_false_iff]
    intro h
    exact lt_irrefl _ (lt_of_isRemoved h)
  rw [live, registered_append_singleton]
  simp [isRemoved_append_singleton, Operation.removes, Operation.registered?, hnew, live]

theorem live_append_remove (n : Nat) :
    live (past ++ [.remove n]) = (live past).filter (·.handle ≠ n) := by
  rw [live, live, List.filter_filter, registered_append_singleton]
  show List.filter _ (registered past ++ []) = _
  rw [List.append_nil]
  -- whatever is registered has been issued, so its removal counts
  refine List.filter_congr fun o ho => ?_
  rw [isRemoved_append_singleton, decide_eq_true (handle_lt_of_mem_registered ho), Bool.and_true,
    Bool.not_or, Bool.and_comm]
  simp [Operation.removes, eq_comm]

theorem live_append_other {op : Operation α σ} (hreg : op.registered? = none)
    (hrem : ∀ n, op.removes n = false) : live (past ++ [op]) = live past := by
  rw [live, registered_append_singleton, hreg]
  simp [isRemoved_append_singleton, hrem, live]

end

/-! ### The cursor of a history -/

namespace Cursor

variable {α σ : Type}

/-- The cursor over `elements` that a history leads to, if the state was `s` at first. -/
def after (elements : Array α) (s : σ) (past : List (Operation α σ)) : Cursor α σ where
  elements := elements
  taken := consumptions past
  observers := live past
  issued := (registered past).length
  state := told s (notices elements past)

theorem current_after_consume (c : Cursor α σ) :
    ({ c with taken := c.taken + 1 } : Cursor α σ).current = c.elements[c.taken]? := by
  simp [current, index, elementAt]

theorem consume_eq (c : Cursor α σ) :
    c.consume = (c.elements[c.taken]?,
      { c with
        taken := c.taken + 1
        state := told c.state
          (c.elements[c.taken]?.toList.flatMap fun a => c.observers.map (·, a)) }) := by
  rw [consume]
  simp only [current_after_consume]
  cases c.elements[c.taken]? with
  | none => rfl
  | some a => simp [notify, told, List.foldl_map]

/-- Whatever neither consumes nor registers nor removes leaves a cursor as it is. -/
theorem after_append_look (elements : Array α) (s : σ) (past : List (Operation α σ))
    {op : Operation α σ} (hcon : op.isConsume = false) (hreg : op.registered? = none)
    (hrem : ∀ n, op.removes n = false) :
    after elements s (past ++ [op]) = after elements s past := by
  have htaken : consumptions (past ++ [op]) = consumptions past := by
    rw [consumptions_append, consumptions, consumptions,
      List.countP_singleton, hcon]
    rfl
  have hregistered : registered (past ++ [op]) = registered past := by
    rw [registered_append_singleton, hreg]
    exact List.append_nil _
  have hnotices : notices elements (past ++ [op]) = notices elements past := by
    rw [notices_append_singleton, noticesOf, hcon]
    exact List.append_nil _
  rw [after, after, htaken, hregistered, hnotices, live_append_other past hreg hrem]

/-- The cursor after one operation more. -/
theorem after_append_singleton (elements : Array α) (s : σ) (past : List (Operation α σ))
    (op : Operation α σ) :
    after elements s (past ++ [op]) = ((after elements s past).perform op).2 := by
  cases op with
  | consume =>
    have hregistered : registered (past ++ [.consume]) = registered past :=
      (registered_append_singleton past .consume).trans (List.append_nil _)
    rw [perform, consume_eq, after, hregistered, live_append_other past rfl fun _ => rfl,
      notices_append_singleton, told, List.foldl_append, consumptions_append]
    rfl
  | register hear =>
    rw [perform, register, after, live_append_register, registered_append_singleton,
      notices_append_singleton, consumptions_append, List.length_append]
    simp [after, noticesOf, Operation.isConsume, Operation.registered?, consumptions]
  | remove n =>
    rw [perform, remove, after, live_append_remove, registered_append_singleton,
      notices_append_singleton, consumptions_append, List.length_append]
    simp [after, noticesOf, Operation.isConsume, Operation.registered?, consumptions]
  | current => exact after_append_look elements s past rfl rfl fun _ => rfl
  | peek offset => exact after_append_look elements s past rfl rfl fun _ => rfl
  | peekNext => exact after_append_look elements s past rfl rfl fun _ => rfl
  | hasNext => exact after_append_look elements s past rfl rfl fun _ => rfl

/-- A cursor is what its history tells. -/
theorem run_eq_after (elements : Array α) (s : σ) (past : List (Operation α σ)) :
    (ofArray elements s).run past = after elements s past := by
  induction past using List.reverseRecOn with
  | nil => rfl
  | append_singleton past op ih =>
    rw [run_append, ih, after_append_singleton]
    rfl

/-- The same if the cursor has observers from the beginning, which are registered first. -/
theorem registerAll_run_eq_after (elements : Array α) (s : σ) (hears : List (α → σ → σ))
    (ops : List (Operation α σ)) :
    ((ofArray elements s).registerAll hears).run ops =
      after elements s (hears.map .register ++ ops) := by
  rw [registerAll_eq_run, ← run_append, run_eq_after]

end Cursor

end SourceLexer
