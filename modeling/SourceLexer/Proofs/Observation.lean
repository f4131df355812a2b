/-
Who is told what.

The handles of a cursor's observers increase strictly, so at most one observer
has a given handle: it alone is removed by it (`exists_split_live`), and it hears
each element once.  Over a whole history an observer hears a contiguous part of
the sequence, from its registration to its removal:

* `heardBy_notices` — what the observer of a registration has heard;
* `Cursor.removeWord_eq` — in words of 32 bits the handles are told apart as well;
* `observers_exact` — registration, removal and notification after any
  operations whatever.
-/
import SourceLexer.Proofs.History

namespace SourceLexer

variable {α σ : Type}

/-! ### The observer with a handle -/

section

variable {past : List (Operation α σ)} {n : Nat}

/-- Exactly one live observer has a handle that has been issued and not been removed. -/
theorem exists_split_live (hn : n < (registered past).length) (hr : isRemoved past n = false) :
    ∃ before o behind, o.handle = n ∧ live past = before ++ o :: behind ∧
      ∀ o' ∈ before ++ behind, o'.handle ≠ n := by
  obtain ⟨o, ho, rfl⟩ := exists_mem_live_iff.mpr ⟨hn, hr⟩
  obtain ⟨before, behind, hlive⟩ := List.append_of_mem ho
  have hpairwise : (live past).Pairwise fun o o' => o.handle < o'.handle := pairwise_handle_live
  rw [hlive, List.pairwise_append, List.pairwise_cons] at hpairwise
  obtain ⟨-, ⟨hbehind, -⟩, hbefore⟩ := hpairwise
  refine ⟨before, o, behind, rfl, hlive, ?_⟩
  intro o' ho'
  rcases List.mem_append.mp ho' with h | h
  · exact (hbefore o' h o List.mem_cons_self).ne
  · exact (hbehind o' h).ne'

theorem handle_ne_of_not_live (h : ¬ (n < (registered past).length ∧ isRemoved past n = false)) :
    ∀ o ∈ live past, o.handle ≠ n := by
  intro o ho hn
  exact h (exists_mem_live_iff.mp ⟨o, ho, hn⟩)

/-- A live observer hears each element once, and nobody else has its handle. -/
theorem heardBy_live (a : α) :
    heardBy n ((live past).map (·, a)) =
      if n < (registered past).length ∧ isRemoved past n = false then [a] else [] := by
  rw [heardBy]
  split
  · next h =>
    obtain ⟨before, o, behind, ho, hlive, hother⟩ := exists_split_live h.1 h.2
    have hnone : ∀ l : List (Observer α σ), (∀ o' ∈ l, o'.handle ≠ n) →
        (l.map (·, a)).filter (·.1.handle = n) = [] := by
      intro l hl
      rw [List.filter_eq_nil_iff]
      intro m hm
      obtain ⟨o', ho', rfl⟩ := List.mem_map.mp hm
      simpa using hl o' ho'
    rw [hlive, List.map_append, List.map_cons, List.filter_append,
      hnone before fun o' h => hother o' (List.mem_append_left _ h),
      List.filter_cons_of_pos (by simpa using ho),
      hnone behind fun o' h => hother o' (List.mem_append_right _ h)]
    rfl
  · next h =>
    rw [List.map_eq_nil_iff, List.filter_eq_nil_iff]
    intro m hm
    obtain ⟨o, ho, rfl⟩ := List.mem_map.mp hm
    simpa using handle_ne_of_not_live h o ho

end

/-! ### What an observer hears -/

section

variable (elements : Array α)

/-- What the observer with a handle hears from one operation more. -/
theorem heardBy_append_singleton (n : Nat) (past : List (Operation α σ)) (op : Operation α σ) :
    heardBy n (notices elements (past ++ [op])) = heardBy n (notices elements past) ++
      if op.isConsume ∧ n < (registered past).length ∧ isRemoved past n = false then
        elements[consumptions past]?.toList
      else [] := by
  have happend : ∀ ns ms : List (Observer α σ × α),
      heardBy n (ns ++ ms) = heardBy n ns ++ heardBy n ms := by
    intro ns ms
    rw [heardBy, List.filter_append, List.map_append]
    rfl
  rw [notices_append_singleton, happend, noticesOf]
  congr 1
  cases hop : op.isConsume with
  | false => simp [heardBy]
  | true =>
    cases elements[consumptions past]? with
    | none => simp [heardBy]
    | some a => simpa using heardBy_live a

/-- Who has not been registered has heard nothing. -/
theorem heardBy_notices_of_le {n : Nat} {past : List (Operation α σ)}
    (h : (registered past).length ≤ n) : heardBy n (notices elements past) = [] := by
  induction past using List.reverseRecOn with
  | nil => rfl
  | append_singleton past op ih =>
    rw [registered_append_singleton, List.length_append] at h
    rw [heardBy_append_singleton, ih (by omega), if_neg (by omega)]
    rfl

/-- Who has been removed hears nothing more. -/
theorem heardBy_notices_of_isRemoved {n : Nat} {past : List (Operation α σ)}
    (h : isRemoved past n = true) (more : List (Operation α σ)) :
    isRemoved (past ++ more) n = true ∧
      heardBy n (notices elements (past ++ more)) = heardBy n (notices elements past) := by
  induction more using List.reverseRecOn with
  | nil => exact ⟨by rw [List.append_nil]; exact h, by rw [List.append_nil]⟩
  | append_singleton more op ih =>
    obtain ⟨hremoved, hheard⟩ := ih
    rw [← List.append_assoc]
    constructor
    · rw [isRemoved_append_singleton, hremoved, Bool.true_or]
    · rw [heardBy_append_singleton, hheard, hremoved, if_neg (by simp), List.append_nil]

/-- Until it is removed an observer hears all that is consumed. -/
theorem heardBy_notices_of_live (earlier : List (Operation α σ)) (hear : α → σ → σ)
    {more : List (Operation α σ)} (h : ∀ op ∈ more, op.removes (registered earlier).length = false) :
    (registered earlier).length < (registered (earlier ++ .register hear :: more)).length ∧
      isRemoved (earlier ++ .register hear :: more) (registered earlier).length = false ∧
      heardBy (registered earlier).length (notices elements (earlier ++ .register hear :: more)) =
        (elements.toList.drop (consumptions earlier)).take (consumptions more) := by
  induction more using List.reverseRecOn with
  | nil =>
    refine ⟨?_, ?_, ?_⟩
    · rw [registered_append_singleton, List.length_append]
      exact Nat.lt_succ_self _
    · rw [isRemoved_append_singleton, Bool.eq_false_iff]
      intro hremoved
      rw [Bool.or_eq_true] at hremoved
      rcases hremoved with hremoved | hremoved
      · exact lt_irrefl _ (lt_of_isRemoved hremoved)
      · cases hremoved
    · rw [heardBy_append_singleton, heardBy_notices_of_le elements le_rfl]
      rfl
  | append_singleton more op ih =>
    obtain ⟨hlt, hremoved, hheard⟩ := ih fun op hop => h op (List.mem_append_left _ hop)
    rw [← List.cons_append, ← List.append_assoc]
    refine ⟨?_, ?_, ?_⟩
    · rw [registered_append_singleton, List.length_append]
      omega
    · rw [isRemoved_append_singleton, hremoved, h op (by simp)]
      rfl
    · -- the next element it hears is the one behind those it has heard
      rw [heardBy_append_singleton, hheard, consumptions_append more]
      have hcount : consumptions (earlier ++ .register hear :: more) =
          consumptions earlier + consumptions more := by
        rw [consumptions_append]
        rfl
      cases hop : op.isConsume with
      | false =>
        rw [if_neg (by simp), List.append_nil, consumptions, consumptions, consumptions,
          List.countP_singleton, hop]
        rfl
      | true =>
        have hone : consumptions [op] = 1 := by rw [consumptions, List.countP_singleton, hop]; rfl
        rw [if_pos ⟨rfl, hlt, hremoved⟩, hone, List.take_add_one, List.getElem?_drop, hcount,
          Array.getElem?_toList]

/-- **What an observer has heard** is the part of the sequence that has been consumed since its
registration and before its removal. -/
theorem heardBy_notices (earlier : List (Operation α σ)) (hear : α → σ → σ)
    (later : List (Operation α σ)) :
    heardBy (registered earlier).length (notices elements (earlier ++ .register hear :: later)) =
      (elements.toList.drop (consumptions earlier)).take
        (consumptions (later.takeWhile fun op => !op.removes (registered earlier).length)) := by
  set n := (registered earlier).length with hn
  set untilRemoved := later.takeWhile fun op => !op.removes n with huntil
  have hwhile : ∀ op ∈ untilRemoved, op.removes n = false := by
    intro op hop
    simpa using List.mem_takeWhile_imp hop
  obtain ⟨hlt, hremoved, hheard⟩ := heardBy_notices_of_live elements earlier hear hwhile
  have hsplit : untilRemoved ++ later.dropWhile (fun op => !op.removes n) = later :=
    List.takeWhile_append_dropWhile
  cases hrest : later.dropWhile fun op => !op.removes n with
  | nil =>
    rw [hrest, List.append_nil] at hsplit
    rw [← hsplit]
    exact hheard
  | cons op rest =>
    -- the first operation that is left removes the observer, and consumes nothing
    have hop : op.removes n = true := by
      have := List.head?_dropWhile_not (fun op => !op.removes n) later
      rw [hrest] at this
      simpa using this
    have hconsume : op.isConsume = false := by
      cases op with
      | remove m => rfl
      | _ => cases hop
    have hpast : earlier ++ .register hear :: later =
        earlier ++ .register hear :: untilRemoved ++ [op] ++ rest := by
      rw [← hsplit, hrest]
      simp
    have hgone : isRemoved (earlier ++ .register hear :: untilRemoved ++ [op]) n = true := by
      rw [isRemoved_append_singleton, hop, decide_eq_true hlt, Bool.or_eq_true]
      exact Or.inr rfl
    rw [hpast, (heardBy_notices_of_isRemoved elements hgone rest).2, heardBy_append_singleton,
      hheard, hconsume, if_neg (by simp), List.append_nil]

end

/-! ### Handles in words -/

/-- A handle in a word of 32 bits. -/
def Observer.handleWord (o : Observer α σ) : UInt32 := UInt32.ofNat o.handle

namespace Cursor

/-- The handle that comes next in a word. -/
def issuedWord (c : Cursor α σ) : UInt32 := UInt32.ofNat c.issued

/-- Takes the observer off the cursor whose handle is a word. -/
def removeWord (c : Cursor α σ) (w : UInt32) : Bool × Cursor α σ :=
  (c.observers.any (·.handleWord = w),
    { c with observers := c.observers.filter (·.handleWord ≠ w) })

/-- A registration takes the next word as its handle and adds one to it. -/
theorem issuedWord_register (c : Cursor α σ) (hear : α → σ → σ) :
    (c.register hear).2.issuedWord = c.issuedWord + 1 ∧
      (c.register hear).2.observers.map Observer.handleWord =
        c.observers.map Observer.handleWord ++ [c.issuedWord] := by
  refine ⟨UInt32.ofNat_add c.issued 1, ?_⟩
  exact List.map_append

/-- Words tell handles apart, as long as all of them are words. -/
theorem removeWord_eq {c : Cursor α σ} (h : ∀ o ∈ c.observers, o.handleWord.toNat = o.handle)
    (w : UInt32) : c.removeWord w = c.remove w.toNat := by
  have hword : ∀ o ∈ c.observers, o.handleWord = w ↔ o.handle = w.toNat := by
    intro o ho
    rw [← UInt32.toNat_inj, h o ho]
  have hany : c.observers.any (·.handleWord = w) = c.observers.any (·.handle = w.toNat) := by
    rw [Bool.eq_iff_iff, List.any_eq_true, List.any_eq_true]
    exact exists_congr fun o => and_congr_right fun ho => by simpa using hword o ho
  have hfilter : c.observers.filter (·.handleWord ≠ w) =
      c.observers.filter (·.handle ≠ w.toNat) :=
    List.filter_congr fun o ho => by simpa using hword o ho
  rw [removeWord, remove, hany, hfilter]

end Cursor

/-! ### Whole runs -/

/-- What a cursor that has been through `past` does next, and what its observers have heard. -/
structure Cursor.IsExact (elements : Array α) (s : σ) (past : List (Operation α σ))
    (c : Cursor α σ) : Prop where
  /-- The observers are those that have been registered and not been removed, in order. -/
  observers : c.observers = live past
  handles : c.observers.Pairwise fun o o' => o.handle < o'.handle
  /-- No handle that has been issued is issued again. -/
  fresh : ∀ o ∈ registered past, o.handle < (registered past).length
  /-- A registration gets the number of those before it as handle. -/
  register : ∀ hear, c.perform (.register hear) =
    (.handle (registered past).length,
      { c with observers := c.observers ++ [⟨(registered past).length, hear⟩]
               issued := (registered past).length + 1 })
  /-- A handle that has been issued and not been removed stands for one observer, which is
  removed. -/
  remove_live : ∀ n, n < (registered past).length → isRemoved past n = false →
    ∃ before o behind, o.handle = n ∧ c.observers = before ++ o :: behind ∧
      c.perform (.remove n) = (.truth true, { c with observers := before ++ behind })
  /-- Any other handle changes nothing. -/
  remove_other : ∀ n, ¬ (n < (registered past).length ∧ isRemoved past n = false) →
    c.perform (.remove n) = (.truth false, c)
  /-- What is consumed is told to every observer once; where nothing is, nobody is told. -/
  consume : c.perform .consume =
    (.element elements[consumptions past]?,
      { c with taken := c.taken + 1
               state := told c.state (elements[consumptions past]?.toList.flatMap fun a =>
                 c.observers.map (·, a)) })
  /-- Looking changes nothing. -/
  look : ∀ op, op ∈ [.current, .peekNext, .hasNext] ∨ (∃ offset, op = .peek offset) →
    (c.perform op).2 = c
  state : c.state = told s (notices elements past)
  /-- An observer has heard what was consumed between its registration and its removal. -/
  heard : ∀ earlier hear later, past = earlier ++ .register hear :: later →
    heardBy (registered earlier).length (notices elements past) =
      (elements.toList.drop (consumptions earlier)).take
        (consumptions (later.takeWhile fun op => !op.removes (registered earlier).length))
  /-- In words the handles are the same, for as long as the words suffice. -/
  words : (registered past).length < 2 ^ 32 →
    c.issuedWord.toNat = (registered past).length ∧
      (∀ o ∈ registered past, o.handleWord.toNat = o.handle) ∧
      (∀ hear, (c.perform (.register hear)).2.issuedWord = c.issuedWord + 1 ∧
        (c.perform (.register hear)).2.observers.map Observer.handleWord =
          c.observers.map Observer.handleWord ++ [c.issuedWord]) ∧
      ∀ w, c.removeWord w = c.remove w.toNat

theorem Cursor.remove_of_not_live {past : List (Operation α σ)} {n : Nat} {c : Cursor α σ}
    (hc : c.observers = live past)
    (h : ¬ (n < (registered past).length ∧ isRemoved past n = false)) :
    c.remove n = (false, c) := by
  have hother := handle_ne_of_not_live h
  rw [← hc] at hother
  have hany : c.observers.any (·.handle = n) = false := by
    rw [List.any_eq_false]
    intro o ho
    simpa using hother o ho
  have hfilter : c.observers.filter (·.handle ≠ n) = c.observers := by
    rw [List.filter_eq_self]
    intro o ho
    simpa using hother o ho
  rw [remove, hany, hfilter]

theorem Cursor.remove_of_live {past : List (Operation α σ)} {n : Nat} {c : Cursor α σ}
    (hc : c.observers = live past) (hn : n < (registered past).length)
    (hr : isRemoved past n = false) :
    ∃ before o behind, o.handle = n ∧ c.observers = before ++ o :: behind ∧
      c.remove n = (true, { c with observers := before ++ behind }) := by
  obtain ⟨before, o, behind, ho, hlive, hother⟩ := exists_split_live hn hr
  rw [← hc] at hlive
  refine ⟨before, o, behind, ho, hlive, ?_⟩
  have hany : c.observers.any (·.handle = n) = true := by
    rw [List.any_eq_true]
    exact ⟨o, by rw [hlive]; simp, by simpa using ho⟩
  have hfilter : c.observers.filter (·.handle ≠ n) = before ++ behind := by
    have hkeep : (before ++ behind).filter (·.handle ≠ n) = before ++ behind := by
      rw [List.filter_eq_self]
      intro o' ho'
      simpa using hother o' ho'
    rw [hlive, List.filter_append, List.filter_cons_of_neg (by simpa using ho),
      ← List.filter_append, hkeep]
  rw [remove, hany, hfilter]

/-- **Observers are told exactly what they should be**, over every run: whatever a cursor has been
through, with the observers of the beginning registered first. -/
theorem observers_exact (elements : Array α) (s : σ) (hears : List (α → σ → σ))
    (ops : List (Operation α σ)) :
    (((Cursor.ofArray elements s).registerAll hears).run ops).IsExact elements s
      (hears.map .register ++ ops) := by
  rw [Cursor.registerAll_run_eq_after]
  generalize hears.map .register ++ ops = past
  refine ⟨rfl, pairwise_handle_live, fun o => handle_lt_of_mem_registered, fun hear => rfl, ?_, ?_,
    ?_, ?_, rfl, ?_, ?_⟩
  · intro n hn hr
    obtain ⟨before, o, behind, ho, hlive, hremove⟩ :=
      Cursor.remove_of_live (c := Cursor.after elements s past) rfl hn hr
    refine ⟨before, o, behind, ho, hlive, ?_⟩
    rw [Cursor.perform, hremove]
  · intro n h
    rw [Cursor.perform, Cursor.remove_of_not_live rfl h]
  · rw [Cursor.perform, Cursor.consume_eq]
    rfl
  · rintro op (hop | ⟨offset, rfl⟩)
    · simp only [List.mem_cons, List.not_mem_nil, or_false] at hop
      rcases hop with rfl | rfl | rfl
      · rfl
      · rfl
      · rfl
    · rfl
  · rintro earlier hear later rfl
    exact heardBy_notices elements earlier hear later
  · intro hfew
    have hword : ∀ o ∈ registered past, o.handleWord.toNat = o.handle := fun o ho =>
      UInt32.toNat_ofNat_of_lt' ((handle_lt_of_mem_registered ho).trans hfew)
    exact ⟨UInt32.toNat_ofNat_of_lt' hfew, hword, Cursor.issuedWord_register _,
      Cursor.removeWord_eq fun o ho => hword o (mem_live_iff.mp ho).1⟩

end SourceLexer
