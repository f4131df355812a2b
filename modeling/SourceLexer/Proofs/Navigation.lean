/-
Where a cursor is and what it shows there.

A cursor shows elements by their distance from it, and whatever it shows depends on
the sequence and on the number of consumptions alone (`perform_congr`).  So it
can be said of every run, whatever else has been done in it:

* `consumedBy_eq` — the elements that a run consumes are those of the sequence in order,
  and none behind its end;
* `toInt_indexWord` and `peekWord_eq` — an index that is kept in a word of 64 bits,
  and added to with care, shows the same;
* `navigation_exact` — index, element and lookahead after any operations.
-/
import SourceLexer.Proofs.History

namespace SourceLexer

variable {α σ : Type}

namespace Operation

/-- Whether an operation reads the sequence, as all do but those on observers. -/
def reads : Operation α σ → Bool
  | register _ => false
  | remove _ => false
  | _ => true

end Operation

namespace Cursor

/-! ### One operation -/

section

variable (c : Cursor α σ) (op : Operation α σ)

theorem elements_perform : (c.perform op).2.elements = c.elements := by
  cases op with
  | consume => exact elements_consume c
  | _ => rfl

theorem taken_perform :
    (c.perform op).2.taken = c.taken + (if op.isConsume then 1 else 0) := by
  cases op with
  | consume => exact taken_consume c
  | _ => rfl

/-- Only consuming moves a cursor. -/
theorem taken_perform_of_not_consume (h : op.isConsume = false) :
    (c.perform op).2.taken = c.taken := by
  rw [taken_perform, h]
  rfl

end

/-- What an operation reads depends on the sequence and on the number of consumptions alone. -/
theorem perform_congr {c d : Cursor α σ} (he : c.elements = d.elements) (ht : c.taken = d.taken)
    {op : Operation α σ} (h : op.reads = true) : (c.perform op).1 = (d.perform op).1 := by
  have hindex : c.index = d.index := by rw [index, index, ht]
  have hat : c.elementAt = d.elementAt := by
    funext i
    cases i with
    | ofNat i => rw [elementAt, elementAt, he]
    | negSucc i => rfl
  have hpeek : ∀ offset, c.peek offset = d.peek offset := by
    intro offset
    rw [peek, peek, hat, hindex]
  cases op with
  | consume => rw [perform, perform, consume_fst, consume_fst, hpeek]
  | current => rw [perform, perform, current, current, hat, hindex]
  | peek offset => rw [perform, perform, hpeek]
  | peekNext => rw [perform, perform, peekNext, peekNext, hpeek]
  | hasNext => rw [perform, perform, hasNext, hasNext, hpeek]
  | register hear => cases h
  | remove handle => cases h

/-! ### Runs -/

theorem elements_run (c : Cursor α σ) (ops : List (Operation α σ)) :
    (c.run ops).elements = c.elements := by
  induction ops generalizing c with
  | nil => rfl
  | cons op ops ih => exact (ih (c.perform op).2).trans (elements_perform c op)

theorem taken_run (c : Cursor α σ) (ops : List (Operation α σ)) :
    (c.run ops).taken = c.taken + consumptions ops := by
  induction ops generalizing c with
  | nil => rfl
  | cons op ops ih =>
    rw [consumptions_cons, ← Nat.add_assoc, ← taken_perform]
    exact ih (c.perform op).2

/-- What the consumptions of a run give, one after the other. -/
def consumedBy (c : Cursor α σ) : List (Operation α σ) → List (Option α)
  | [] => []
  | op :: ops =>
    (if op.isConsume then [c.consume.1] else []) ++ (c.perform op).2.consumedBy ops

theorem consume_fst_eq (c : Cursor α σ) : c.consume.1 = c.elements[c.taken]? := by
  rw [consume_fst, peek_one]

/-- A run consumes the elements in their order, each once, and then none. -/
theorem consumedBy_eq (c : Cursor α σ) (ops : List (Operation α σ)) :
    c.consumedBy ops = (List.range' c.taken (consumptions ops)).map fun i => c.elements[i]? := by
  induction ops generalizing c with
  | nil => rfl
  | cons op ops ih =>
    rw [consumedBy, ih, elements_perform, taken_perform, consumptions_cons]
    cases op.isConsume with
    | true =>
      rw [if_pos rfl, if_pos rfl, Nat.add_comm 1, List.range'_succ, List.map_cons,
        ← consume_fst_eq]
      rfl
    | false =>
      rw [if_neg Bool.false_ne_true, if_neg Bool.false_ne_true, Nat.add_zero, Nat.zero_add]
      rfl

/-- An operation that consumes nothing makes no difference to where a cursor is later and to what
is read there. -/
theorem run_perform_of_not_consume (c : Cursor α σ) {op : Operation α σ}
    (h : op.isConsume = false) (later : List (Operation α σ)) :
    ((c.perform op).2.run later).index = (c.run later).index ∧
      ∀ query : Operation α σ, query.reads = true →
        (((c.perform op).2.run later).perform query).1 = ((c.run later).perform query).1 := by
  have htaken : ((c.perform op).2.run later).taken = (c.run later).taken := by
    rw [taken_run, taken_run, taken_perform_of_not_consume c op h]
  refine ⟨by rw [index, index, htaken], fun query hq => perform_congr ?_ htaken hq⟩
  rw [elements_run, elements_run, elements_perform]

/-! ### Looking around -/

/-- The element at a distance is the one at the sum of index and distance, wherever that lies. -/
theorem peek_eq_some_iff (c : Cursor α σ) (offset : Int) (a : α) :
    c.peek offset = some a ↔
      ∃ i : Nat, (i : Int) = c.index + offset ∧ c.elements[i]? = some a := by
  rw [peek]
  cases h : c.index + offset with
  | ofNat i =>
    constructor
    · intro hi
      exact ⟨i, rfl, hi⟩
    · rintro ⟨j, hj, ha⟩
      rw [elementAt, ← Int.ofNat.inj hj]
      exact ha
  | negSucc i =>
    -- no place of the sequence has a negative index
    constructor
    · intro hi
      cases hi
    · rintro ⟨j, hj, -⟩
      cases hj

theorem current_eq_peek_zero (c : Cursor α σ) : c.current = c.peek 0 := by
  rw [current, peek, Int.add_zero]

theorem hasNext_iff_exists_consume (c : Cursor α σ) :
    c.hasNext = true ↔ ∃ a, c.consume.1 = some a := by
  rw [consume_fst, hasNext, Option.isSome_iff_exists]

/-! ### Indices in words -/

/-- The word of 64 bits that an integer is, if it is one. -/
def word? (i : Int) : Option Int64 :=
  if Int64.minValue.toInt ≤ i ∧ i ≤ Int64.maxValue.toInt then some (Int64.ofInt i) else none

/-- The element at an index that is a word. -/
def elementAtWord (elements : Array α) (i : Int64) : Option α :=
  if i < 0 then none else elements[i.toNatClampNeg]?

/-- The index in a word. -/
def indexWord (c : Cursor α σ) : Int64 := Int64.ofInt c.index

/-- The element at a distance, if the index and the distance are words: their sum has to be one
too. -/
def peekWord (c : Cursor α σ) (offset : Int64) : Option α :=
  (word? (c.indexWord.toInt + offset.toInt)).bind (elementAtWord c.elements)

theorem elementAtWord_eq (c : Cursor α σ) (i : Int64) :
    elementAtWord c.elements i = c.elementAt i.toInt := by
  have hzero : (0 : Int64).toInt = 0 := rfl
  rw [elementAtWord, Int64.toNatClampNeg]
  by_cases h : i < 0
  · rw [if_pos h]
    rw [Int64.lt_iff_toInt_lt, hzero] at h
    obtain ⟨n, hn⟩ := Int.eq_negSucc_of_lt_zero h
    rw [hn, elementAt]
  · rw [if_neg h]
    rw [Int64.lt_iff_toInt_lt, hzero, Int.not_lt] at h
    obtain ⟨n, hn⟩ := Int.eq_ofNat_of_zero_le h
    rw [hn]
    rfl

/-- Consuming adds one to the index in its word. -/
theorem indexWord_consume (c : Cursor α σ) : c.consume.2.indexWord = c.indexWord + 1 := by
  have h : c.consume.2.index = c.index + 1 := by
    rw [index, index, taken_consume]
    omega
  rw [indexWord, indexWord, h, Int64.ofInt_add]
  rfl

theorem toInt_indexWord {c : Cursor α σ} (h : c.taken ≤ 2 ^ 63) :
    c.indexWord.toInt = c.index := by
  rw [indexWord, Int64.toInt_ofInt_of_le]
  · rw [index]
    omega
  · rw [index]
    omega

/-- Looking with words is looking: where the sum is no word, the sequence has ended long before. -/
theorem peekWord_eq {c : Cursor α σ} (h : c.taken ≤ 2 ^ 63) (hs : c.size ≤ 2 ^ 63)
    (offset : Int64) : c.peekWord offset = c.peek offset.toInt := by
  have hindex : c.index = (c.taken : Int) - 1 := rfl
  have hmin := offset.le_toInt
  rw [peekWord, peek, toInt_indexWord h, word?, Int64.toInt_minValue, Int64.toInt_maxValue]
  by_cases hword : c.index + offset.toInt ≤ 2 ^ 63 - 1
  · by_cases hneg : -2 ^ 63 ≤ c.index + offset.toInt
    · rw [if_pos ⟨hneg, hword⟩, Option.bind_some, elementAtWord_eq,
        Int64.toInt_ofInt_of_le hneg (by omega)]
    · rw [if_neg (by omega), Option.bind_none]
      obtain ⟨n, hn⟩ := Int.eq_negSucc_of_lt_zero (show c.index + offset.toInt < 0 by omega)
      rw [hn, elementAt]
  · rw [if_neg (by omega), Option.bind_none]
    obtain ⟨n, hn⟩ := Int.eq_ofNat_of_zero_le (show 0 ≤ c.index + offset.toInt by omega)
    rw [hn]
    show none = c.elements[n]?
    rw [eq_comm, Array.getElem?_eq_none]
    show c.size ≤ n
    omega

/-! ### Whole runs -/

/-- What a cursor over `elements` shows once there have been `n` consumptions. -/
structure ShowsAt (elements : Array α) (n : Nat) (c : Cursor α σ) : Prop where
  sequence : c.elements = elements
  size : c.size = elements.size
  index : c.index = (n : Int) - 1
  /-- The next consumption gives what is shown one place ahead. -/
  consume : c.consume.1 = elements[n]? ∧ c.consume.1 = c.peek 1
  current : c.current = c.peek 0
  /-- At any distance there is the element of the sequence that has the index, if there is one. -/
  peek : ∀ offset a, c.peek offset = some a ↔
    ∃ i : Nat, (i : Int) = c.index + offset ∧ elements[i]? = some a
  peekNext : c.peekNext = c.peek 2
  hasNext : c.hasNext = true ↔ ∃ a, c.consume.1 = some a
  /-- In words the same is shown, for as long as the words suffice. -/
  words : n < 2 ^ 63 →
    c.indexWord.toInt = (n : Int) - 1 ∧ c.consume.2.indexWord = c.indexWord + 1 ∧
      c.consume.1 = elementAtWord elements (c.indexWord + 1) ∧
      c.current = elementAtWord elements c.indexWord ∧
      (elements.size ≤ 2 ^ 63 → ∀ offset : Int64, c.peek offset.toInt = c.peekWord offset)

theorem showsAt {elements : Array α} {n : Nat} {c : Cursor α σ} (he : c.elements = elements)
    (ht : c.taken = n) : c.ShowsAt elements n := by
  subst he ht
  refine ⟨rfl, rfl, rfl, ⟨consume_fst_eq c, consume_fst c⟩, current_eq_peek_zero c,
    peek_eq_some_iff c, rfl, hasNext_iff_exists_consume c, ?_⟩
  intro hn
  have hindex := toInt_indexWord hn.le
  have hnext : (c.indexWord + 1).toInt = c.index + 1 := by
    have h : c.consume.2.taken ≤ 2 ^ 63 := by
      rw [taken_consume]
      omega
    rw [← indexWord_consume, toInt_indexWord h, index, index, taken_consume]
    omega
  refine ⟨hindex, indexWord_consume c, ?_, ?_, fun hs offset => (peekWord_eq hn.le hs offset).symm⟩
  · rw [elementAtWord_eq, hnext, consume_fst, peek]
  · rw [elementAtWord_eq, hindex, current]

end Cursor

/-- **Navigation is exact over whole runs.**  After any operations the cursor shows what its
sequence and the number of consumptions say; the consumptions have given the elements in order; and
an operation other than consuming changes neither the index nor anything that is read later. -/
theorem navigation_exact (elements : Array α) (s : σ) (hears : List (α → σ → σ))
    (ops : List (Operation α σ)) :
    let first := (Cursor.ofArray elements s).registerAll hears
    (first.run ops).ShowsAt elements (consumptions ops) ∧
    first.consumedBy ops = (List.range (consumptions ops)).map (fun i => elements[i]?) ∧
    ∀ op : Operation α σ, ((first.run ops).perform op).2.elements = elements ∧
      (op.isConsume = false → ∀ later : List (Operation α σ),
        (((first.run ops).perform op).2.run later).index = ((first.run ops).run later).index ∧
        ∀ query : Operation α σ, query.reads = true →
          ((((first.run ops).perform op).2.run later).perform query).1 =
            (((first.run ops).run later).perform query).1) := by
  intro first
  have hnone : consumptions (hears.map Operation.register) = 0 := by
    rw [consumptions, List.countP_map, List.countP_eq_zero]
    intro hear _ h
    cases h
  have hfirst : first = (Cursor.ofArray elements s).run (hears.map .register) :=
    Cursor.registerAll_eq_run _ _
  have he : first.elements = elements := by
    rw [hfirst, Cursor.elements_run]
    rfl
  have ht : first.taken = 0 := by
    rw [hfirst, Cursor.taken_run, hnone]
    rfl
  refine ⟨Cursor.showsAt ?_ ?_, ?_, fun op => ⟨?_, Cursor.run_perform_of_not_consume _⟩⟩
  · rw [Cursor.elements_run, he]
  · rw [Cursor.taken_run, ht, Nat.zero_add]
  · rw [Cursor.consumedBy_eq, he, ht, List.range_eq_range']
  · rw [Cursor.elements_perform, Cursor.elements_run, he]

end SourceLexer
