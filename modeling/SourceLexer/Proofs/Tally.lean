/-
The end of a text, counted in words.

An extent is counted without bounds and clamped when it is stored.  It can also be
found with counters that are machine words: the newlines so far, which stay at
their greatest word, the length so far, and the index of the last newline, from
which the tail is got by subtracting (`Tally`).  Every sum and every difference
of lengths is checked here (`add?`, `sub?`), and as long as the length is a word
all of them are words:

* `exists_foldlM_push?` — one character more, hence a whole text;
* `foldlM_push?_eq_none` — a text that is longer cannot be counted;
* `ends?_eq` — the counters give the end that a token has.
-/
import SourceLexer.Proofs.Place

namespace SourceLexer

/-- The sum of two words, if it is a word. -/
def add? (a b : UInt64) : Option UInt64 := if a.toNat + b.toNat < 2 ^ 64 then some (a + b) else none

/-- The difference of two words, if it is a word. -/
def sub? (a b : UInt64) : Option UInt64 := if b ≤ a then some (a - b) else none

theorem exists_add?_one {a : UInt64} (h : a.toNat + 1 < 2 ^ 64) :
    ∃ b, add? a 1 = some b ∧ b.toNat = a.toNat + 1 := by
  refine ⟨a + 1, if_pos h, ?_⟩
  rw [UInt64.toNat_add]
  exact Nat.mod_eq_of_lt h

theorem exists_sub? {a b : UInt64} (h : b.toNat ≤ a.toNat) :
    ∃ d, sub? a b = some d ∧ d.toNat = a.toNat - b.toNat := by
  have hle : b ≤ a := UInt64.le_iff_toNat_le.mpr h
  exact ⟨a - b, if_pos hle, UInt64.toNat_sub_of_le _ _ hle⟩

/-- What is counted while a text is read. -/
structure Tally where
  newlines : UInt32
  length : UInt64
  lastNewline : Option UInt64

namespace Tally

/-- Nothing has been read. -/
def start : Tally := ⟨0, 0, none⟩

/-- One character more; its index is the length so far. -/
def push? (t : Tally) (c : Char) : Option Tally := do
  let length ← add? t.length 1
  if c = '\n' then
    return ⟨UInt32.ofNatClamp (t.newlines.toNat + 1), length, some t.length⟩
  else
    return { t with length := length }

/-- The characters behind the last newline. -/
def tail? (t : Tally) : Option UInt64 :=
  match t.lastNewline with
  | some i => do
    let behind ← sub? t.length i
    sub? behind 1
  | none => some t.length

/-- The newlines of a text and the characters behind the last of them. -/
def ends? (text : String) : Option (UInt32 × UInt32) := do
  let t ← text.toList.foldlM push? start
  let tail ← t.tail?
  return (t.newlines, UInt32.ofNatClamp tail.toNat)

/-- Whether the counters are those of a text. -/
structure Counts (t : Tally) (cs : List Char) : Prop where
  newlines : t.newlines = UInt32.ofNatClamp (Extent.of (String.ofList cs)).newlines
  length : t.length.toNat = cs.length
  /-- Up to the last newline, if there is one, the tail does not count. -/
  tail : (t.lastNewline.elim 0 fun i => i.toNat + 1) + (Extent.of (String.ofList cs)).tail =
    cs.length

theorem Counts.start : start.Counts [] := ⟨rfl, rfl, rfl⟩

theorem Counts.push? {t : Tally} {cs : List Char} (h : t.Counts cs) {c : Char}
    (hlen : (cs ++ [c]).length < 2 ^ 64) : ∃ t', t.push? c = some t' ∧ t'.Counts (cs ++ [c]) := by
  obtain ⟨hnewlines, hlength, htail⟩ := h
  rw [List.length_append, List.length_singleton] at hlen
  obtain ⟨length, hadd, hnext⟩ := exists_add?_one (a := t.length) (by omega)
  rw [hlength] at hnext
  rw [Tally.push?, hadd]
  by_cases hc : c = '\n'
  · refine ⟨⟨UInt32.ofNatClamp (t.newlines.toNat + 1), length, some t.length⟩, ?_, ?_, ?_, ?_⟩
    · simp [hc]
    · -- a counter that is full stays full
      rw [Extent.of_concat, Extent.push, if_pos hc, hnewlines, ← UInt32.toNat_inj,
        toNat_ofNatClamp, toNat_ofNatClamp, toNat_ofNatClamp]
      show _ = min (_ + 1) _
      omega
    · rw [List.length_append, List.length_singleton]
      exact hnext
    · rw [Extent.of_concat, Extent.push, if_pos hc, List.length_append, List.length_singleton]
      show t.length.toNat + 1 + 0 = _
      rw [hlength]
  · refine ⟨{ t with length := length }, ?_, ?_, ?_, ?_⟩
    · simp [hc]
    · rw [Extent.of_concat, Extent.push, if_neg hc]
      exact hnewlines
    · rw [List.length_append, List.length_singleton]
      exact hnext
    · rw [Extent.of_concat, Extent.push, if_neg hc, List.length_append, List.length_singleton,
        ← htail]
      rfl

/-- While the length of a text is a word, no sum of its counters exceeds one. -/
theorem exists_foldlM_push? {cs : List Char} (h : cs.length < 2 ^ 64) :
    ∃ t, cs.foldlM push? start = some t ∧ t.Counts cs := by
  induction cs using List.reverseRecOn with
  | nil => exact ⟨start, rfl, Counts.start⟩
  | append_singleton cs c ih =>
    have hlen := h
    rw [List.length_append, List.length_singleton] at hlen
    obtain ⟨t, ht, hcounts⟩ := ih (by omega)
    obtain ⟨t', ht', hcounts'⟩ := hcounts.push? h
    refine ⟨t', ?_, hcounts'⟩
    rw [List.foldlM_append, ht]
    simpa using ht'

/-- A length that is no word is never counted: the sum that would reach it fails. -/
theorem foldlM_push?_eq_none {cs : List Char} (h : 2 ^ 64 ≤ cs.length) :
    cs.foldlM push? start = none := by
  induction cs using List.reverseRecOn with
  | nil => exact absurd h (by decide)
  | append_singleton cs c ih =>
    rw [List.length_append, List.length_singleton] at h
    rw [List.foldlM_append]
    by_cases hmore : 2 ^ 64 ≤ cs.length
    · rw [ih hmore]
      rfl
    · -- this character is the first for which the length is no word
      obtain ⟨t, ht, hcounts⟩ := exists_foldlM_push? (show cs.length < 2 ^ 64 by omega)
      have hadd : add? t.length 1 = none := by
        refine if_neg ?_
        rw [hcounts.length]
        show ¬ cs.length + 1 < _
        omega
      rw [ht]
      simp [push?, hadd]

/-- No difference of the counters is negative. -/
theorem Counts.tail? {t : Tally} {cs : List Char} (h : t.Counts cs) :
    ∃ tail, t.tail? = some tail ∧ tail.toNat = (Extent.of (String.ofList cs)).tail := by
  obtain ⟨-, hlength, htail⟩ := h
  rw [Tally.tail?]
  cases hlast : t.lastNewline with
  | none =>
    rw [hlast] at htail
    refine ⟨t.length, rfl, ?_⟩
    rw [hlength, ← htail]
    exact Nat.zero_add _
  | some i =>
    rw [hlast] at htail
    change i.toNat + 1 + _ = _ at htail
    obtain ⟨behind, hbehind, hfirst⟩ := exists_sub? (a := t.length) (b := i) (by omega)
    obtain ⟨tail, htail', hsecond⟩ := exists_sub? (a := behind) (b := 1) (by
      show 1 ≤ _
      omega)
    refine ⟨tail, ?_, ?_⟩
    · simp [hbehind, htail']
    · change _ = _ - 1 at hsecond
      omega

/-- The counters of a text whose length is a word give the end that a token with this text has. -/
theorem ends?_eq {text : String} (h : text.length < 2 ^ 64) (kind : Kind) (p : Position) :
    ends? text = some ((Token.startingAt kind text p).endLine,
      (Token.startingAt kind text p).endOffset) := by
  rw [← String.length_toList] at h
  obtain ⟨t, ht, hcounts⟩ := exists_foldlM_push? h
  obtain ⟨tail, htail, hvalue⟩ := hcounts.tail?
  have hnewlines := hcounts.newlines
  rw [String.ofList_toList] at hnewlines hvalue
  rw [ends?, ht]
  simp [htail, hnewlines, hvalue, Token.startingAt]

end Tally

end SourceLexer
