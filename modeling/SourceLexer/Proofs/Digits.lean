/-
Numbers in digits.

The digits of a number tell the number, in hexadecimal digits
(`toDigits_injective`) as well as in decimal ones, for which the library knows
it.  An integer is written with its decimal digits alone, behind a minus if it
is negative (`toList_repr`).
-/
import Mathlib
import SourceLexer.Hexadecimal

namespace SourceLexer

/-! ### Numbers in hexadecimal digits -/

theorem digitChar_injOn : ∀ m < 16, ∀ n < 16, Nat.digitChar m = Nat.digitChar n → m = n := by
  decide

theorem hexValue?_digitChar : ∀ n < 16, hexValue? (Nat.digitChar n) = some n := by decide

theorem toDigits_injective {m n : Nat} (h : Nat.toDigits 16 m = Nat.toDigits 16 n) : m = n := by
  induction m using Nat.strong_induction_on generalizing n with
  | _ m ih =>
    -- a single digit is not the same as a digit behind others
    have hne : ∀ (k : Nat) (d d' : Char), [d] ≠ Nat.toDigits 16 k ++ [d'] := by
      intro k d d' heq
      have hlen := congrArg List.length heq
      have hpos : 0 < (Nat.toDigits 16 k).length := Nat.length_toDigits_pos
      rw [List.length_append, List.length_singleton, List.length_singleton] at hlen
      omega
    rw [Nat.toDigits_eq_if (by decide), Nat.toDigits_eq_if (n := n) (by decide)] at h
    by_cases hm : m < 16
    · by_cases hn : n < 16
      · rw [if_pos hm, if_pos hn] at h
        exact digitChar_injOn m hm n hn (List.cons.inj h).1
      · rw [if_pos hm, if_neg hn] at h
        exact absurd h (hne _ _ _)
    · by_cases hn : n < 16
      · rw [if_neg hm, if_pos hn] at h
        exact absurd h.symm (hne _ _ _)
      · rw [if_neg hm, if_neg hn] at h
        obtain ⟨hdiv, hmod⟩ := List.append_inj' h rfl
        have hquot : m / 16 = n / 16 := ih (m / 16) (by omega) hdiv
        have hrem : m % 16 = n % 16 :=
          digitChar_injOn _ (by omega) _ (by omega) (List.cons.inj hmod).1
        omega

theorem not_mem_toDigits {c : Char} (h : ∀ n < 16, Nat.digitChar n ≠ c) (n : Nat) :
    c ∉ Nat.toDigits 16 n := by
  induction n using Nat.strong_induction_on with
  | _ n ih =>
    rw [Nat.toDigits_eq_if (by decide)]
    split
    · next hn =>
      intro hc
      exact h n hn (List.mem_singleton.mp hc).symm
    · next hn =>
      intro hc
      rcases List.mem_append.mp hc with hc | hc
      · exact ih (n / 16) (by omega) hc
      · exact h (n % 16) (by omega) (List.mem_singleton.mp hc).symm

/-! ### Numbers in decimal digits -/

theorem isDigit_of_mem_toDigits {n : Nat} {c : Char} (h : c ∈ Nat.toDigits 10 n) :
    c.isDigit = true :=
  Nat.isDigit_of_mem_toDigits (by decide) (by decide) h

/-- Only zero begins with a zero. -/
theorem head_toDigits_ne_zero {n : Nat} (h : 0 < n) : (Nat.toDigits 10 n).head? ≠ some '0' := by
  induction n using Nat.strong_induction_on with
  | _ n ih =>
    rw [Nat.toDigits_eq_if (by decide)]
    split
    · next hn =>
      rw [List.head?_cons, ne_eq, Option.some_inj, Nat.digitChar_eq_zero]
      omega
    · next hn =>
      obtain ⟨d, ds, hds⟩ := List.exists_cons_of_ne_nil (Nat.toDigits_ne_nil (n := n / 10) (b := 10))
      have := ih (n / 10) (by omega) (by omega)
      rw [hds] at this ⊢
      exact this

theorem toDigits_ne_minus_cons (n : Nat) (ds : List Char) : Nat.toDigits 10 n ≠ '-' :: ds := by
  intro h
  have hminus : '-' ∈ Nat.toDigits 10 n := by
    rw [h]
    exact List.mem_cons_self
  exact absurd (isDigit_of_mem_toDigits hminus) (by decide)

theorem isDigit_of_mem_repr {n : Nat} {c : Char} (h : c ∈ n.repr.toList) : c.isDigit = true := by
  rw [Nat.repr_eq_ofList_toDigits, String.toList_ofList] at h
  exact isDigit_of_mem_toDigits h

/-- An integer as it is written. -/
theorem toList_repr (n : Int) : n.repr.toList =
    if 0 ≤ n then Nat.toDigits 10 n.toNat else '-' :: Nat.toDigits 10 (-n).toNat := by
  rw [Int.repr_eq_if]
  split
  · rw [Nat.repr_eq_ofList_toDigits, String.toList_ofList]
  · rw [String.toList_append, Nat.repr_eq_ofList_toDigits]
    simp only [String.toList_ofList]
    rfl

theorem isDigit_of_mem_repr_int {n : Int} {c : Char} (h : c ∈ n.repr.toList) :
    c.isDigit = true ∨ c = '-' := by
  rw [toList_repr] at h
  split at h
  · exact Or.inl (isDigit_of_mem_toDigits h)
  · rcases List.mem_cons.mp h with h | h
    · exact Or.inr h
    · exact Or.inl (isDigit_of_mem_toDigits h)

theorem repr_int_ne_nil (n : Int) : n.repr.toList ≠ [] := by
  rw [toList_repr]
  split
  · exact Nat.toDigits_ne_nil
  · exact List.cons_ne_nil _ _

end SourceLexer
