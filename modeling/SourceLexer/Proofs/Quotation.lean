/-
Quoted text can be read back.

Between quotation marks every character has a form of its own
(`Quoted.escape_cases`), and no form is the beginning of another
(`Quoted.escape_append_inj`).  So a quoted text ends where its closing mark
stands, whatever comes behind, and tells its characters
(`Quoted.between_append_inj`); and as no form holds a newline, it stands on one
line (`Quoted.newline_not_mem_between`).
-/
import SourceLexer.Proofs.Digits
import SourceLexer.Quoted

namespace SourceLexer

/-- A text is cut at the first `x` in one way. -/
theorem append_cons_inj {α : Type} {x : α} {as bs rest rest' : List α} (ha : x ∉ as) (hb : x ∉ bs)
    (h : as ++ x :: rest = bs ++ x :: rest') : as = bs ∧ rest = rest' := by
  induction as generalizing bs with
  | nil =>
    cases bs with
    | nil => exact ⟨rfl, (List.cons.inj h).2⟩
    | cons b bs => exact absurd ((List.cons.inj h).1 ▸ List.mem_cons_self) hb
  | cons a as ih =>
    cases bs with
    | nil => exact absurd ((List.cons.inj h).1 ▸ List.mem_cons_self) ha
    | cons b bs =>
      obtain ⟨rfl, htail⟩ := List.cons.inj h
      obtain ⟨rfl, hrest⟩ := ih (fun h => ha (List.mem_cons_of_mem _ h))
        (fun h => hb (List.mem_cons_of_mem _ h)) htail
      exact ⟨rfl, hrest⟩

namespace Quoted

/-! ### The form of a character -/

/-- The characters of a text that are written with a letter, and their letters. -/
def letters : List (Char × Char) :=
  [('"', '"'), ('\\', '\\'), ('\x00', '0'), ('\t', 't'), ('\r', 'r'), ('\n', 'n')]

theorem letter?_eq_some_iff (c l : Char) : letter? '"' c = some l ↔ (c, l) ∈ letters := by
  constructor
  · intro h
    unfold letter? at h
    split_ifs at h with h₁ h₂ h₃ h₄ h₅
    · obtain rfl := Option.some.inj h
      rcases h₁ with rfl | rfl
      · decide
      · decide
    all_goals
      obtain rfl := Option.some.inj h
      subst c
      decide
  · intro h
    simp only [letters, List.mem_cons, List.not_mem_nil, or_false, Prod.mk.injEq] at h
    rcases h with ⟨rfl, rfl⟩ | ⟨rfl, rfl⟩ | ⟨rfl, rfl⟩ | ⟨rfl, rfl⟩ | ⟨rfl, rfl⟩ | ⟨rfl, rfl⟩
    all_goals decide

/-- A character is written with a letter, or by its number, or as it is. -/
theorem escape_cases (c : Char) :
    (∃ l, (c, l) ∈ letters ∧ escape '"' c = ['\\', l]) ∨ escape '"' c = byNumber c ∨
      (∀ l, (c, l) ∉ letters) ∧ escape '"' c = [c] := by
  rw [escape]
  cases h : letter? '"' c with
  | some l => exact Or.inl ⟨l, (letter?_eq_some_iff c l).mp h, rfl⟩
  | none =>
    right
    by_cases hu : isUnseen c = true
    · exact Or.inl (if_pos hu)
    · refine Or.inr ⟨fun l hl => ?_, if_neg hu⟩
      rw [← letter?_eq_some_iff, h] at hl
      cases hl

theorem ne_of_not_mem_letters {c : Char} (h : ∀ l, (c, l) ∉ letters) :
    c ≠ '"' ∧ c ≠ '\\' ∧ c ≠ '\n' := by
  refine ⟨?_, ?_, ?_⟩
  · rintro rfl
    exact h '"' (by decide)
  · rintro rfl
    exact h '\\' (by decide)
  · rintro rfl
    exact h 'n' (by decide)

theorem byNumber_append (c : Char) (rest : List Char) :
    byNumber c ++ rest = '\\' :: 'u' :: '{' :: (Nat.toDigits 16 c.toNat ++ '}' :: rest) := by
  simp [byNumber]

/-- No form is the beginning of another. -/
theorem escape_append_inj {c d : Char} {rest rest' : List Char}
    (h : escape '"' c ++ rest = escape '"' d ++ rest') : c = d ∧ rest = rest' := by
  have hletters : ∀ p ∈ letters, ∀ q ∈ letters, p.2 = q.2 → p.1 = q.1 := by decide
  have hu : ∀ p ∈ letters, p.2 ≠ 'u' := by decide
  have hbrace : ∀ n, '\x7d' ∉ Nat.toDigits 16 n := not_mem_toDigits (by decide)
  rcases escape_cases c with ⟨l, hl, hc⟩ | hc | ⟨hl, hc⟩
  · rcases escape_cases d with ⟨m, hm, hd⟩ | hd | ⟨hm, hd⟩
    · rw [hc, hd] at h
      obtain ⟨hlm, hrest⟩ := List.cons.inj (List.cons.inj h).2
      exact ⟨hletters _ hl _ hm hlm, hrest⟩
    · rw [hc, hd, byNumber_append] at h
      exact absurd (List.cons.inj (List.cons.inj h).2).1 (hu _ hl)
    · rw [hc, hd] at h
      exact absurd (List.cons.inj h).1.symm (ne_of_not_mem_letters hm).2.1
  · rcases escape_cases d with ⟨m, hm, hd⟩ | hd | ⟨hm, hd⟩
    · rw [hc, hd, byNumber_append] at h
      exact absurd (List.cons.inj (List.cons.inj h).2).1.symm (hu _ hm)
    · rw [hc, hd, byNumber_append, byNumber_append] at h
      have htail := (List.cons.inj (List.cons.inj (List.cons.inj h).2).2).2
      obtain ⟨hdigits, hrest⟩ := append_cons_inj (hbrace _) (hbrace _) htail
      exact ⟨Char.toNat_inj.mp (toDigits_injective hdigits), hrest⟩
    · rw [hc, hd, byNumber_append] at h
      exact absurd (List.cons.inj h).1.symm (ne_of_not_mem_letters hm).2.1
  · rcases escape_cases d with ⟨m, hm, hd⟩ | hd | ⟨hm, hd⟩
    · rw [hc, hd] at h
      exact absurd (List.cons.inj h).1 (ne_of_not_mem_letters hl).2.1
    · rw [hc, hd, byNumber_append] at h
      exact absurd (List.cons.inj h).1 (ne_of_not_mem_letters hl).2.1
    · rw [hc, hd] at h
      exact List.cons.inj h

/-- No form begins with a quotation mark. -/
theorem escape_append_ne_quote (c : Char) (rest rest' : List Char) :
    escape '"' c ++ rest ≠ '"' :: rest' := by
  intro h
  rcases escape_cases c with ⟨l, -, hc⟩ | hc | ⟨hl, hc⟩
  · rw [hc] at h
    exact absurd (List.cons.inj h).1 (by decide)
  · rw [hc, byNumber_append] at h
    exact absurd (List.cons.inj h).1 (by decide)
  · rw [hc] at h
    exact absurd (List.cons.inj h).1 (ne_of_not_mem_letters hl).1

theorem newline_not_mem_escape (c : Char) : '\n' ∉ escape '"' c := by
  have hletters : ∀ p ∈ letters, p.2 ≠ '\n' := by decide
  rcases escape_cases c with ⟨l, hl, hc⟩ | hc | ⟨hl, hc⟩
  · have := hletters _ hl
    rw [hc]
    simpa using this.symm
  · have : '\n' ∉ Nat.toDigits 16 c.toNat := not_mem_toDigits (by decide) _
    rw [hc, byNumber]
    simpa using this
  · have := (ne_of_not_mem_letters hl).2.2
    rw [hc]
    simpa using this.symm

/-! ### Quoted texts -/

/-- A quoted text tells its characters, and where it ends. -/
theorem between_append_inj {cs ds rest rest' : List Char}
    (h : between '"' cs ++ rest = between '"' ds ++ rest') : cs = ds ∧ rest = rest' := by
  have hbetween : ∀ cs rest : List Char,
      between '"' cs ++ rest = '"' :: (cs.flatMap (escape '"') ++ '"' :: rest) := by
    intro cs rest
    simp [between]
  rw [hbetween, hbetween] at h
  replace h := (List.cons.inj h).2
  induction cs generalizing ds with
  | nil =>
    cases ds with
    | nil => exact ⟨rfl, (List.cons.inj h).2⟩
    | cons d ds =>
      rw [List.flatMap_cons, List.append_assoc] at h
      exact absurd h.symm (escape_append_ne_quote d _ _)
  | cons c cs ih =>
    cases ds with
    | nil =>
      rw [List.flatMap_cons, List.append_assoc] at h
      exact absurd h (escape_append_ne_quote c _ _)
    | cons d ds =>
      rw [List.flatMap_cons, List.flatMap_cons, List.append_assoc, List.append_assoc] at h
      obtain ⟨rfl, htail⟩ := escape_append_inj h
      obtain ⟨rfl, hrest⟩ := ih htail
      exact ⟨rfl, hrest⟩

/-- A quoted text stands on one line. -/
theorem newline_not_mem_between (cs : List Char) : '\n' ∉ between '"' cs := by
  intro h
  rw [between, List.mem_append, List.mem_cons, List.mem_flatMap] at h
  rcases h with (h | ⟨c, -, hc⟩) | h
  · cases h
  · exact newline_not_mem_escape c hc
  · exact absurd (List.mem_singleton.mp h) (by decide)

end Quoted

end SourceLexer
