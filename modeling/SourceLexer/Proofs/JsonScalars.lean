/-
Strings and numbers of JSON, written and read.

An escaped text is read as the text (`JsonString.unescape?_escape`), and an
integer that is written out is a number and is read as the integer
(`Json.isNumber_repr`, `Json.integer?_ofInt`).

Of the inside of a string the reader asks only that it has numbers
(`JsonString.units?`); such an inside ends at the first quotation mark that is
not escaped (`Json.splitString_append`).
-/
import SourceLexer.Proofs.Digits
import SourceLexer.TokenJson

namespace SourceLexer

/-! ### The inside of strings -/

namespace JsonString

theorem units?_letter {l : Char} (hl : l ≠ 'u') (rest : List Char) :
    units? ('\\' :: l :: rest) = (unletter? l).bind fun c => (units? rest).map (c.toNat :: ·) := by
  rw [units?]
  · cases unletter? l with
    | none => rfl
    | some c => cases units? rest <;> rfl
  · intro a b c d rest' h
    exact absurd h hl

theorem units?_number (a b c d : Char) (rest : List Char) :
    units? ('\\' :: 'u' :: a :: b :: c :: d :: rest) =
      (hexNumber? [a, b, c, d]).bind fun n => (units? rest).map (n :: ·) := by
  rw [units?]
  cases hexNumber? [a, b, c, d] with
  | none => rfl
  | some n => cases units? rest <;> rfl

theorem units?_plain {c : Char} (hb : c ≠ '\\') (hq : c ≠ '"') (hc : ¬ c.toNat < 0x20)
    (rest : List Char) : units? (c :: rest) = (units? rest).map (c.toNat :: ·) := by
  rw [units?]
  · rw [if_neg]
    rintro (h | h | h)
    · exact hb h
    · exact hq h
    · exact hc h
  · intro a b d e rest' h
    exact absurd h hb
  · intro l rest' h
    exact absurd h hb

/-- The letter of a character stands for the character. -/
theorem unletter?_letter {c l : Char} (h : letter? c = some l) : unletter? l = some c ∧ l ≠ 'u' := by
  have hofNat : ∀ n, c.toNat = n → c = Char.ofNat n := by
    rintro n rfl
    exact (Char.ofNat_toNat c).symm
  unfold letter? at h
  split_ifs at h with h₁ h₂ h₃ h₄ h₅ h₆
  · obtain rfl := Option.some.inj h
    rcases h₁ with rfl | rfl
    · decide
    · decide
  · obtain rfl := Option.some.inj h
    rw [hofNat _ h₂]
    decide
  · obtain rfl := Option.some.inj h
    rw [hofNat _ h₃]
    decide
  all_goals
    obtain rfl := Option.some.inj h
    subst c
    decide

theorem ne_of_letter?_eq_none {c : Char} (h : letter? c = none) : c ≠ '\\' ∧ c ≠ '"' := by
  constructor
  · rintro rfl
    cases h
  · rintro rfl
    cases h

theorem units?_escapeChar_append (c : Char) (rest : List Char) :
    units? (escapeChar c ++ rest) = (units? rest).map (c.toNat :: ·) := by
  rw [escapeChar]
  cases h : letter? c with
  | some l =>
    obtain ⟨hl, hu⟩ := unletter?_letter h
    show units? ('\\' :: l :: rest) = _
    rw [units?_letter hu, hl]
    rfl
  | none =>
    obtain ⟨hb, hq⟩ := ne_of_letter?_eq_none h
    by_cases hc : c.toNat < 0x20
    · have hnumber : hexNumber? ['0', '0', Nat.digitChar (c.toNat / 16),
          Nat.digitChar (c.toNat % 16)] = some c.toNat := by
        have hhigh := hexValue?_digitChar (c.toNat / 16) (by omega)
        have hlow := hexValue?_digitChar (c.toNat % 16) (by omega)
        have hzero : hexValue? '0' = some 0 := rfl
        simp [hexNumber?, hhigh, hlow, hzero]
        omega
      simp only [if_pos hc, List.cons_append, List.nil_append]
      rw [units?_number, hnumber]
      rfl
    · simp only [if_neg hc]
      exact units?_plain hb hq hc rest

/-- An escaped text is well formed, and is written with the numbers of its characters. -/
theorem units?_escape (cs : List Char) : units? (escape cs) = some (cs.map Char.toNat) := by
  induction cs with
  | nil => rfl
  | cons c cs ih =>
    rw [escape, List.flatMap_cons, units?_escapeChar_append]
    show (units? (escape cs)).map _ = _
    rw [ih]
    rfl

/-- The numbers of characters are no halves of surrogate pairs. -/
theorem joinUnits?_map_toNat (cs : List Char) : joinUnits? (cs.map Char.toNat) = some cs := by
  induction cs with
  | nil => rfl
  | cons c cs ih =>
    have hvalid : c.toNat < 0xD800 ∨ 0xDFFF < c.toNat := by
      rcases c.valid with h | ⟨h, -⟩
      · exact Or.inl h
      · exact Or.inr h
    have hhigh : isHighHalf c.toNat = false := by
      rw [Bool.eq_false_iff, isHighHalf]
      simp only [ne_eq, Bool.and_eq_true, decide_eq_true_eq]
      omega
    have hlow : isLowHalf c.toNat = false := by
      rw [Bool.eq_false_iff, isLowHalf]
      simp only [ne_eq, Bool.and_eq_true, decide_eq_true_eq]
      omega
    rw [List.map_cons, joinUnits?.eq_def]
    simp [hhigh, hlow, ih]

theorem unescape?_escape (cs : List Char) : unescape? (escape cs) = some cs := by
  rw [unescape?, units?_escape]
  exact joinUnits?_map_toNat cs

end JsonString

namespace Json

theorem splitString_plain {c : Char} (hb : c ≠ '\\') (hq : c ≠ '"') (rest : List Char) :
    splitString (c :: rest) = (splitString rest).map fun (body, r) => (c :: body, r) := by
  rw [splitString]
  · intro h
    exact absurd h hq
  · intro l rest' h
    exact absurd h hb

theorem splitString_escape (l : Char) (rest : List Char) :
    splitString ('\\' :: l :: rest) =
      (splitString rest).map fun (body, r) => ('\\' :: l :: body, r) := by
  rw [splitString]

/-- A number in hexadecimal digits holds nothing that could end or escape a string. -/
theorem ne_of_mem_hexNumber {digits : List Char} (h : (hexNumber? digits).isSome = true) :
    ∀ c ∈ digits, c ≠ '\\' ∧ c ≠ '"' := by
  have hvalue : ∀ c, (hexValue? c).isSome = true → c ≠ '\\' ∧ c ≠ '"' := by
    intro c hc
    constructor
    · rintro rfl
      cases hc
    · rintro rfl
      cases hc
  rw [hexNumber?] at h
  -- the digits are read one after the other, whatever the number so far
  generalize 0 = n at h
  induction digits generalizing n with
  | nil => exact fun c hc => absurd hc List.not_mem_nil
  | cons d digits ih =>
    rw [List.foldlM_cons] at h
    cases hd : hexValue? d with
    | none =>
      rw [hd] at h
      cases h
    | some k =>
      rw [hd] at h
      intro c hc
      rcases List.mem_cons.mp hc with rfl | hc
      · exact hvalue c (by rw [hd]; rfl)
      · exact ih _ h c hc

theorem isSome_of_isSome_bind {α β γ : Type} {o : Option α} {o' : Option β} {f : α → β → γ}
    (h : (o.bind fun a => o'.bind fun b => some (f a b)).isSome = true) :
    o.isSome = true ∧ o'.isSome = true := by
  cases o with
  | none => cases h
  | some a =>
    cases o' with
    | none => cases h
    | some b => exact ⟨rfl, rfl⟩

/-- A well-formed inside ends in front of the mark that closes the string. -/
theorem splitString_append {body : List Char} (h : (JsonString.units? body).isSome = true)
    (rest : List Char) : splitString (body ++ '"' :: rest) = some (body, rest) := by
  fun_induction JsonString.units? body with
  | case1 => rfl
  | case2 a b c d body ih =>
    obtain ⟨hnumber, hbody⟩ := isSome_of_isSome_bind h
    have hplain := ne_of_mem_hexNumber hnumber
    obtain ⟨ha, hb, hc, hd⟩ : (a ≠ '\\' ∧ a ≠ '"') ∧ (b ≠ '\\' ∧ b ≠ '"') ∧
        (c ≠ '\\' ∧ c ≠ '"') ∧ d ≠ '\\' ∧ d ≠ '"' := by simpa using hplain
    simp only [List.cons_append]
    rw [splitString_escape, splitString_plain ha.1 ha.2, splitString_plain hb.1 hb.2,
      splitString_plain hc.1 hc.2, splitString_plain hd.1 hd.2, ih hbody]
    rfl
  | case3 l body hu ih =>
    obtain ⟨-, hbody⟩ := isSome_of_isSome_bind h
    simp only [List.cons_append]
    rw [splitString_escape, ih hbody]
    rfl
  | case4 c body hu hl hc => cases h
  | case5 c body hu hl hc ih =>
    rw [Option.isSome_map] at h
    rw [List.cons_append, splitString_plain (fun h => hc (Or.inl h)) (fun h => hc (Or.inr (Or.inl h))),
      ih h]
    rfl

/-! ### Numbers -/

/-- What is made of digits and of what else a number may hold. -/
theorem isBare_of_isDigit {c : Char} (h : c.isDigit = true) : isBare c = true := by
  rw [isBare, Char.isAlphanum, h]
  simp

theorem isBare_of_dropWhile {cs : List Char}
    (h : ∀ c ∈ cs.dropWhile Char.isDigit, isBare c = true) : ∀ c ∈ cs, isBare c = true := by
  intro c hc
  rw [← List.takeWhile_append_dropWhile (p := Char.isDigit) (l := cs)] at hc
  rcases List.mem_append.mp hc with hc | hc
  · exact isBare_of_isDigit (List.mem_takeWhile_imp hc)
  · exact h c hc

theorem isBare_of_isDigits {cs : List Char} (h : isDigits cs = true) :
    ∀ c ∈ cs, isBare c = true := by
  rw [isDigits, Bool.and_eq_true, List.all_eq_true] at h
  exact fun c hc => isBare_of_isDigit (h.2 c hc)

theorem isBare_of_isExponent {cs : List Char} (h : isExponent cs = true) :
    ∀ c ∈ cs, isBare c = true := by
  unfold isExponent at h
  split at h
  · exact fun c hc => absurd hc List.not_mem_nil
  · next e cs =>
    rw [Bool.and_eq_true, Bool.or_eq_true, decide_eq_true_iff, decide_eq_true_iff] at h
    obtain ⟨he, hcs⟩ := h
    refine List.forall_mem_cons.mpr ⟨?_, ?_⟩
    · rcases he with rfl | rfl
      · rfl
      · rfl
    · split at hcs
      · exact List.forall_mem_cons.mpr ⟨rfl, isBare_of_isDigits hcs⟩
      · exact List.forall_mem_cons.mpr ⟨rfl, isBare_of_isDigits hcs⟩
      · exact isBare_of_isDigits hcs

theorem isBare_of_isFraction {cs : List Char} (h : isFraction cs = true) :
    ∀ c ∈ cs, isBare c = true := by
  unfold isFraction at h
  split at h
  · next d cs =>
    rw [Bool.and_eq_true] at h
    refine List.forall_mem_cons.mpr ⟨rfl, List.forall_mem_cons.mpr ⟨isBare_of_isDigit h.1, ?_⟩⟩
    exact isBare_of_dropWhile (isBare_of_isExponent h.2)
  · exact isBare_of_isExponent h

theorem isBare_of_isMagnitude {cs : List Char} (h : isMagnitude cs = true) :
    ∀ c ∈ cs, isBare c = true := by
  cases cs with
  | nil => cases h
  | cons d cs =>
    rw [isMagnitude] at h
    split at h
    · next hd =>
      subst hd
      exact List.forall_mem_cons.mpr ⟨rfl, isBare_of_isFraction h⟩
    · rw [Bool.and_eq_true] at h
      exact List.forall_mem_cons.mpr
        ⟨isBare_of_isDigit h.1, isBare_of_dropWhile (isBare_of_isFraction h.2)⟩

/-- A number holds only characters that may stand in one. -/
theorem isBare_of_isNumber {cs : List Char} (h : isNumber cs = true) :
    ∀ c ∈ cs, isBare c = true := by
  unfold isNumber at h
  split at h
  · exact List.forall_mem_cons.mpr ⟨rfl, isBare_of_isMagnitude h⟩
  · exact isBare_of_isMagnitude h

/-! ### Integers -/

theorem isDigits_toDigits (n : Nat) : isDigits (Nat.toDigits 10 n) = true := by
  rw [isDigits, Bool.and_eq_true, List.all_eq_true]
  refine ⟨?_, fun c hc => isDigit_of_mem_toDigits hc⟩
  simp

theorem isMagnitude_toDigits (n : Nat) : isMagnitude (Nat.toDigits 10 n) = true := by
  rcases Nat.eq_zero_or_pos n with rfl | hn
  · decide
  · have hdigit : ∀ c ∈ Nat.toDigits 10 n, c.isDigit = true :=
      fun c hc => isDigit_of_mem_toDigits hc
    have hhead := head_toDigits_ne_zero hn
    obtain ⟨d, ds, hds⟩ := List.exists_cons_of_ne_nil (Nat.toDigits_ne_nil (n := n) (b := 10))
    rw [hds] at hdigit hhead ⊢
    have hdrop : ds.dropWhile Char.isDigit = [] :=
      List.dropWhile_eq_nil_iff.mpr fun c hc => hdigit c (List.mem_cons_of_mem _ hc)
    rw [isMagnitude, if_neg (by simpa using hhead), hdigit d List.mem_cons_self, hdrop]
    rfl

/-- An integer is written as a number. -/
theorem isNumber_repr (n : Int) : isNumber n.repr.toList = true := by
  rw [toList_repr]
  split
  · unfold isNumber
    split
    · next ds h => exact absurd h (toDigits_ne_minus_cons _ _)
    · exact isMagnitude_toDigits _
  · exact isMagnitude_toDigits _

theorem natural?_toDigits (n : Nat) : natural? (Nat.toDigits 10 n) = some n := by
  rw [natural?, if_pos (isDigits_toDigits n), Nat.ofDigitChars_ten_toDigits]

/-- An integer is read as it was written. -/
theorem integer?_ofInt (n : Int) : integer? (ofInt n) = some n := by
  rw [ofInt, toList_repr]
  split
  · next hn =>
    unfold integer?
    split
    · next ds h => exact absurd (Json.number.inj h) (toDigits_ne_minus_cons _ _)
    · next ds _ h =>
      obtain rfl := Json.number.inj h
      rw [natural?_toDigits]
      simp [Int.toNat_of_nonneg hn]
    · next h => exact absurd rfl (h _)
  · next hn =>
    have hne : (-n).toNat ≠ 0 := by omega
    rw [integer?, natural?_toDigits, Option.bind_some, if_neg hne]
    congr 1
    omega

end Json

end SourceLexer
