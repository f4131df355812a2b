/-
Texts cut into pieces.

A text is cut at every separator, or once behind a number of its bytes.  There is
always a piece (`pieces_ne_nil`), and the pieces, empty ones included, joined by
the separator give the text back (`intercalate_pieces`).  Bytes can be counted up
to the end of a character, and not up to a place inside one
(`cutBehind?_eq_some_iff`).
-/
namespace SourceLexer

/-- The pieces of a text between the characters `sep`. -/
def pieces (sep : Char) : List Char → List (List Char)
  | [] => [[]]
  | c :: cs =>
    match pieces sep cs with
    | [] => [[c]]
    | p :: ps => if c = sep then [] :: p :: ps else (c :: p) :: ps

theorem pieces_ne_nil (sep : Char) (cs : List Char) : pieces sep cs ≠ [] := by
  cases cs with
  | nil => simp [pieces]
  | cons c cs =>
    unfold pieces
    split
    · simp
    · split <;> simp

/-- The pieces joined by the separator are the text. -/
theorem intercalate_pieces (sep : Char) (cs : List Char) :
    [sep].intercalate (pieces sep cs) = cs := by
  induction cs with
  | nil => rfl
  | cons c cs ih =>
    unfold pieces
    split
    · next h => exact absurd h (pieces_ne_nil sep cs)
    · next p ps h =>
      rw [h] at ih
      by_cases hc : c = sep
      · simp only [hc, if_pos]
        rw [← ih]
        simp [List.intercalate]
      · rw [if_neg hc, ← ih]
        cases ps <;> simp [List.intercalate]

/-- How many bytes a text takes. -/
def byteCount : List Char → Nat
  | [] => 0
  | c :: cs => c.utf8Size + byteCount cs

/-- What is in front of a place and what is behind it, the place counted in bytes; nothing if it is
inside a character or behind the end. -/
def cutBehind? : Nat → List Char → Option (List Char × List Char)
  | 0, cs => some ([], cs)
  | _ + 1, [] => none
  | n + 1, c :: cs =>
    if c.utf8Size ≤ n + 1 then
      (cutBehind? (n + 1 - c.utf8Size) cs).map fun (front, rest) => (c :: front, rest)
    else none

@[simp] theorem cutBehind?_zero (cs : List Char) : cutBehind? 0 cs = some ([], cs) := by
  cases cs <;> rfl

/-- A text can be cut behind the bytes of any front of it. -/
theorem cutBehind?_append (front rest : List Char) :
    cutBehind? (byteCount front) (front ++ rest) = some (front, rest) := by
  induction front with
  | nil => exact cutBehind?_zero rest
  | cons c front ih =>
    obtain ⟨n, hn⟩ : ∃ n, c.utf8Size + byteCount front = n + 1 :=
      Nat.exists_eq_add_one.mpr (Nat.add_pos_left c.utf8Size_pos _)
    have hrest : n + 1 - c.utf8Size = byteCount front := by omega
    rw [byteCount, hn, List.cons_append, cutBehind?, if_pos (by omega), hrest, ih]
    rfl

/-- To cut a text behind some bytes is to find a front of it that takes as many. -/
theorem cutBehind?_eq_some_iff {n : Nat} {cs front rest : List Char} :
    cutBehind? n cs = some (front, rest) ↔ cs = front ++ rest ∧ byteCount front = n := by
  constructor
  · intro h
    induction cs generalizing n front with
    | nil =>
      cases n with
      | zero =>
        obtain ⟨rfl, rfl⟩ := Prod.mk.inj (Option.some.inj h)
        exact ⟨rfl, rfl⟩
      | succ n => cases h
    | cons c cs ih =>
      cases n with
      | zero =>
        obtain ⟨rfl, rfl⟩ := Prod.mk.inj (Option.some.inj h)
        exact ⟨rfl, rfl⟩
      | succ n =>
        rw [cutBehind?] at h
        split at h
        · next hc =>
          obtain ⟨⟨front', rest'⟩, hcut, hparts⟩ := Option.map_eq_some_iff.mp h
          obtain ⟨rfl, rfl⟩ := Prod.mk.inj hparts
          obtain ⟨rfl, hcount⟩ := ih hcut
          refine ⟨rfl, ?_⟩
          rw [byteCount, hcount]
          omega
        · cases h
  · rintro ⟨rfl, rfl⟩
    exact cutBehind?_append front rest

end SourceLexer
