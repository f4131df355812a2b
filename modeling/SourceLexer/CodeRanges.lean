/-
Sets of characters given as ranges of code points.

The tables of this library (`WhiteSpace`, `Alphanumeric`, `Glyphless`) are lists of
inclusive ranges, and a character is looked up by its code point.
-/
namespace SourceLexer

/-- Whether the code point of `c` lies in one of the inclusive `ranges`. -/
def inRanges (ranges : List (Nat × Nat)) (c : Char) : Bool :=
  ranges.any fun r => r.1 ≤ c.toNat && c.toNat ≤ r.2

theorem inRanges_iff {ranges : List (Nat × Nat)} {c : Char} :
    inRanges ranges c = true ↔ ∃ r ∈ ranges, r.1 ≤ c.toNat ∧ c.toNat ≤ r.2 := by
  simp [inRanges]

end SourceLexer
