/-
Sets of characters, built from ranges.

A set is kept as its ranges in ascending order.  Ranges that overlap or touch are
joined, so that two sets made in different ways have the same ranges if they hold
the same characters; only what lies on both sides of U+D800 to U+DFFF, where no
characters are, stays apart.
-/
namespace SourceLexer

/-- A set of characters: the first and the last character of each of its ranges. -/
structure CharSet where
  ranges : List (Char × Char)
deriving DecidableEq

namespace CharSet

/-- Whether a set holds a character. -/
def contains (c : Char) (s : CharSet) : Bool := s.ranges.any fun r => r.1 ≤ c && c ≤ r.2

/-- The set without a character. -/
def empty : CharSet := ⟨[]⟩

/-- The set of the characters from one to another. -/
def range (first last : Char) : CharSet := ⟨[(first, last)]⟩

/-- The set of one character. -/
def single (c : Char) : CharSet := range c c

/-- The last character of all. -/
def greatest : Char := Char.ofNat 0x10ffff

/-- The set of all characters. -/
def all : CharSet := range '\x00' greatest

/-- The first of two characters. -/
def earlier (c d : Char) : Char := if c ≤ d then c else d

/-- The last of two characters. -/
def later (c d : Char) : Char := if c ≤ d then d else c

/-- The character behind another one. -/
def succ (c : Char) : Char := if c = '\ud7ff' then '\ue000' else Char.ofNat (c.toNat + 1)

/-- The character before another one. -/
def pred (c : Char) : Char := if c = '\ue000' then '\ud7ff' else Char.ofNat (c.toNat - 1)

/-- Adds a range to ascending ranges and joins it with those that it overlaps or touches. -/
def insert (first last : Char) : List (Char × Char) → List (Char × Char)
  | [] => [(first, last)]
  | (a, b) :: rest =>
    if last.toNat + 1 < a.toNat then (first, last) :: (a, b) :: rest
    else if b.toNat + 1 < first.toNat then (a, b) :: insert first last rest
    else insert (earlier first a) (later last b) rest

/-- The set of the characters in some ranges. -/
def ofRanges (ranges : List (Char × Char)) : CharSet :=
  ⟨ranges.foldl (fun rs r => insert r.1 r.2 rs) []⟩

/-- The characters of one set or another. -/
def union (s t : CharSet) : CharSet := ⟨t.ranges.foldl (fun rs r => insert r.1 r.2 rs) s.ranges⟩

/-- The characters of both sets. -/
def intersection (s t : CharSet) : CharSet :=
  ⟨s.ranges.flatMap fun r =>
    (t.ranges.map fun q => (later r.1 q.1, earlier r.2 q.2)).filter fun q => q.1 ≤ q.2⟩

/-- What of the range `r` is left without the characters from `first` to `last`. -/
def cut (first last : Char) (r : Char × Char) : List (Char × Char) :=
  if last < r.1 || r.2 < first then [r]
  else
    (if r.1 < first then [(r.1, pred first)] else []) ++
      (if last < r.2 then [(succ last, r.2)] else [])

/-- The characters of the first set that are not in the second. -/
def difference (s t : CharSet) : CharSet :=
  ⟨t.ranges.foldl (fun rs r => rs.flatMap (cut r.1 r.2)) s.ranges⟩

/-- The characters of exactly one of two sets. -/
def symmetricDifference (s t : CharSet) : CharSet := difference (union s t) (intersection s t)

/-- The gaps between a range that ends with `last`, the ranges behind it and the last character of
all.  No character is in the gap between U+D7FF and U+E000; the two stand for it. -/
def gaps (last : Char) : List (Char × Char) → List (Char × Char)
  | [] => if last < greatest then [(succ last, greatest)] else []
  | (a, b) :: rest => (earlier (succ last) (pred a), later (succ last) (pred a)) :: gaps b rest

/-- The characters that are not in a set. -/
def complement (s : CharSet) : CharSet :=
  match s.ranges with
  | [] => all
  | (a, b) :: rest => ⟨(if '\x00' < a then [('\x00', pred a)] else []) ++ gaps b rest⟩

/-- The characters of a set and the ASCII letters that differ from one of them in case only. -/
def anyCase (s : CharSet) : CharSet :=
  let moved (first last : Char) (f : Char → Char) : CharSet :=
    ⟨(intersection s (range first last)).ranges.map fun r => (f r.1, f r.2)⟩
  union s (union (moved 'A' 'Z' Char.toLower) (moved 'a' 'z' Char.toUpper))

/-- The ASCII digits. -/
def digits : CharSet := range '0' '9'

/-- The ASCII letters, digits and the underscore. -/
def wordCharacters : CharSet := ofRanges [('0', '9'), ('A', 'Z'), ('_', '_'), ('a', 'z')]

/-- The blanks of ASCII. -/
def blanks : CharSet := ofRanges [('\t', '\r'), (' ', ' ')]

/-- The sets of ASCII characters that have a name. -/
def named? (name : String) : Option CharSet :=
  match name with
  | "alnum" => some (ofRanges [('0', '9'), ('A', 'Z'), ('a', 'z')])
  | "alpha" => some (ofRanges [('A', 'Z'), ('a', 'z')])
  | "ascii" => some (range '\x00' '\x7f')
  | "blank" => some (ofRanges [('\t', '\t'), (' ', ' ')])
  | "cntrl" => some (ofRanges [('\x00', '\x1f'), ('\x7f', '\x7f')])
  | "digit" => some digits
  | "graph" => some (range '!' '~')
  | "lower" => some (range 'a' 'z')
  | "print" => some (range ' ' '~')
  | "punct" => some (ofRanges [('!', '/'), (':', '@'), ('[', '\x60'), ('{', '~')])
  | "space" => some blanks
  | "upper" => some (range 'A' 'Z')
  | "word" => some wordCharacters
  | "xdigit" => some (ofRanges [('0', '9'), ('A', 'F'), ('a', 'f')])
  | _ => none

end CharSet

end SourceLexer
