/-
How patterns are written.

A character stands for itself, a dot for any character of a line, brackets for
one of several characters (`CharSet.read?`), `^` and `$` for the start and the
end of the text or of a line.  Behind an element `*`, `+` and `?` say how often
it may come; a bar stands between choices, and parentheses, named or not, hold a
pattern together.  A backslash takes away the meaning of a mark or gives a letter
one.  Letters behind `(?` switch the modes of what follows (`PatternModes`).

Classes and cases of letters are those of ASCII: a pattern that asks for those of
every script is refused, and so is one that is nested too deep (`Pattern.deepest`).

Every step of a reader takes away a character or leads to one that does, so that
a number of steps in proportion to the length of the text is enough.
-/
import SourceLexer.Alphanumeric
import SourceLexer.Hexadecimal
import SourceLexer.Pattern
import SourceLexer.WhiteSpace

namespace SourceLexer

/-- What is read of a pattern or a set, and how deep it is nested: a character is not nested, and
what is built from others is so once more than they are. -/
structure Nested (α : Type) where
  value : α
  depth : Nat

namespace Nested

/-- What is not nested. -/
def leaf (value : α) : Nested α := ⟨value, 0⟩

/-- What is built from one other thing. -/
def wrap (f : α → β) (x : Nested α) : Nested β := ⟨f x.value, x.depth + 1⟩

/-- What is built from two other things. -/
def wrap₂ (f : α → α → β) (x y : Nested α) : Nested β :=
  ⟨f x.value y.value, max x.depth y.depth + 1⟩

/-- What is built from a list of things; it is nested only if there are several. -/
def join (f : List α → β) (xs : List (Nested α)) : Nested β :=
  let depth := (xs.map depth).foldl max 0
  ⟨f (xs.map value), if xs.length < 2 then depth else depth + 1⟩

end Nested

/-- The modes in which a pattern is read. -/
structure PatternModes where
  /-- Letters stand for both cases (`i`). -/
  ignoresCase : Bool
  /-- The marks for start and end are those of lines (`m`). -/
  hasLines : Bool
  /-- A dot stands for the end of a line too (`s`). -/
  dotIsAny : Bool
  /-- A carriage return ends a line too (`R`). -/
  hasReturns : Bool
  /-- What is greedy without a second mark is so with it, and the other way round (`U`). -/
  swapsGreed : Bool
  /-- Letters, digits and words are those of every script (`u`). -/
  isUnicode : Bool
  /-- Blanks, and comments from a number sign to the end of the line, have no meaning (`x`). -/
  skipsBlanks : Bool

namespace PatternModes

/-- The modes at the start of a pattern. -/
def initial : PatternModes := ⟨false, false, false, false, false, true, false⟩

/-- The modes with the one of a given letter switched on or off. -/
def set? (m : PatternModes) (isOn : Bool) (letter : Char) : Option PatternModes :=
  match letter with
  | 'i' => some { m with ignoresCase := isOn }
  | 'm' => some { m with hasLines := isOn }
  | 's' => some { m with dotIsAny := isOn }
  | 'R' => some { m with hasReturns := isOn }
  | 'U' => some { m with swapsGreed := isOn }
  | 'u' => some { m with isUnicode := isOn }
  | 'x' => some { m with skipsBlanks := isOn }
  | _ => none

/-- The modes switched by letters; those behind a hyphen are switched off. -/
def switched? (m : PatternModes) (letters : List Char) : Option PatternModes := do
  let on := letters.takeWhile (· ≠ '-')
  let off := letters.drop (on.length + 1)
  if !letters.Nodup || letters.getLast? = some '-' then none
  else off.foldlM (set? · false ·) (← on.foldlM (set? · true ·) m)

/-- A text without the blanks and comments that it begins with. -/
def withoutBlanks (isComment : Bool) : List Char → List Char
  | [] => []
  | c :: cs =>
    if isComment then withoutBlanks (c ≠ '\n') cs
    else if isWhiteSpace c then withoutBlanks false cs
    else if c = '#' then withoutBlanks true cs
    else c :: cs

/-- A text without what has no meaning before it. -/
def skip (m : PatternModes) (text : List Char) : List Char :=
  if m.skipsBlanks then withoutBlanks false text else text

/-- The character that a text begins with when what has no meaning is left out, but within a
comment only blanks are. -/
def next? (m : PatternModes) (text : List Char) : Option Char :=
  if m.skipsBlanks then
    match text.dropWhile isWhiteSpace with
    | '#' :: rest => (rest.dropWhile isWhiteSpace).head?.or text.head?
    | c :: _ => some c
    | [] => text.head?
  else text.head?

/-- The set of a character or of a range of characters. -/
def rangeSet? (m : PatternModes) (first last : Char) : Option CharSet :=
  if last < first then none
  else if m.isUnicode then if m.ignoresCase then none else some (.range first last)
  else if 0x80 ≤ last.toNat then none
  else some (if m.ignoresCase then .anyCase (.range first last) else .range first last)

/-- A named set. -/
def namedSet? (m : PatternModes) (set : CharSet) : Option CharSet :=
  if !m.ignoresCase then some set else if m.isUnicode then none else some (.anyCase set)

/-- The complement of a set: a set beyond ASCII. -/
def complement? (m : PatternModes) (set : CharSet) : Option CharSet :=
  if m.isUnicode then some (.complement set) else none

end PatternModes

/-- What stands behind a backslash. -/
inductive Escape where
  /-- A character, by two digits if `isByte`. -/
  | char (c : Char) (isByte : Bool)
  | set (s : CharSet)
  | place (test : PlaceTest)

namespace Escape

/-- A number of hexadecimal digits, and the rest of the text. -/
def digits? (m : PatternModes) : Nat → List Char → Option (List Char × List Char)
  | 0, text => some ([], text)
  | _ + 1, [] => none
  | n + 1, c :: rest =>
    if (hexValue? c).isNone then none
    else (digits? m n (m.skip rest)).map fun r => (c :: r.1, r.2)

/-- A character by a number of hexadecimal digits, and the rest of the text. -/
def numbered? (m : PatternModes) (size : Nat) (text : List Char) : Option (Escape × List Char) := do
  let (digits, rest) ← digits? m size (m.skip text)
  let n ← hexNumber? digits
  if n.isValidChar then some (char (Char.ofNat n) (size = 2), rest) else none

/-- What a letter means behind a backslash; some letters are for one script only, and some for every
script. -/
def ofLetter? (m : PatternModes) (letter : Char) : Option Escape :=
  let ofWords (test : PlaceTest) : Escape := place (if m.isUnicode then .ofEveryScript else test)
  match letter with
  | 'a' => some (char '\x07' false)
  | 'f' => some (char '\x0c' false)
  | 'n' => some (char '\n' false)
  | 'r' => some (char '\r' false)
  | 't' => some (char '\t' false)
  | 'v' => some (char '\x0b' false)
  | 'd' => if m.isUnicode then none else some (set .digits)
  | 's' => if m.isUnicode then none else some (set .blanks)
  | 'w' => if m.isUnicode then none else some (set .wordCharacters)
  | 'A' => some (place .textStart)
  | 'z' => some (place .textEnd)
  | 'b' => some (ofWords .wordBoundary)
  | 'B' => some (ofWords .noWordBoundary)
  | '<' => some (ofWords .wordStart)
  | '>' => some (ofWords .wordEnd)
  | _ => none

/-- What stands behind a backslash, and the rest of the text. -/
def read? (m : PatternModes) : List Char → Option (Escape × List Char)
  | [] => none
  | 'x' :: rest => numbered? m 2 rest
  | 'u' :: rest => numbered? m 4 rest
  | 'U' :: rest => numbered? m 8 rest
  | c :: rest =>
    if c.toNat < 0x80 && !c.isAlphanum && c ≠ '<' && c ≠ '>' then some (char c false, rest)
    else (ofLetter? m c).map fun e => (e, rest)

end Escape

namespace CharSet

/-- The named set that a text behind `[:` begins with, and the rest of the text; a circumflex
before the name turns it into what the set does not hold. -/
def namedPrefix? (text : List Char) : Option ((Bool × CharSet) × List Char) :=
  let isNegated := text.head? = some '^'
  let text := if isNegated then text.tail else text
  match text.dropWhile (· ≠ ':') with
  | ':' :: ']' :: rest =>
    (named? (String.ofList (text.takeWhile (· ≠ ':')))).map fun set => ((isNegated, set), rest)
  | _ => none

/-- A character of a set or what stands behind a backslash, and the rest of the text. -/
def part? (m : PatternModes) : List Char → Option (Escape × List Char)
  | '\\' :: rest => Escape.read? m rest
  | c :: rest => some (.char c false, rest)
  | [] => none

/-- A character, a range of characters or a set behind a backslash, and the rest of the text.  A
hyphen before the closing bracket or before another hyphen makes no range. -/
def item? (m : PatternModes) (text : List Char) : Option (CharSet × List Char) := do
  let (first, rest) ← part? m text
  match m.skip rest with
  | [] => none
  | c :: rest =>
    let isRange := c = '-' && m.next? rest ≠ some ']' && m.next? rest ≠ some '-'
    match first with
    | .place _ => none
    | .set s => if isRange then none else pure (← m.namedSet? s, c :: rest)
    | .char first _ =>
      if isRange then
        match ← part? m (m.skip rest) with
        | (.char last _, rest) => pure (← m.rangeSet? first last, rest)
        | _ => none
      else pure (← m.rangeSet? first first, c :: rest)

/-- The hyphens that a text begins with, and what stands behind them; there are at most as many as
the second argument says. -/
def hyphens (m : PatternModes) : Nat → List Char → List Char × List Char
  | 0, text => ([], text)
  | n + 1, text =>
    match m.skip text with
    | '-' :: rest => let r := hyphens m n rest; ('-' :: r.1, r.2)
    | text => ([], text)

/-- The characters of one of some sets. -/
def unions (sets : List CharSet) : CharSet := sets.foldl union empty

mutual

/-- Reads a set behind its opening bracket.  Hyphens that come first stand for themselves, and so
does a closing bracket. -/
def body? (m : PatternModes) : Nat → List Char → Option (Nested CharSet × List Char)
  | 0, _ => none
  | fuel + 1, text => do
    let text := m.skip text
    let isNegated := text.head? = some '^'
    let text := if isNegated then text.tail else text
    let (first, text) := hyphens m text.length text
    let (first, text) :=
      match first, m.skip text with
      | [], ']' :: rest => ([']'], rest)
      | first, text => (first, text)
    let first ← first.mapM fun c => (m.rangeSet? c c).map Nested.leaf
    let (set, rest) ← items? m fuel id first text
    let value ← if isNegated then m.complement? set.value else some set.value
    pure (⟨value, set.depth + 1⟩, rest)

/-- Reads what is left of a set up to its closing bracket; `sets` are the items that are read.  Of
an operation on sets the first one is already read and is in `combine`. -/
def items? (m : PatternModes) :
    Nat → (Nested CharSet → Nested CharSet) → List (Nested CharSet) → List Char →
      Option (Nested CharSet × List Char)
  | 0, _, _, _ => none
  | fuel + 1, combine, sets, text =>
    let set := combine (Nested.join unions sets)
    match m.skip text with
    | [] => none
    | ']' :: rest => some (set, rest)
    | '&' :: '&' :: rest => items? m fuel (Nested.wrap₂ intersection set) [] rest
    | '-' :: '-' :: rest => items? m fuel (Nested.wrap₂ difference set) [] rest
    | '~' :: '~' :: rest => items? m fuel (Nested.wrap₂ symmetricDifference set) [] rest
    | '[' :: rest => do
      match if rest.head? = some ':' then namedPrefix? rest.tail else none with
      | some ((isNegated, s), rest) =>
        let s ← m.namedSet? s
        let s ← if isNegated then m.complement? s else some s
        items? m fuel combine (sets ++ [Nested.leaf s]) rest
      | none =>
        let (s, rest) ← body? m fuel rest
        items? m fuel combine (sets ++ [s]) rest
    | text => do
      let (s, rest) ← item? m text
      items? m fuel combine (sets ++ [Nested.leaf s]) rest

end

/-- Reads a set behind its opening bracket, and gives the rest of the text. -/
def read? (m : PatternModes) (text : List Char) : Option (Nested CharSet × List Char) :=
  body? m (2 * text.length + 2) text

end CharSet

/-- What is left to read of a pattern: the rest of the text, the modes it is read in, and the number
and the names of the groups so far. -/
structure PatternText where
  rest : List Char
  modes : PatternModes
  groups : Nat
  names : List (List Char)

namespace Pattern

/-- The pattern of one character. -/
def ofChar? (m : PatternModes) (c : Char) (isByte : Bool) : Option Pattern :=
  if m.isUnicode then if m.ignoresCase then none else some (literal [c])
  else if isByte && 0x80 ≤ c.toNat then none
  else some (ofSet (if m.ignoresCase then .anyCase (.single c) else .single c) true)

/-- The pattern of a dot. -/
def ofDot? (m : PatternModes) : Option Pattern :=
  let others (cs : List Char) : Pattern :=
    ofSet (.complement (.ofRanges (cs.map fun c => (c, c)))) false
  if !m.isUnicode then none
  else some (others (if m.dotIsAny then [] else if m.hasReturns then ['\n', '\r'] else ['\n']))

/-- The pattern of the mark for the start. -/
def ofStart (m : PatternModes) : Pattern :=
  place (if !m.hasLines then .textStart else if m.hasReturns then .returnLineStart else .lineStart)

/-- The pattern of the mark for the end. -/
def ofEnd (m : PatternModes) : Pattern :=
  place (if !m.hasLines then .textEnd else if m.hasReturns then .returnLineEnd else .lineEnd)

/-- The pattern of what stands behind a backslash. -/
def ofEscape? (m : PatternModes) : Escape → Option Pattern
  | .char c isByte => ofChar? m c isByte
  | .set s => some (ofSet s (!m.isUnicode))
  | .place test => some (place test)

/-- How often the pattern before a mark may come. -/
def times? (mark : Char) : Option Repetition :=
  match mark with
  | '?' => some .atMostOnce
  | '*' => some .anyTimes
  | '+' => some .atLeastOnce
  | _ => none

/-- Takes the marks that say how often a pattern may come; there are at most as many as the second
argument says. -/
def marked (m : PatternModes) : Nat → Nested Pattern → List Char → Nested Pattern × List Char
  | 0, p, text => (p, text)
  | n + 1, p, text =>
    match m.skip text with
    | [] => (p, [])
    | mark :: rest =>
      match times? mark with
      | none => (p, mark :: rest)
      | some times =>
        let isDoubled := rest.head? = some '?'
        marked m n (p.wrap (repetition times (isDoubled == m.swapsGreed)))
          (if isDoubled then rest.tail else rest)

/-- Whether a text can name a group: a letter or an underscore, and behind it numbers, dots and
brackets too. -/
def isGroupName (name : List Char) : Bool :=
  name.head?.any (fun c => isAlphabetic c || c = '_') &&
    name.all fun c => isAlphanumeric c || c = '_' || c = '.' || c = '[' || c = ']'

/-- Takes the name of a group, which no other group may have, and its closing bracket. -/
def named? (t : PatternText) : Option PatternText :=
  let name := t.rest.takeWhile (· ≠ '>')
  match t.rest.dropWhile (· ≠ '>') with
  | [] => none
  | _ :: rest =>
    if isGroupName name && !t.names.contains name then
      some { t with rest := rest, names := name :: t.names }
    else none

/-- What an opening parenthesis begins. -/
inductive Opening where
  /-- A group with a number. -/
  | numbered
  /-- A group without a number. -/
  | plain
  /-- A switch of modes for what follows, which is complete. -/
  | switch

/-- Takes the letters behind `(?`, which switch modes for a group or for what follows. -/
def switched? (t : PatternText) : Option (Opening × PatternText) := do
  let letters := t.rest.takeWhile fun c => c ≠ ':' && c ≠ ')'
  let modes ← t.modes.switched? letters
  match t.rest.drop letters.length with
  | ':' :: rest => some (.plain, { t with rest := rest, modes := modes })
  | ')' :: rest =>
    if letters.isEmpty then none else some (.switch, { t with rest := rest, modes := modes })
  | _ => none

/-- Takes what stands between an opening parenthesis and the pattern of a group, or the switch of
modes that it begins. -/
def opened? (t : PatternText) : Option (Opening × PatternText) :=
  match t.modes.skip t.rest with
  | '?' :: 'P' :: '<' :: rest => (named? { t with rest := rest }).map fun t => (.numbered, t)
  | '?' :: '<' :: rest => (named? { t with rest := rest }).map fun t => (.numbered, t)
  | '?' :: rest => switched? { t with rest := rest }
  | rest => some (.numbered, { t with rest := rest })

/-- Reads one element that is no group, and gives the rest of the text. -/
def simple? (m : PatternModes) : List Char → Option (Nested Pattern × List Char)
  | [] => none
  | '[' :: rest =>
    (CharSet.read? m rest).map fun r => (⟨ofSet r.1.value (!m.isUnicode), r.1.depth⟩, r.2)
  | '.' :: rest => (ofDot? m).map fun p => (.leaf p, rest)
  | '^' :: rest => some (.leaf (ofStart m), rest)
  | '$' :: rest => some (.leaf (ofEnd m), rest)
  | '\\' :: rest => do
    let (e, rest) ← Escape.read? m rest
    pure (.leaf (← ofEscape? m e), rest)
  | c :: rest =>
    if (times? c).isSome || c = '{' then none else (ofChar? m c false).map fun p => (.leaf p, rest)

mutual

/-- Reads choices with bars between them. -/
def choices? : Nat → PatternText → Option (List (Nested Pattern) × PatternText)
  | 0, _ => none
  | fuel + 1, t => do
    let (ps, t) ← sequence? fuel t
    let p := Nested.join chain ps
    match t.rest with
    | '|' :: rest =>
      let (qs, t) ← choices? fuel { t with rest := rest }
      pure (p :: qs, t)
    | _ => pure ([p], t)

/-- Reads elements up to a bar, a closing parenthesis or the end; a switch of modes is one too. -/
def sequence? : Nat → PatternText → Option (List (Nested Pattern) × PatternText)
  | 0, _ => none
  | fuel + 1, t =>
    match t.modes.skip t.rest with
    | [] => some ([], { t with rest := [] })
    | '|' :: rest => some ([], { t with rest := '|' :: rest })
    | ')' :: rest => some ([], { t with rest := ')' :: rest })
    | '(' :: rest => do
      match ← opened? { t with rest := rest } with
      | (.switch, inner) =>
        let (ps, t) ← sequence? fuel inner
        pure (.leaf empty :: ps, t)
      | (.plain, inner) => grouped? fuel id t.modes inner
      | (.numbered, inner) =>
        grouped? fuel (group inner.groups) t.modes { inner with groups := inner.groups + 1 }
    | rest => do
      let (p, rest) ← simple? t.modes rest
      behind? fuel p { t with rest := rest }

/-- Reads a group behind its opening and what follows it in the modes of before. -/
def grouped? :
    Nat → (Pattern → Pattern) → PatternModes → PatternText →
      Option (List (Nested Pattern) × PatternText)
  | 0, _, _, _ => none
  | fuel + 1, f, modes, inner => do
    let (ps, inner) ← choices? fuel inner
    match inner.rest with
    | ')' :: rest =>
      behind? fuel ((Nested.join oneOf ps).wrap f) { inner with rest := rest, modes := modes }
    | _ => none

/-- Reads what follows an element. -/
def behind? : Nat → Nested Pattern → PatternText → Option (List (Nested Pattern) × PatternText)
  | 0, _, _ => none
  | fuel + 1, p, t => do
    let (p, rest) := marked t.modes t.rest.length p t.rest
    let (ps, t) ← sequence? fuel { t with rest := rest }
    pure (p :: ps, t)

end

/-- How deep a pattern may be nested. -/
def deepest : Nat := 250

/-- The pattern that a text writes. -/
def read? (text : List Char) : Option Pattern := do
  let (ps, t) ← choices? (4 * text.length + 4) ⟨text, .initial, 0, []⟩
  let p := Nested.join oneOf ps
  if t.rest.isEmpty && p.depth ≤ deepest then some p.value else none

end Pattern

end SourceLexer
