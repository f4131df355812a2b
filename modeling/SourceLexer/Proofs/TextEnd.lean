/-
The end of a text, from its formula and from its parts.

A token derives an end from its text: a line, which is the number of newlines, and
an offset, which is the number of characters behind the last of them, or of all
characters if there is none; neither exceeds a word (`IsEndOf`).  If a text is cut
anywhere, its end is got from those of the two parts (`Composes`): what is in front
of the last newline counts for the line only.  Both come from what the one pass over
a text does from wherever it has got to:

* `foldl_push_of_notMem`, `foldl_push_last` — reading on, without and with a newline;
* `composes_iff` — the formula and the rule for parts hold of the same functions;
* `token_end_composes` — both hold of the end of every token, and so does the count
  in machine words.
-/
import SourceLexer.Proofs.Tally

namespace SourceLexer

/-! ### What the end of a text is to be -/

/-- The end of a text, line and offset: the newlines in it, and the characters behind the last
newline or all of them if there is none, each of them no more than the greatest word. -/
structure IsEndOf (text : String) (e : UInt32 × UInt32) : Prop where
  line : e.1.toNat = min (text.toList.count '\n') (2 ^ 32 - 1)
  offset_of_notMem : '\n' ∉ text.toList → e.2.toNat = min text.length (2 ^ 32 - 1)
  offset_of_last : ∀ front tail, text = front ++ "\n" ++ tail → '\n' ∉ tail.toList →
    e.2.toNat = min tail.length (2 ^ 32 - 1)
  /-- The same by the index of the last newline. -/
  offset_of_index : ∀ i, text.toList[i]? = some '\n' → (∀ j > i, text.toList[j]? ≠ some '\n') →
    e.2.toNat = min (text.length - i - 1) (2 ^ 32 - 1)

/-- How the end of a text comes from the ends of its parts, for a function that gives each text
its end.  No cut tells the ends of the empty text and of a single newline. -/
structure Composes (ends : String → UInt32 × UInt32) : Prop where
  empty : ends "" = (0, 0)
  newline : ends "\n" = (1, 0)
  append_of_mem : ∀ x y, '\n' ∈ y.toList →
    ends (x ++ y) = (UInt32.ofNatClamp ((ends y).1.toNat + x.toList.count '\n'), (ends y).2)
  append_of_notMem : ∀ x y, '\n' ∉ y.toList →
    ends (x ++ y) = (UInt32.ofNatClamp (x.toList.count '\n'),
      UInt32.ofNatClamp ((ends x).2.toNat + y.length))

/-- A text with a newline has a last one. -/
theorem exists_last_newline {text : String} (h : '\n' ∈ text.toList) :
    ∃ front tail, text = front ++ "\n" ++ tail ∧ '\n' ∉ tail.toList := by
  obtain ⟨behind, before, hreverse, hbehind⟩ :=
    List.eq_append_cons_of_mem (List.mem_reverse.mpr h)
  refine ⟨String.ofList before.reverse, String.ofList behind.reverse, ?_, by simpa using hbehind⟩
  apply String.toList_inj.mp
  simpa using congrArg List.reverse hreverse

/-- The cut at the last newline, told from its index. -/
theorem exists_split_of_last_index {text : String} {i : Nat} (hi : text.toList[i]? = some '\n')
    (hlast : ∀ j > i, text.toList[j]? ≠ some '\n') :
    ∃ front tail, text = front ++ "\n" ++ tail ∧ '\n' ∉ tail.toList ∧
      tail.length = text.length - i - 1 := by
  obtain ⟨hlt, hget⟩ := List.getElem?_eq_some_iff.mp hi
  refine ⟨String.ofList (text.toList.take i), String.ofList (text.toList.drop (i + 1)), ?_, ?_, ?_⟩
  · have hsplit : text.toList = text.toList.take i ++ '\n' :: text.toList.drop (i + 1) := by
      rw [← hget, ← List.drop_eq_getElem_cons hlt, List.take_append_drop]
    apply String.toList_inj.mp
    simpa using hsplit
  · rw [String.toList_ofList]
    intro hmem
    obtain ⟨j, hj⟩ := List.mem_iff_getElem?.mp hmem
    rw [List.getElem?_drop] at hj
    exact hlast (i + 1 + j) (by omega) hj
  · rw [String.length_ofList, List.length_drop, String.length_toList, Nat.sub_sub]

/-! ### Reading on -/

namespace Extent

/-- Without a newline only the tail gets longer. -/
theorem foldl_push_of_notMem (e : Extent) {cs : List Char} (h : '\n' ∉ cs) :
    cs.foldl push e = ⟨e.newlines, e.tail + cs.length⟩ := by
  induction cs generalizing e with
  | nil => rfl
  | cons c cs ih =>
    rw [List.mem_cons, not_or] at h
    rw [List.foldl_cons, ih _ h.2, push, if_neg (Ne.symm h.1), List.length_cons]
    simp only [Nat.add_assoc, Nat.add_comm 1]

/-- Behind the last newline nothing is left of the tail from before. -/
theorem foldl_push_last (e : Extent) (front : List Char) {tail : List Char} (h : '\n' ∉ tail) :
    (front ++ '\n' :: tail).foldl push e =
      ⟨e.newlines + front.count '\n' + 1, tail.length⟩ := by
  rw [List.foldl_append, List.foldl_cons, foldl_push_of_notMem _ h, push, if_pos rfl,
    newlines_foldl_push, Nat.zero_add]

theorem of_of_notMem {text : String} (h : '\n' ∉ text.toList) : of text = ⟨0, text.length⟩ := by
  rw [of, foldl_push_of_notMem _ h, Nat.zero_add, String.length_toList]

theorem of_last (front : String) {tail : String} (h : '\n' ∉ tail.toList) :
    of (front ++ "\n" ++ tail) = ⟨front.toList.count '\n' + 1, tail.length⟩ := by
  have hsplit : (front ++ "\n" ++ tail).toList = front.toList ++ '\n' :: tail.toList := by simp
  rw [of, hsplit, foldl_push_last _ _ h, Nat.zero_add, String.length_toList]

theorem of_append_of_notMem (x : String) {y : String} (h : '\n' ∉ y.toList) :
    of (x ++ y) = ⟨(of x).newlines, (of x).tail + y.length⟩ := by
  rw [of, String.toList_append, List.foldl_append, foldl_push_of_notMem _ h, String.length_toList]
  rfl

theorem of_append_of_mem (x : String) {y : String} (h : '\n' ∈ y.toList) :
    of (x ++ y) = ⟨(of x).newlines + (of y).newlines, (of y).tail⟩ := by
  -- the last newline of `y` is that of the whole text
  obtain ⟨front, tail, rfl, htail⟩ := exists_last_newline h
  rw [← String.append_assoc, ← String.append_assoc, of_last _ htail, of_last _ htail,
    String.toList_append, List.count_append, newlines_of, Nat.add_assoc]

/-- An extent as a token keeps it. -/
def words (e : Extent) : UInt32 × UInt32 :=
  (UInt32.ofNatClamp e.newlines, UInt32.ofNatClamp e.tail)

/-! ### The formula and the rule for parts -/

/-- It does not matter whether a number is clamped before another is added or behind that. -/
theorem ofNatClamp_toNat_add (a b : Nat) :
    UInt32.ofNatClamp ((UInt32.ofNatClamp a).toNat + b) = UInt32.ofNatClamp (a + b) := by
  rw [← UInt32.toNat_inj, toNat_ofNatClamp, toNat_ofNatClamp, toNat_ofNatClamp]
  omega

theorem isEndOf_words (text : String) : IsEndOf text (of text).words where
  line := by rw [words, toNat_ofNatClamp, newlines_of]
  offset_of_notMem h := by
    rw [of_of_notMem h]
    exact toNat_ofNatClamp _
  offset_of_last front tail htext htail := by
    rw [htext, of_last front htail]
    exact toNat_ofNatClamp _
  offset_of_index i hi hlast := by
    obtain ⟨front, tail, rfl, htail, hlength⟩ := exists_split_of_last_index hi hlast
    rw [of_last front htail, ← hlength]
    exact toNat_ofNatClamp _

theorem composes_words : Composes fun text => (of text).words where
  empty := rfl
  newline := by decide
  append_of_mem x y h := by
    rw [of_append_of_mem x h, words, words, ofNatClamp_toNat_add, newlines_of x, Nat.add_comm]
  append_of_notMem x y h := by
    rw [of_append_of_notMem x h, words, words, ofNatClamp_toNat_add, newlines_of]

end Extent

/-- The formula leaves only one value. -/
theorem IsEndOf.eq_words {text : String} {e : UInt32 × UInt32} (h : IsEndOf text e) :
    e = (Extent.of text).words := by
  have hwords := Extent.isEndOf_words text
  refine Prod.ext (UInt32.toNat_inj.mp (h.line.trans hwords.line.symm)) (UInt32.toNat_inj.mp ?_)
  by_cases hmem : '\n' ∈ text.toList
  · obtain ⟨front, tail, htext, htail⟩ := exists_last_newline hmem
    rw [h.offset_of_last front tail htext htail, hwords.offset_of_last front tail htext htail]
  · rw [h.offset_of_notMem hmem, hwords.offset_of_notMem hmem]

/-- The rule for parts leaves only one function. -/
theorem Composes.unique {f g : String → UInt32 × UInt32} (hf : Composes f) (hg : Composes g) :
    f = g := by
  funext text
  by_cases hmem : '\n' ∈ text.toList
  · obtain ⟨front, tail, rfl, htail⟩ := exists_last_newline hmem
    -- one cut behind the last newline, and another in front of it
    have hnewline : '\n' ∈ "\n".toList := by decide
    rw [hf.append_of_notMem _ _ htail, hg.append_of_notMem _ _ htail,
      hf.append_of_mem front "\n" hnewline, hg.append_of_mem front "\n" hnewline,
      hf.newline, hg.newline]
  · rw [← String.empty_append (s := text), hf.append_of_notMem _ _ hmem,
      hg.append_of_notMem _ _ hmem, hf.empty, hg.empty]

/-- A function follows the rule for parts just if it follows the formula. -/
theorem composes_iff {ends : String → UInt32 × UInt32} :
    Composes ends ↔ ∀ text, IsEndOf text (ends text) := by
  constructor
  · intro h text
    rw [h.unique Extent.composes_words]
    exact Extent.isEndOf_words text
  · intro h
    have heq : ends = fun text => (Extent.of text).words := funext fun text => (h text).eq_words
    rw [heq]
    exact Extent.composes_words

/-! ### The end of a token -/

/-- The line and the offset at which a token ends, as they are stored. -/
def Token.ends (t : Token) : UInt32 × UInt32 := (t.endLine, t.endOffset)

theorem Token.ends_startingAt (kind : Kind) (text : String) (p : Position) :
    (startingAt kind text p).ends = (Extent.of text).words := rfl

/-- **The end of a token follows the formula, and composes**, whatever its text, its kind and its
start.  The rule for parts says no less than the formula, and the count in words gives this end
whenever the length of the text is a word. -/
theorem token_end_composes (kind : Kind) (p : Position) :
    (∀ text, IsEndOf text (Token.startingAt kind text p).ends) ∧
      (Composes fun text => (Token.startingAt kind text p).ends) ∧
      (∀ ends, Composes ends ↔ ∀ text, IsEndOf text (ends text)) ∧
      ∀ text, Tally.ends? text =
        if text.length < 2 ^ 64 then some (Token.startingAt kind text p).ends else none := by
  have hformula : ∀ text, IsEndOf text (Token.startingAt kind text p).ends := by
    intro text
    rw [Token.ends_startingAt]
    exact Extent.isEndOf_words text
  refine ⟨hformula, composes_iff.mpr hformula, fun ends => composes_iff, fun text => ?_⟩
  split
  · next hlength => exact Tally.ends?_eq hlength kind p
  · next hlength =>
    rw [Tally.ends?, Tally.foldlM_push?_eq_none (by rw [String.length_toList]; omega)]
    rfl

-- characters are counted, whatever their size in bytes
example : (Token.startingAt .string "é\n\n😀b" .start).ends = (2, 2) := by decide

end SourceLexer
