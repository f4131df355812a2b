/-
JSON values, written and read.

Both ways of writing a value are one way that leaves open where a line is
broken and what stands behind a colon (`Json.write`); whatever blanks these are,
the text has the same lexemes (`Json.cuts_write`), and the lexemes of a value
are the value (`Json.ofLexemes?_lexemes`).  Hence a well-formed value is read as
it was written, in either layout and with blanks behind it
(`Json.read?_compactText`, `Json.read?_prettyText_append`).

A value is well formed if its numbers are numbers and its strings can stand
between quotation marks; how deep it is does not matter.
-/
import SourceLexer.Proofs.JsonScalars

namespace SourceLexer

namespace Json

/-- A value whose numbers and strings are spelled as the format asks. -/
inductive Wellformed : Json → Prop where
  | null : Wellformed null
  | bool (b : Bool) : Wellformed (bool b)
  | number {literal : List Char} (h : isNumber literal = true) : Wellformed (number literal)
  | string {body : List Char} (h : (JsonString.units? body).isSome = true) :
      Wellformed (string body)
  | array {items : List Json} (h : ∀ v ∈ items, Wellformed v) : Wellformed (array items)
  | object {members : List (List Char × Json)}
      (hkeys : ∀ m ∈ members, (JsonString.units? m.1).isSome = true)
      (h : ∀ m ∈ members, Wellformed m.2) : Wellformed (object members)

theorem wellformed_ofText (text : String) : (ofText text).Wellformed :=
  .string (by rw [JsonString.units?_escape]; rfl)

theorem wellformed_ofInt (n : Int) : (ofInt n).Wellformed := .number (isNumber_repr n)

theorem wellformed_ofFields {fields : List (String × Json)} (h : ∀ f ∈ fields, f.2.Wellformed) :
    (ofFields fields).Wellformed := by
  refine .object ?_ ?_
  · intro m hm
    obtain ⟨f, -, rfl⟩ := List.mem_map.mp hm
    show (JsonString.units? (JsonString.escape f.1.toList)).isSome = true
    rw [JsonString.units?_escape]
    rfl
  · intro m hm
    obtain ⟨f, hf, rfl⟩ := List.mem_map.mp hm
    exact h f hf

/-! ### Layouts -/

/-- The blanks of a text: in front of an element at some depth, and behind a colon. -/
structure Layout where
  newline : Nat → List Char
  gap : List Char
  newline_blank : ∀ depth, ∀ c ∈ newline depth, isBlank c = true
  gap_blank : ∀ c ∈ gap, isBlank c = true

namespace Layout

/-- No blanks at all. -/
def dense : Layout where
  newline _ := []
  gap := []
  newline_blank _ := List.forall_mem_nil _
  gap_blank := List.forall_mem_nil _

/-- One element a line. -/
def indented : Layout where
  newline := Json.newline
  gap := [' ']
  newline_blank depth c hc := by
    rcases List.mem_cons.mp hc with rfl | hc
    · rfl
    · rw [(List.mem_replicate.mp hc).2]
      rfl
  gap_blank c hc := by
    rw [List.mem_singleton.mp hc]
    rfl

end Layout

mutual

/-- A value that starts at `depth`. -/
def write (l : Layout) (depth : Nat) : Json → List Char
  | null => "null".toList
  | bool true => "true".toList
  | bool false => "false".toList
  | number literal => literal
  | string body => quoted body
  | array [] => ['[', ']']
  | array (v :: vs) =>
    '[' :: (l.newline (depth + 1) ++ (v.write l (depth + 1) ++ (writeItems l (depth + 1) vs ++
      (l.newline depth ++ [']']))))
  | object [] => ['{', '}']
  | object ((key, v) :: ms) =>
    '{' :: (l.newline (depth + 1) ++ (quoted key ++ ':' :: (l.gap ++ (v.write l (depth + 1) ++
      (writeMembers l (depth + 1) ms ++ (l.newline depth ++ ['}']))))))

/-- The items behind the first one. -/
def writeItems (l : Layout) (depth : Nat) : List Json → List Char
  | [] => []
  | v :: vs => ',' :: (l.newline depth ++ (v.write l depth ++ writeItems l depth vs))

/-- The members behind the first one. -/
def writeMembers (l : Layout) (depth : Nat) : List (List Char × Json) → List Char
  | [] => []
  | (key, v) :: ms =>
    ',' :: (l.newline depth ++ (quoted key ++ ':' :: (l.gap ++ (v.write l depth ++
      writeMembers l depth ms))))

end

mutual

theorem write_dense (depth : Nat) : ∀ v : Json, v.write .dense depth = v.compact
  | null => rfl
  | bool true => rfl
  | bool false => rfl
  | number _ => rfl
  | string _ => rfl
  | array [] => rfl
  | array (v :: vs) => by
    simp [write, compact, Layout.dense, ← write_dense (depth + 1) v,
      ← writeItems_dense (depth + 1) vs]
  | object [] => rfl
  | object ((key, v) :: ms) => by
    simp [write, compact, Layout.dense, ← write_dense (depth + 1) v,
      ← writeMembers_dense (depth + 1) ms]

theorem writeItems_dense (depth : Nat) : ∀ vs, writeItems .dense depth vs = compactItems vs
  | [] => rfl
  | v :: vs => by
    simp [writeItems, compactItems, Layout.dense, ← write_dense depth v,
      ← writeItems_dense depth vs]

theorem writeMembers_dense (depth : Nat) : ∀ ms, writeMembers .dense depth ms = compactMembers ms
  | [] => rfl
  | (key, v) :: ms => by
    simp [writeMembers, compactMembers, Layout.dense, ← write_dense depth v,
      ← writeMembers_dense depth ms]

end

mutual

theorem write_indented (depth : Nat) : ∀ v : Json, v.write .indented depth = v.pretty depth
  | null => rfl
  | bool true => rfl
  | bool false => rfl
  | number _ => rfl
  | string _ => rfl
  | array [] => rfl
  | array (v :: vs) => by
    simp [write, pretty, Layout.indented, ← write_indented (depth + 1) v,
      ← writeItems_indented (depth + 1) vs]
  | object [] => rfl
  | object ((key, v) :: ms) => by
    simp [write, pretty, Layout.indented, ← write_indented (depth + 1) v,
      ← writeMembers_indented (depth + 1) ms]

theorem writeItems_indented (depth : Nat) :
    ∀ vs, writeItems .indented depth vs = prettyItems depth vs
  | [] => rfl
  | v :: vs => by
    simp [writeItems, prettyItems, Layout.indented, ← write_indented depth v,
      ← writeItems_indented depth vs]

theorem writeMembers_indented (depth : Nat) :
    ∀ ms, writeMembers .indented depth ms = prettyMembers depth ms
  | [] => rfl
  | (key, v) :: ms => by
    simp [writeMembers, prettyMembers, Layout.indented, ← write_indented depth v,
      ← writeMembers_indented depth ms]

end

/-! ### Lexemes of a text -/

/-- A text that does not go on with a word or a number. -/
def BreaksWord (rest : List Char) : Prop := ∀ c ∈ rest.head?, isBare c = false

theorem breaksWord_nil : BreaksWord [] := fun _ h => nomatch h

theorem breaksWord_cons {c : Char} (h : isBare c = false) (rest : List Char) :
    BreaksWord (c :: rest) := by
  rintro c' ⟨⟩
  exact h

theorem BreaksWord.append {cs rest : List Char} (h : BreaksWord cs) (hrest : BreaksWord rest) :
    BreaksWord (cs ++ rest) := by
  cases cs with
  | nil => exact hrest
  | cons c cs => exact breaksWord_cons (h c rfl) (cs ++ rest)

theorem isBare_eq_false_of_isBlank {c : Char} (h : isBlank c = true) : isBare c = false := by
  rw [isBlank, Bool.or_eq_true, Bool.or_eq_true, Bool.or_eq_true, decide_eq_true_iff,
    decide_eq_true_iff, decide_eq_true_iff, decide_eq_true_iff] at h
  rcases h with ((rfl | rfl) | rfl) | rfl
  all_goals rfl

theorem BreaksWord.takeWhile_eq_nil {rest : List Char} (h : BreaksWord rest) :
    rest.takeWhile isBare = [] := by
  cases rest with
  | nil => rfl
  | cons c rest => simp [h c rfl]

theorem BreaksWord.dropWhile_eq_self {rest : List Char} (h : BreaksWord rest) :
    rest.dropWhile isBare = rest := by
  cases rest with
  | nil => rfl
  | cons c rest => simp [h c rfl]

/-- A character that may stand in a word or a number is no lexeme of its own. -/
theorem ofChar?_eq_none_of_isBare {c : Char} (h : isBare c = true) : Lexeme.ofChar? c = none := by
  have hne : ∀ m, isBare m = false → c ≠ m := by
    rintro m hm rfl
    rw [hm] at h
    cases h
  rw [Lexeme.ofChar?, if_neg (hne '[' rfl), if_neg (hne ']' rfl), if_neg (hne '{' rfl),
    if_neg (hne '}' rfl), if_neg (hne ',' rfl), if_neg (hne ':' rfl)]

theorem isBare_of_ofBare? {cs : List Char} {v : Json} (h : ofBare? cs = some v) :
    ∀ c ∈ cs, isBare c = true := by
  unfold ofBare? at h
  split_ifs at h with h₁ h₂ h₃ h₄
  · subst h₁
    exact List.all_eq_true.mp rfl
  · subst h₂
    exact List.all_eq_true.mp rfl
  · subst h₃
    exact List.all_eq_true.mp rfl
  · exact isBare_of_isNumber h₄

theorem breaksWord_of_blank {cs : List Char} (h : ∀ c ∈ cs, isBlank c = true) :
    BreaksWord cs := fun _ hc => isBare_eq_false_of_isBlank (h _ (List.mem_of_mem_head? hc))

/-- A text that is cut into the given lexemes in front of every text that has lexemes itself and
does not go on with the last word. -/
def Cuts (cs : List Char) (ls : List Lexeme) : Prop :=
  ∀ rest more, BreaksWord rest → lexemes? rest = some more →
    lexemes? (cs ++ rest) = some (ls ++ more)

namespace Cuts

variable {cs cs' : List Char} {ls ls' : List Lexeme}

theorem nil : Cuts [] [] := fun _ _ _ hmore => hmore

theorem append (h : Cuts cs ls) (h' : Cuts cs' ls') (hbreak : BreaksWord cs') :
    Cuts (cs ++ cs') (ls ++ ls') := by
  intro rest more hrest hmore
  rw [List.append_assoc, List.append_assoc]
  exact h _ _ (hbreak.append hrest) (h' _ _ hrest hmore)

theorem mark {c : Char} {l : Lexeme} (hc : isBlank c = false) (hl : Lexeme.ofChar? c = some l)
    (h : Cuts cs ls) : Cuts (c :: cs) (l :: ls) := by
  intro rest more hrest hmore
  rw [List.cons_append, lexemes?.eq_2]
  simp [hc, hl, h rest more hrest hmore]

theorem blanks {bs : List Char} (hb : ∀ c ∈ bs, isBlank c = true) (h : Cuts cs ls) :
    Cuts (bs ++ cs) ls := by
  induction bs with
  | nil => exact h
  | cons b bs ih =>
    rw [List.forall_mem_cons] at hb
    intro rest more hrest hmore
    rw [List.cons_append, List.cons_append, lexemes?.eq_2, if_pos hb.1]
    exact ih hb.2 rest more hrest hmore

theorem quoted {body : List Char} (hb : (JsonString.units? body).isSome = true) (h : Cuts cs ls) :
    Cuts (quoted body ++ cs) (.scalar (string body) :: ls) := by
  intro rest more hrest hmore
  have htext : Json.quoted body ++ cs ++ rest = '"' :: (body ++ '"' :: (cs ++ rest)) := by
    simp [Json.quoted]
  have hblank : isBlank '"' = false := rfl
  have hmark : Lexeme.ofChar? '"' = none := rfl
  rw [htext, lexemes?.eq_2, if_neg (by simp [hblank]), hmark]
  simp only [if_true]
  split
  · next hsplit =>
    rw [splitString_append hb] at hsplit
    cases hsplit
  · next body' rest' hsplit =>
    rw [splitString_append hb] at hsplit
    cases hsplit
    rw [if_pos hb, h rest more hrest hmore]
    rfl

/-- A word or a number ends where a character comes that may not stand in one. -/
theorem bare {v : Json} (hv : ofBare? cs = some v) : Cuts cs [.scalar v] := by
  intro rest more hrest hmore
  cases cs with
  | nil => cases hv
  | cons c cs =>
    obtain ⟨hc, hcs⟩ := List.forall_mem_cons.mp (isBare_of_ofBare? hv)
    have hblank : isBlank c = false := by
      rw [Bool.eq_false_iff]
      intro hblank
      rw [isBare_eq_false_of_isBlank hblank] at hc
      cases hc
    have hmark := ofChar?_eq_none_of_isBare hc
    have hquote : c ≠ '"' := by
      rintro rfl
      cases hc
    have htake : (cs ++ rest).takeWhile isBare = cs := by
      rw [List.takeWhile_append_of_pos hcs, hrest.takeWhile_eq_nil, List.append_nil]
    have hdrop : (cs ++ rest).dropWhile isBare = rest := by
      rw [List.dropWhile_append_of_pos hcs, hrest.dropWhile_eq_self]
    rw [List.cons_append, lexemes?.eq_2, if_neg (by simp [hblank]), hmark]
    simp only [if_neg hquote]
    rw [htake, hdrop, hv, hmore]
    rfl

end Cuts

/-! ### Lexemes of a value -/

mutual

/-- The lexemes of a value. -/
def lexemes : Json → List Lexeme
  | array [] => [.openArray, .closeArray]
  | array (v :: vs) => .openArray :: (v.lexemes ++ (lexemesOfItems vs ++ [.closeArray]))
  | object [] => [.openObject, .closeObject]
  | object ((key, v) :: ms) =>
    .openObject :: .scalar (string key) :: .colon ::
      (v.lexemes ++ (lexemesOfMembers ms ++ [.closeObject]))
  | v => [.scalar v]

/-- The lexemes of the items behind the first one. -/
def lexemesOfItems : List Json → List Lexeme
  | [] => []
  | v :: vs => .comma :: (v.lexemes ++ lexemesOfItems vs)

/-- The lexemes of the members behind the first one. -/
def lexemesOfMembers : List (List Char × Json) → List Lexeme
  | [] => []
  | (key, v) :: ms =>
    .comma :: .scalar (string key) :: .colon :: (v.lexemes ++ lexemesOfMembers ms)

end

theorem breaksWord_writeItems (l : Layout) (depth : Nat) (vs : List Json) :
    BreaksWord (writeItems l depth vs) := by
  cases vs with
  | nil => exact breaksWord_nil
  | cons v vs => exact breaksWord_cons rfl _

theorem breaksWord_writeMembers (l : Layout) (depth : Nat) (ms : List (List Char × Json)) :
    BreaksWord (writeMembers l depth ms) := by
  cases ms with
  | nil => exact breaksWord_nil
  | cons m ms => exact breaksWord_cons rfl _

/-- The end of a container. -/
theorem breaksWord_close (l : Layout) (depth : Nat) {c : Char} (h : isBare c = false) :
    BreaksWord (l.newline depth ++ [c]) :=
  (breaksWord_of_blank (l.newline_blank depth)).append (breaksWord_cons h [])

theorem cuts_close (l : Layout) (depth : Nat) {c : Char} {m : Lexeme} (hc : isBlank c = false)
    (hm : Lexeme.ofChar? c = some m) : Cuts (l.newline depth ++ [c]) [m] :=
  .blanks (l.newline_blank depth) (.mark hc hm .nil)

theorem ofBare?_number {literal : List Char} (h : isNumber literal = true) :
    ofBare? literal = some (number literal) := by
  rw [ofBare?, if_neg, if_neg, if_neg, if_pos h]
  all_goals
    rintro rfl
    cases h

mutual

/-- A well-formed value is cut into its lexemes, whatever its layout. -/
theorem cuts_write (l : Layout) (depth : Nat) :
    ∀ {v : Json}, v.Wellformed → Cuts (v.write l depth) v.lexemes
  | null, _ => .bare rfl
  | bool true, _ => .bare rfl
  | bool false, _ => .bare rfl
  | number _, .number h => .bare (ofBare?_number h)
  | string body, .string h => by
    simpa [write, lexemes] using Cuts.quoted h .nil
  | array [], _ => .mark rfl rfl (.mark rfl rfl .nil)
  | array (v :: vs), .array h => by
    rw [List.forall_mem_cons] at h
    -- the first item may be a number, so what comes behind it must not go on with one
    refine .mark rfl rfl (.blanks (l.newline_blank _) ((cuts_write l _ h.1).append ?_ ?_))
    · exact (cuts_writeItems l _ h.2).append (cuts_close l depth rfl rfl)
        (breaksWord_close l depth rfl)
    · exact (breaksWord_writeItems l _ vs).append (breaksWord_close l depth rfl)
  | object [], _ => .mark rfl rfl (.mark rfl rfl .nil)
  | object ((key, v) :: ms), .object hkeys h => by
    rw [List.forall_mem_cons] at hkeys h
    refine .mark rfl rfl (.blanks (l.newline_blank _) (.quoted hkeys.1 (.mark rfl rfl
      (.blanks l.gap_blank ((cuts_write l _ h.1).append ?_ ?_)))))
    · exact (cuts_writeMembers l _ hkeys.2 h.2).append (cuts_close l depth rfl rfl)
        (breaksWord_close l depth rfl)
    · exact (breaksWord_writeMembers l _ ms).append (breaksWord_close l depth rfl)

theorem cuts_writeItems (l : Layout) (depth : Nat) :
    ∀ {vs : List Json}, (∀ v ∈ vs, v.Wellformed) → Cuts (writeItems l depth vs) (lexemesOfItems vs)
  | [], _ => .nil
  | v :: vs, h => by
    rw [List.forall_mem_cons] at h
    exact .mark rfl rfl (.blanks (l.newline_blank depth) ((cuts_write l depth h.1).append
      (cuts_writeItems l depth h.2) (breaksWord_writeItems l depth vs)))

theorem cuts_writeMembers (l : Layout) (depth : Nat) :
    ∀ {ms : List (List Char × Json)}, (∀ m ∈ ms, (JsonString.units? m.1).isSome = true) →
      (∀ m ∈ ms, m.2.Wellformed) → Cuts (writeMembers l depth ms) (lexemesOfMembers ms)
  | [], _, _ => .nil
  | (key, v) :: ms, hkeys, h => by
    rw [List.forall_mem_cons] at hkeys h
    exact .mark rfl rfl (.blanks (l.newline_blank depth) (.quoted hkeys.1 (.mark rfl rfl
      (.blanks l.gap_blank ((cuts_write l depth h.1).append (cuts_writeMembers l depth hkeys.2 h.2)
        (breaksWord_writeMembers l depth ms))))))

end

/-! ### From lexemes to the value -/

/-- No value begins with a closing bracket. -/
theorem exists_lexemes_eq_cons (v : Json) : ∃ l ls, v.lexemes = l :: ls ∧ l ≠ .closeArray := by
  cases v with
  | array items =>
    cases items with
    | nil => exact ⟨.openArray, _, rfl, nofun⟩
    | cons v vs => exact ⟨.openArray, _, rfl, nofun⟩
  | object members =>
    cases members with
    | nil => exact ⟨.openObject, _, rfl, nofun⟩
    | cons m ms => exact ⟨.openObject, _, rfl, nofun⟩
  | _ => exact ⟨.scalar _, _, rfl, nofun⟩

/-- Behind an opening bracket, the first lexeme of a value begins the first item. -/
theorem foldlM_firstItem (v : Json) (stack : List Frame) (ls : List Lexeme) :
    (v.lexemes ++ ls).foldlM State.step (.firstItem stack) =
      (v.lexemes ++ ls).foldlM State.step (.value (.array [] :: stack)) := by
  obtain ⟨l, ls', hv, hl⟩ := v.exists_lexemes_eq_cons
  have hstep : State.step (.firstItem stack) l = State.step (.value (.array [] :: stack)) l := by
    cases l with
    | closeArray => exact absurd rfl hl
    | _ => rfl
  rw [hv, List.cons_append, List.foldlM_cons, List.foldlM_cons, hstep]

theorem foldlM_append_of_eq {s s' : State} {ls : List Lexeme}
    (h : ls.foldlM State.step s = some s') (ls' : List Lexeme) :
    (ls ++ ls').foldlM State.step s = ls'.foldlM State.step s' := by
  rw [List.foldlM_append, h]
  rfl

mutual

/-- The lexemes of a value complete it, inside whatever containers are open. -/
theorem foldlM_lexemes (stack : List Frame) : ∀ v : Json,
    v.lexemes.foldlM State.step (.value stack) = some (.complete v stack)
  | null => rfl
  | bool _ => rfl
  | number _ => rfl
  | string _ => rfl
  | array [] => rfl
  | array (v :: vs) => by
    show (v.lexemes ++ (lexemesOfItems vs ++ [Lexeme.closeArray])).foldlM State.step (.firstItem stack) = _
    -- from the first item on, the items are on the stack, the last one first
    rw [foldlM_firstItem, foldlM_append_of_eq (foldlM_lexemes _ v),
      State.complete, foldlM_append_of_eq (foldlM_lexemesOfItems [v] stack vs)]
    show some (State.complete (array (vs.reverse ++ [v]).reverse) stack) = _
    rw [List.reverse_append, List.reverse_reverse]
    rfl
  | object [] => rfl
  | object ((key, v) :: ms) => by
    show (v.lexemes ++ (lexemesOfMembers ms ++ [Lexeme.closeObject])).foldlM State.step
      (.value (.object [] key :: stack)) = _
    rw [foldlM_append_of_eq (foldlM_lexemes _ v), State.complete,
      foldlM_append_of_eq (foldlM_lexemesOfMembers [(key, v)] stack ms)]
    show some (State.complete (object (ms.reverse ++ [(key, v)]).reverse) stack) = _
    rw [List.reverse_append, List.reverse_reverse]
    rfl

theorem foldlM_lexemesOfItems (items : List Json) (stack : List Frame) : ∀ vs : List Json,
    (lexemesOfItems vs).foldlM State.step (.afterItem items stack) =
      some (.afterItem (vs.reverse ++ items) stack)
  | [] => rfl
  | v :: vs => by
    show (v.lexemes ++ lexemesOfItems vs).foldlM State.step (.value (.array items :: stack)) = _
    rw [foldlM_append_of_eq (foldlM_lexemes _ v), State.complete,
      foldlM_lexemesOfItems (v :: items) stack vs, List.reverse_cons, List.append_assoc]
    rfl

theorem foldlM_lexemesOfMembers (members : List (List Char × Json)) (stack : List Frame) :
    ∀ ms : List (List Char × Json),
      (lexemesOfMembers ms).foldlM State.step (.afterMember members stack) =
        some (.afterMember (ms.reverse ++ members) stack)
  | [] => rfl
  | (key, v) :: ms => by
    show (v.lexemes ++ lexemesOfMembers ms).foldlM State.step
      (.value (.object members key :: stack)) = _
    rw [foldlM_append_of_eq (foldlM_lexemes _ v), State.complete,
      foldlM_lexemesOfMembers ((key, v) :: members) stack ms, List.reverse_cons, List.append_assoc]
    rfl

end

/-- The lexemes of a value are read as the value. -/
theorem ofLexemes?_lexemes (v : Json) : ofLexemes? v.lexemes = some v := by
  rw [ofLexemes?, foldlM_lexemes]
  rfl

/-! ### Texts -/

theorem lexemes?_of_blank {bs : List Char} (hb : ∀ c ∈ bs, isBlank c = true) :
    lexemes? bs = some [] := by
  have := Cuts.blanks hb .nil [] [] breaksWord_nil (by rw [lexemes?])
  simpa using this

/-- A well-formed value is read from each of its texts, with blanks behind it. -/
theorem read?_write {v : Json} (h : v.Wellformed) (l : Layout) {bs : List Char}
    (hb : ∀ c ∈ bs, isBlank c = true) : read? (String.ofList (v.write l 0 ++ bs)) = some v := by
  rw [read?, String.toList_ofList,
    cuts_write l 0 h bs [] (breaksWord_of_blank hb) (lexemes?_of_blank hb), List.append_nil]
  exact ofLexemes?_lexemes v

theorem read?_compactText {v : Json} (h : v.Wellformed) : read? v.compactText = some v := by
  have := read?_write h .dense (List.forall_mem_nil _)
  rwa [List.append_nil, write_dense] at this

theorem read?_prettyText_append {v : Json} (h : v.Wellformed) {blanks : String}
    (hb : ∀ c ∈ blanks.toList, isBlank c = true) : read? (v.prettyText ++ blanks) = some v := by
  have := read?_write h .indented hb
  rwa [write_indented, String.ofList_append, String.ofList_toList] at this

end Json

end SourceLexer
