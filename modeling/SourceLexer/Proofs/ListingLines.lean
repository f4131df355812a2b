/-
Listings for people can be read back.

A label may look like anything, a header or a line of a token included; but the
line of a token ends with a digit and that of a header with a colon.  So the
lines of tokens are those behind the last line that ends with a colon
(`append_lines_inj`), each of them tells its token (`Token.display_inj`), and
what is left is the label between fixed texts.

* `text_listing_unambiguous` — which listings are equal.
-/
import SourceLexer.Listing
import SourceLexer.Proofs.Quotation
import SourceLexer.Proofs.Segmentation

namespace SourceLexer

/-! ### Lines -/

/-- A text is cut at the last `x` in one way. -/
theorem append_cons_inj_right {α : Type} {x : α} {as bs rest rest' : List α} (ha : x ∉ rest)
    (hb : x ∉ rest') (h : as ++ x :: rest = bs ++ x :: rest') : as = bs ∧ rest = rest' := by
  have hreverse := congrArg List.reverse h
  simp only [List.reverse_append, List.reverse_cons, List.append_assoc, List.singleton_append]
    at hreverse
  obtain ⟨hrest, has⟩ := append_cons_inj (by simpa using ha) (by simpa using hb) hreverse
  exact ⟨List.reverse_injective has, List.reverse_injective hrest⟩

/-- Lines, each with the newline that closes it. -/
def closed (ls : List (List Char)) : List Char := ls.flatMap (· ++ ['\n'])

theorem closed_append_singleton (ls : List (List Char)) (l : List Char) :
    closed (ls ++ [l]) = closed ls ++ l ++ ['\n'] := by
  simp [closed]

/-- A text that is one line, and does not end like a header. -/
structure IsItem (l : List Char) : Prop where
  newline : '\n' ∉ l
  last : ∃ d, l.getLast? = some d ∧ d ≠ ':'

theorem IsItem.ne_header {l : List Char} (hl : IsItem l) (top rest : List Char) :
    top ++ [':', '\n'] ≠ rest ++ l ++ ['\n'] := by
  intro h
  obtain ⟨d, hd, hd'⟩ := hl.last
  have hcut : top ++ [':'] ++ ['\n'] = rest ++ l ++ ['\n'] := by
    rw [← h, List.append_assoc]
    rfl
  have hlast := congrArg List.getLast? (List.append_inj' hcut rfl).1
  rw [List.getLast?_append, List.getLast?_append, hd] at hlast
  exact hd' (Option.some.inj hlast).symm

/-- Behind a text that ends like a header the lines of tokens can be told. -/
theorem append_lines_inj {top top' : List Char} {ls ls' : List (List Char)}
    (hls : ∀ l ∈ ls, IsItem l) (hls' : ∀ l ∈ ls', IsItem l)
    (h : top ++ [':', '\n'] ++ closed ls = top' ++ [':', '\n'] ++ closed ls') :
    top = top' ∧ ls = ls' := by
  -- in front of a line is the newline of another, or that of the header
  have hbefore : ∀ (top : List Char) (ls : List (List Char)), ∃ front,
      top ++ [':', '\n'] ++ closed ls = front ++ ['\n'] := by
    intro top ls
    cases ls using List.reverseRecOn with
    | nil => exact ⟨top ++ [':'], by simp [closed]⟩
    | append_singleton ls l =>
      exact ⟨top ++ [':', '\n'] ++ closed ls ++ l, by simp [closed_append_singleton]⟩
  induction ls using List.reverseRecOn generalizing ls' with
  | nil =>
    cases ls' using List.reverseRecOn with
    | nil => exact ⟨(List.append_inj' (List.append_inj' h rfl).1 rfl).1, rfl⟩
    | append_singleton ls' l' =>
      rw [closed_append_singleton, ← List.append_assoc, ← List.append_assoc] at h
      have hitem := hls' l' (by simp)
      exact absurd ((List.append_nil _).symm.trans h) (hitem.ne_header _ _)
  | append_singleton ls l ih =>
    cases ls' using List.reverseRecOn with
    | nil =>
      rw [closed_append_singleton, ← List.append_assoc, ← List.append_assoc] at h
      have hitem := hls l (by simp)
      exact absurd ((List.append_nil _).symm.trans h.symm) (hitem.ne_header _ _)
    | append_singleton ls' l' =>
      rw [closed_append_singleton, closed_append_singleton, ← List.append_assoc,
        ← List.append_assoc, ← List.append_assoc, ← List.append_assoc] at h
      have hlines := (List.append_inj' h rfl).1
      obtain ⟨front, hfront⟩ := hbefore top ls
      obtain ⟨front', hfront'⟩ := hbefore top' ls'
      rw [hfront, hfront', List.append_assoc, List.append_assoc] at hlines
      -- the last lines are what is behind the last newline in front of them
      obtain ⟨rfl, rfl⟩ := append_cons_inj_right (hls l (by simp)).newline
        (hls' l' (by simp)).newline hlines
      obtain ⟨htop, rfl⟩ := ih (fun l hl => hls l (List.mem_append_left _ hl))
        (fun l hl => hls' l (List.mem_append_left _ hl)) (hfront.trans hfront'.symm)
      exact ⟨htop, rfl⟩

/-! ### The line of a token -/

theorem Kind.name_injective {k l : Kind} (h : k.name = l.name) : k = l := by
  have := Kind.ofName?_name k
  rw [h, Kind.ofName?_name] at this
  exact (Option.some.inj this).symm

namespace Token

theorem toList_display (t : Token) : t.display.toList =
    t.kind.name.toList ++ ' ' :: (Quoted.between '"' t.text.toList ++ ' ' :: '@' :: ' ' ::
      (t.startLine.toNat.repr.toList ++ ':' :: t.startOffset.toInt.repr.toList)) := by
  simp [display, Quoted.text, Position.text, start]

/-- The line of a token tells its kind, its text and its start. -/
theorem display_inj {t u : Token} (h : t.display = u.display) :
    t.kind = u.kind ∧ t.text = u.text ∧ t.start = u.start := by
  have hname : ∀ k : Kind, ' ' ∉ k.name.toList := by
    intro k
    cases k <;> decide
  have hline : ∀ n : Nat, ':' ∉ n.repr.toList := by
    intro n hn
    exact absurd (isDigit_of_mem_repr hn) (by decide)
  have hchars := congrArg String.toList h
  rw [toList_display, toList_display] at hchars
  obtain ⟨hkind, hchars⟩ := append_cons_inj (hname _) (hname _) hchars
  obtain ⟨htext, hchars⟩ := Quoted.between_append_inj hchars
  obtain ⟨hl, hc⟩ := append_cons_inj (hline _) (hline _)
    (List.cons.inj (List.cons.inj (List.cons.inj hchars).2).2).2
  refine ⟨Kind.name_injective (String.toList_inj.mp hkind), String.toList_inj.mp htext, ?_⟩
  rw [start, start, Position.mk.injEq]
  exact ⟨UInt32.toNat_inj.mp (Nat.repr_inj.mp (String.toList_inj.mp hl)),
    Int32.toInt_inj.mp (Int.repr_inj.mp (String.toList_inj.mp hc))⟩

theorem display_eq_iff (t u : Token) :
    t.display = u.display ↔ t.kind = u.kind ∧ t.text = u.text ∧ t.start = u.start := by
  refine ⟨display_inj, ?_⟩
  rintro ⟨hkind, htext, hstart⟩
  rw [display, display, hkind, htext, hstart]

/-- The line of a token is one line, and ends with a digit. -/
theorem isItem_display (t : Token) : IsItem ("  " ++ t.display).toList := by
  set column := t.startOffset.toInt.repr.toList with hcolumn
  set front := "  ".toList ++ (t.kind.name.toList ++ ' ' :: (Quoted.between '"' t.text.toList ++
    ' ' :: '@' :: ' ' :: (t.startLine.toNat.repr.toList ++ [':']))) with hfront
  have hsplit : ("  " ++ t.display).toList = front ++ column := by
    rw [String.toList_append, toList_display, hfront, hcolumn]
    simp only [List.append_assoc, List.cons_append, List.nil_append]
  have hdigit : ∀ c ∈ column, c.isDigit = true ∨ c = '-' := fun c => isDigit_of_mem_repr_int
  rw [hsplit]
  constructor
  · have hname : '\n' ∉ t.kind.name.toList := by cases t.kind <;> decide
    have hquoted := Quoted.newline_not_mem_between t.text.toList
    have hline : '\n' ∉ t.startLine.toNat.repr.toList := fun h =>
      absurd (isDigit_of_mem_repr h) (by decide)
    intro h
    rcases List.mem_append.mp h with h | h
    · simp only [hfront, List.mem_append, List.mem_cons, hname, hquoted, hline] at h
      simp at h
    · exact absurd (hdigit _ h) (by decide)
  · have hne : column ≠ [] := repr_int_ne_nil _
    refine ⟨column.getLast hne, ?_, ?_⟩
    · rw [List.getLast?_append_of_ne_nil _ hne, List.getLast?_eq_some_getLast hne]
    · intro h
      exact absurd (hdigit _ (h ▸ List.getLast_mem hne)) (by decide)

end Token

/-! ### Listings -/

namespace Listing

/-- A listing is what stands in front of its header's colon, the header's end, and the lines. -/
theorem toList_text (label : String) (ts : List Token) : (text label ts).toList =
    ("Tokens for '" ++ label ++ "' (" ++ ts.length.repr ++ " tokens)").toList ++ [':', '\n'] ++
      closed (ts.map fun t => ("  " ++ t.display).toList) := by
  have hlines : ∀ ts : List Token, (String.join (ts.map line)).toList =
      closed (ts.map fun t => ("  " ++ t.display).toList) := by
    intro ts
    induction ts with
    | nil => rfl
    | cons t ts ih =>
      rw [List.map_cons, String.join_cons, String.toList_append, ih]
      simp [line, closed]
  rw [text, String.toList_append, hlines, header]
  simp

/-- A listing tells its label and the lines of its tokens. -/
theorem text_inj {label label' : String} {ts ts' : List Token} (h : text label ts = text label' ts') :
    label = label' ∧ ts.map Token.display = ts'.map Token.display := by
  have hchars := congrArg String.toList h
  rw [toList_text, toList_text] at hchars
  have hitem : ∀ ts : List Token, ∀ l ∈ ts.map fun t => ("  " ++ t.display).toList, IsItem l := by
    intro ts l hl
    obtain ⟨t, -, rfl⟩ := List.mem_map.mp hl
    exact t.isItem_display
  obtain ⟨htop, hlines⟩ := append_lines_inj (hitem ts) (hitem ts') hchars
  have hlen : ts.length = ts'.length := by simpa using congrArg List.length hlines
  constructor
  · rw [hlen] at htop
    simp only [String.toList_append, List.append_assoc] at htop
    exact String.toList_inj.mp (List.append_cancel_right (List.append_cancel_left htop))
  · have hindent : Function.Injective fun s : String => ("  " ++ s).toList := by
      intro s s' hs
      simp only [String.toList_append] at hs
      exact String.toList_inj.mp (List.append_cancel_left hs)
    refine List.map_injective_iff.mpr hindent ?_
    rwa [List.map_map, List.map_map]

end Listing

/-- Whether tokens look the same in listings. -/
def Token.Alike (t u : Token) : Prop := t.kind = u.kind ∧ t.text = u.text ∧ t.start = u.start

/-- A token that is read from a source is given by its kind, its text and its start. -/
theorem startingAt_of_mem_tokensFrom {p : Position} {ss : List Segment} {t : Token}
    (ht : t ∈ tokensFrom p ss) : Token.startingAt t.kind t.text t.start = t := by
  obtain ⟨front, s, behind, -, htoken⟩ := exists_of_mem_tokensFrom ht
  have hself := (Segment.startingAt_of_token? htoken).2
  rw [← hself]
  rfl

theorem eq_of_alike_of_lex {source source' : String} {ts ts' : List Token}
    (h : lex source = .ok ts) (h' : lex source' = .ok ts')
    (halike : List.Forall₂ Token.Alike ts ts') : ts = ts' := by
  obtain ⟨ss, -, -, rfl⟩ := reads_of_lex_ok h
  obtain ⟨ss', -, -, rfl⟩ := reads_of_lex_ok h'
  have hself : ∀ ss : List Segment, (tokensFrom Position.start ss).map
      (fun t => Token.startingAt t.kind t.text t.start) = tokensFrom Position.start ss := by
    intro ss
    exact (List.map_congr_left fun t ht => startingAt_of_mem_tokensFrom ht).trans (List.map_id _)
  rw [← hself ss, ← hself ss', ← List.forall₂_eq_eq_eq, List.forall₂_map_left_iff,
    List.forall₂_map_right_iff]
  refine halike.imp ?_
  rintro t u ⟨hkind, htext, hstart⟩
  rw [hkind, htext, hstart]

/-- **Listings for people are unambiguous.**  They are equal just if the labels are and the tokens
are alike; behind the header each token has one line; and tokens that were read from sources are
equal if their listings are, whatever the labels. -/
theorem text_listing_unambiguous :
    (∀ (label label' : String) (ts ts' : List Token),
      listing .text label ts = listing .text label' ts' ↔
        label = label' ∧ List.Forall₂ Token.Alike ts ts') ∧
    (∀ (label : String) (ts : List Token), ∃ lines : List String, lines.length = ts.length ∧
      (∀ l ∈ lines, '\n' ∉ l.toList) ∧
      listing .text label ts =
        Listing.header label ts.length ++ String.join (lines.map (· ++ "\n"))) ∧
    ∀ (source source' label label' : String) (ts ts' : List Token),
      lex source = .ok ts → lex source' = .ok ts' →
      listing .text label ts = listing .text label' ts' → ts = ts' := by
  have halike : ∀ ts ts' : List Token,
      ts.map Token.display = ts'.map Token.display ↔ List.Forall₂ Token.Alike ts ts' := by
    intro ts ts'
    rw [← List.forall₂_eq_eq_eq, List.forall₂_map_left_iff, List.forall₂_map_right_iff]
    simp only [Token.display_eq_iff]
    rfl
  refine ⟨?_, ?_, ?_⟩
  · intro label label' ts ts'
    rw [← halike]
    constructor
    · exact Listing.text_inj
    · rintro ⟨rfl, hlines⟩
      have hlen : ts.length = ts'.length := by simpa using congrArg List.length hlines
      have hmap : ∀ ts : List Token,
          ts.map Listing.line = (ts.map Token.display).map fun d => "  " ++ d ++ "\n" := by
        intro ts
        rw [List.map_map]
        rfl
      rw [listing, listing, Listing.text, Listing.text, hmap, hmap, hlines, hlen]
  · intro label ts
    refine ⟨ts.map fun t => "  " ++ t.display, List.length_map _, ?_, ?_⟩
    · intro l hl
      obtain ⟨t, -, rfl⟩ := List.mem_map.mp hl
      exact t.isItem_display.newline
    · rw [List.map_map]
      rfl
  · intro source source' label label' ts ts' h h' hequal
    exact eq_of_alike_of_lex h h' ((halike ts ts').mp (Listing.text_inj hequal).2)

end SourceLexer
