/-
Tokens, written as JSON and read back.

A record is read from an object with exactly its fields, in whatever order the
members come (`Json.fields?_of_perm`); each field of a token is read as it was
written.  So a list of tokens is read back from its listing and from every other
text of it (`token_json_round_trip`), which makes the listing unambiguous.
-/
import SourceLexer.Listing
import SourceLexer.Proofs.JsonDocuments

namespace SourceLexer

namespace Json

/-! ### Fields -/

theorem text?_ofText (text : String) : text? (ofText text) = some text := by
  rw [ofText, text?, JsonString.unescape?_escape, Option.map_some, String.ofList_toList]

theorem uint32?_ofInt (n : UInt32) : uint32? (ofInt n.toNat) = some n := by
  have hn : (n.toNat : Int) < UInt32.size := by exact_mod_cast n.toNat_lt_size
  rw [uint32?, integer?_ofInt, Option.bind_some, if_pos ⟨Int.natCast_nonneg _, hn⟩,
    Int.toNat_natCast, UInt32.ofNat_toNat]

theorem int32?_ofInt (n : Int32) : int32? (ofInt n.toInt) = some n := by
  rw [int32?, integer?_ofInt, Option.bind_some,
    if_pos ⟨n.minValue_le_toInt, n.toInt_le⟩, Int32.ofInt_toInt]

/-! ### Records -/

theorem mapM_eq_some {α β : Type} {f : α → Option β} {as : List α} {bs : List β}
    (h : List.Forall₂ (fun a b => f a = some b) as bs) : as.mapM f = some bs := by
  induction h with
  | nil => rfl
  | cons h _ ih =>
    rw [List.mapM_cons, h, ih]
    rfl

theorem member?_of_mem {fields : List (String × Json)} (hn : (fields.map Prod.fst).Nodup)
    {name : String} {v : Json} (h : (name, v) ∈ fields) : member? fields name = some v := by
  have hfilter : (fields.filter fun m => m.1 = name) = [(name, v)] := by
    obtain ⟨before, behind, rfl⟩ := List.append_of_mem h
    rw [List.map_append, List.map_cons, List.nodup_middle, List.nodup_cons,
      ← List.map_append] at hn
    have hne : ∀ m ∈ before ++ behind, ¬ (decide (m.1 = name)) = true := by
      intro m hm hname
      exact hn.1 (List.mem_map.mpr ⟨m, hm, of_decide_eq_true hname⟩)
    rw [List.forall_mem_append] at hne
    rw [List.filter_append, List.filter_cons_of_pos (by simp), List.filter_eq_nil_iff.mpr hne.1,
      List.filter_eq_nil_iff.mpr hne.2, List.nil_append]
  rw [member?, hfilter]

theorem ofFields_eq (fields : List (String × Json)) :
    ofFields fields = object (fields.map fun f => (JsonString.escape f.1.toList, f.2)) := rfl

/-- A record is read from the object of its fields in any order. -/
theorem fields?_of_perm {names : List String} {values : List Json} (hn : names.Nodup)
    (hlength : names.length = values.length) {fields : List (String × Json)}
    (h : fields.Perm (names.zip values)) : fields? names (ofFields fields) = some values := by
  have hnames : (fields.map fun f => (JsonString.escape f.1.toList, f.2)).mapM
      (fun m => (JsonString.unescape? m.1).map fun k => (String.ofList k, m.2)) = some fields := by
    refine mapM_eq_some (List.forall₂_map_left_iff.mpr (List.forall₂_same.mpr ?_))
    intro f _
    rw [JsonString.unescape?_escape, Option.map_some, String.ofList_toList]
  -- the order of the members cannot be seen: no name comes twice
  have hnodup : (fields.map Prod.fst).Nodup := by
    rw [(h.map Prod.fst).nodup_iff, List.map_fst_zip hlength.le]
    exact hn
  have hmembers : names.mapM (member? fields) = some values := by
    refine mapM_eq_some (List.forall₂_iff_zip.mpr ⟨hlength, ?_⟩)
    intro name v hv
    exact member?_of_mem hnodup (h.mem_iff.mpr hv)
  rw [ofFields_eq, fields?, hnames]
  exact hmembers

end Json

theorem Kind.ofJson?_json (k : Kind) : Kind.ofJson? k.json = some k := by
  rw [Kind.json, Json.ofText, Kind.ofJson?, ← Json.ofText, Json.text?_ofText, Option.bind_some,
    ofLabel?_label]
  intro key h
  cases h

namespace Token

/-- Whether a value is the object of a token, with its members in any order. -/
def IsObject (t : Token) (v : Json) : Prop :=
  ∃ fields, fields.Perm (fieldNames.zip t.fieldValues) ∧ v = .ofFields fields

theorem isObject_json (t : Token) : t.IsObject t.json := ⟨_, List.Perm.refl _, rfl⟩

/-- A token is read from each of its objects. -/
theorem ofJson?_of_isObject {t : Token} {v : Json} (h : t.IsObject v) : ofJson? v = some t := by
  obtain ⟨fields, hperm, rfl⟩ := h
  rw [ofJson?, Json.fields?_of_perm (by decide) rfl hperm]
  simp [fieldValues, Kind.ofJson?_json, Json.text?_ofText, Json.uint32?_ofInt, Json.int32?_ofInt]

theorem IsObject.wellformed {t : Token} {v : Json} (h : t.IsObject v) : v.Wellformed := by
  obtain ⟨fields, hperm, rfl⟩ := h
  have hvalues : ∀ w ∈ t.fieldValues, w.Wellformed := by
    simp [fieldValues, Kind.json, Json.wellformed_ofText, Json.wellformed_ofInt]
  refine Json.wellformed_ofFields ?_
  intro f hf
  exact hvalues f.2 (List.of_mem_zip (hperm.mem_iff.mp hf)).2

theorem read?_compactText {t : Token} {v : Json} (h : t.IsObject v) :
    (Json.read? v.compactText).bind ofJson? = some t := by
  rw [Json.read?_compactText h.wellformed]
  exact ofJson?_of_isObject h

section

variable {ts : List Token} {vs : List Json} (h : List.Forall₂ IsObject ts vs)
include h

/-- Tokens are read from a list of their objects. -/
theorem listOfJson?_of_isObject : listOfJson? (.array vs) = some ts := by
  refine Json.mapM_eq_some (List.Forall₂.flip (h.imp ?_))
  intro t v ht
  exact ofJson?_of_isObject ht

theorem wellformed_of_isObject : (Json.array vs).Wellformed := by
  refine .array ?_
  induction h with
  | nil => exact List.forall_mem_nil _
  | cons ht _ ih => exact List.forall_mem_cons.mpr ⟨ht.wellformed, ih⟩

theorem read?_compactText_list :
    (Json.read? (Json.array vs).compactText).bind listOfJson? = some ts := by
  rw [Json.read?_compactText (wellformed_of_isObject h)]
  exact listOfJson?_of_isObject h

theorem read?_prettyText_list :
    (Json.read? ((Json.array vs).prettyText ++ "\n")).bind listOfJson? = some ts := by
  rw [Json.read?_prettyText_append (wellformed_of_isObject h) (List.all_eq_true.mp rfl)]
  exact listOfJson?_of_isObject h

end

theorem isObject_jsonList (ts : List Token) : List.Forall₂ IsObject ts (ts.map json) :=
  List.forall₂_map_right_iff.mpr (List.forall₂_same.mpr fun t _ => t.isObject_json)

end Token

theorem read?_listing (label : String) (ts : List Token) :
    (Json.read? (listing .json label ts)).bind Token.listOfJson? = some ts :=
  Token.read?_prettyText_list (Token.isObject_jsonList ts)

/-- Every list of tokens is read back from its listing as JSON, and from each of its texts: in
either layout, and with the members of each token in any order.  So is every single token, and
equal listings are of equal tokens. -/
theorem token_json_round_trip (label : String) (ts : List Token) :
    (Json.read? (listing .json label ts)).bind Token.listOfJson? = some ts ∧
    (Json.read? (Token.jsonList ts).compactText).bind Token.listOfJson? = some ts ∧
    (∀ t : Token, (Json.read? t.json.compactText).bind Token.ofJson? = some t) ∧
    (∀ vs, List.Forall₂ Token.IsObject ts vs →
      (Json.read? (Json.array vs).compactText).bind Token.listOfJson? = some ts ∧
      (Json.read? ((Json.array vs).prettyText ++ "\n")).bind Token.listOfJson? = some ts) ∧
    (∀ t v, Token.IsObject t v → (Json.read? v.compactText).bind Token.ofJson? = some t) ∧
    ∀ label' ts', listing .json label ts = listing .json label' ts' → ts = ts' := by
  refine ⟨read?_listing label ts, Token.read?_compactText_list (Token.isObject_jsonList ts),
    ?_, ?_, ?_, ?_⟩
  · intro t
    exact Token.read?_compactText t.isObject_json
  · intro vs h
    exact ⟨Token.read?_compactText_list h, Token.read?_prettyText_list h⟩
  · intro t v h
    exact Token.read?_compactText h
  · intro label' ts' h
    have hts := read?_listing label ts
    rw [h, read?_listing label' ts'] at hts
    exact (Option.some.inj hts).symm

/-- Members in the opposite order, of a token whose text needs escapes and whose start is as far to
the left as can be. -/
theorem token_json_round_trip_reversed :
    (Json.read? (Json.ofFields (Token.fieldNames.zip
      (Token.fieldValues ⟨.string, "\"\n", 0, 1, -2147483648, 0⟩)).reverse).compactText).bind
        Token.ofJson? = some ⟨.string, "\"\n", 0, 1, -2147483648, 0⟩ :=
  (token_json_round_trip "" []).2.2.2.2.1 _ _ ⟨_, List.reverse_perm _, rfl⟩

end SourceLexer
