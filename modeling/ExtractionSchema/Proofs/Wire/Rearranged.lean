import ExtractionSchema.Proofs.Wire.Reread
import Mathlib.Data.List.Perm.Basic

/-!
# Rearranged trees

A written tree says the same when the entries of its properties and the names of its required
fields stand in another order, at the root and in the elements of lists of objects. Such a document
is the written form of a tree whose children and required names stand in another order.

* `TreeRearranged` says of a document that it is a written tree with other orders.
* `Tree.exists_of_treeRearranged` finds the tree that it is the written form of.
-/

namespace ExtractionSchema.Wire

/-! ## Documents in other orders -/

/-- A part of a node in other orders: its properties are permuted, each changed as `child` says,
its required names are permuted, and its items are changed as `items` says. -/
inductive PartRearranged (child items : Value → Value → Prop) : Key → Value → Value → Prop
  | properties {es mid fs : Value.Entries}
      (each : List.Forall₂ (fun e f => e.1 = f.1 ∧ child e.2 f.2) es mid) (order : mid.Perm fs) :
      PartRearranged child items (.name "properties") (.object es) (.object fs)
  | required {vs ws : List Value} (order : vs.Perm ws) :
      PartRearranged child items (.name "required") (.list vs) (.list ws)
  | items {v w : Value} (change : items v w) : PartRearranged child items (.name "items") v w
  | same {key : Key} {v : Value} : PartRearranged child items key v v

/-- Entries of a node in other orders: part by part, under the same keys. -/
abbrev EntriesRearranged (child items : Value → Value → Prop) :
    Value.Entries → Value.Entries → Prop :=
  List.Forall₂ fun e f => e.1 = f.1 ∧ PartRearranged child items e.1 e.2 f.2

/-- A node in other orders. -/
inductive NodeRearranged (child items : Value → Value → Prop) : Value → Value → Prop
  | object {es fs : Value.Entries} (parts : EntriesRearranged child items es fs) :
      NodeRearranged child items (.object es) (.object fs)

theorem NodeRearranged.refl {child items : Value → Value → Prop} (es : Value.Entries) :
    NodeRearranged child items (.object es) (.object es) :=
  .object (List.forall₂_same.mpr fun _ _ => ⟨rfl, .same⟩)

/-- An element of a list of objects in other orders; its children stay as they are. -/
abbrev ElementRearranged : Value → Value → Prop := NodeRearranged Eq Eq

/-- A field in other orders: if it is a list of objects, its elements are rearranged. -/
abbrev FieldRearranged : Value → Value → Prop := NodeRearranged Eq ElementRearranged

/-- A tree in other orders, at the root and in the elements of lists of objects. -/
abbrev TreeRearranged : Value → Value → Prop := NodeRearranged FieldRearranged Eq

/-! ## Trees in other orders -/

/-- A node that is a field: one without parts, a list of primitives or a list of objects. -/
inductive Node.IsField : Node → Prop
  | primitive {about : Presentation} {kind : Primitive} {limits : Bounds} :
      IsField (.primitive about kind limits)
  | unknown {about : Presentation} {type : String} : IsField (.unknown about type [])
  | list {about itemsAbout : Presentation} {kind : Primitive} {limits : Bounds} :
      IsField (.array about (.primitive itemsAbout kind limits))
  | objects {about itemsAbout : Presentation} {kids : Properties} {required : List String}
      {more : Option Bool} : IsField (.array about (.object itemsAbout kids required more))

/-- A field whose elements, if it is a list of objects, have their children and their required
names in another order. -/
inductive Node.Rearranged : Node → Node → Prop
  | objects {about itemsAbout : Presentation} {kids kids' : Properties}
      {required required' : List String} {more : Option Bool} (hkids : kids.Perm kids')
      (hrequired : required.Perm required') :
      Rearranged (.array about (.object itemsAbout kids required more))
        (.array about (.object itemsAbout kids' required' more))
  | same {node : Node} : Rearranged node node

/-- Children under the same names, one by one. -/
abbrev KidsRelated (child : Node → Node → Prop) : Properties → Properties → Prop :=
  List.Forall₂ fun kid kid' => kid.1 = kid'.1 ∧ child kid.2 kid'.2

/-! ## The tree of a rearranged document -/

/-- The keys of the parts that may be rearranged. -/
def partKeys : List String := ["properties", "required", "items"]

theorem PartRearranged.eq_of_notMem {child items : Value → Value → Prop} {name : String}
    {v w : Value} (hname : name ∉ partKeys)
    (h : PartRearranged child items (.name name) v w) : v = w := by
  cases h with
  | properties => simp [partKeys] at hname
  | required => simp [partKeys] at hname
  | items => simp [partKeys] at hname
  | same => rfl

theorem PartRearranged.items_or_eq {child items : Value → Value → Prop} {v w : Value}
    (h : PartRearranged child items (.name "items") v w) : items v w ∨ w = v := by
  generalize hkey : Key.name "items" = key at h
  cases h with
  | properties => simp at hkey
  | required => simp at hkey
  | items change => exact .inl change
  | same => exact .inr rfl

theorem entriesRearranged_eq {child items : Value → Value → Prop} {fields : List (String × Value)}
    {fs : Value.Entries}
    (hnames : ∀ name ∈ fields.map Prod.fst, name ∉ partKeys)
    (h : EntriesRearranged child items (Value.named fields) fs) : fs = Value.named fields := by
  induction fields generalizing fs with
  | nil =>
    cases h
    rfl
  | cons field fields ih =>
    obtain ⟨name, v⟩ := field
    rw [Value.named_cons] at h
    obtain ⟨⟨k, w⟩, fs, ⟨hkey, hpart⟩, hrest, rfl⟩ := List.forall₂_cons_left_iff.mp h
    obtain rfl : Key.name name = k := hkey
    obtain rfl : v = w := PartRearranged.eq_of_notMem (hnames name List.mem_cons_self) hpart
    rw [ih (fun name hname => hnames name (List.mem_cons_of_mem _ hname)) hrest, Value.named_cons]

theorem exists_append_of_forall₂ {α β : Type} {R : α → β → Prop} {as bs : List α} {cs : List β}
    (h : List.Forall₂ R (as ++ bs) cs) :
    ∃ as' bs', cs = as' ++ bs' ∧ List.Forall₂ R as as' ∧ List.Forall₂ R bs bs' := by
  induction as generalizing cs with
  | nil => exact ⟨[], cs, rfl, .nil, h⟩
  | cons a as ih =>
    rcases h with _ | ⟨hhead, hrest⟩
    obtain ⟨as', bs', rfl, has, hbs⟩ := ih hrest
    exact ⟨_ :: as', bs', rfl, .cons hhead has, hbs⟩

theorem exists_of_perm_map {α β : Type} {f : α → β} {as : List α} {bs : List β}
    (h : (as.map f).Perm bs) : ∃ as', as.Perm as' ∧ bs = as'.map f := by
  have hrel : List.Forall₂ (fun b a => b = f a) (as.map f) as := by
    rw [List.forall₂_map_left_iff, List.forall₂_same]
    exact fun _ _ => rfl
  obtain ⟨as', hbs, hperm⟩ := List.perm_comp_forall₂ h.symm hrel
  refine ⟨as', hperm.symm, ?_⟩
  rw [← List.forall₂_eq_eq_eq, List.forall₂_map_right_iff]
  exact hbs

theorem named_childValues (kids : Properties) :
    Value.named (childValues kids) = kids.map fun kid => (Key.name kid.1, kid.2.toValue) := by
  simp [childValues_eq_map, Value.named]

section Kids

variable {child : Value → Value → Prop} {childNode : Node → Node → Prop} {kids : Properties}

/-- Children that are changed in a document are changed in a tree. -/
theorem exists_kidsRelated {mid : Value.Entries}
    (hchild : ∀ kid ∈ kids, ∀ w, child kid.2.toValue w →
      ∃ node, w = node.toValue ∧ childNode kid.2 node)
    (h : List.Forall₂ (fun e f => e.1 = f.1 ∧ child e.2 f.2) (Value.named (childValues kids)) mid) :
    ∃ kids', KidsRelated childNode kids kids' ∧ mid = Value.named (childValues kids') := by
  rw [named_childValues] at h
  induction kids generalizing mid with
  | nil =>
    cases h
    exact ⟨[], .nil, rfl⟩
  | cons kid kids ih =>
    obtain ⟨⟨k, w⟩, rest, ⟨hkey, hchange⟩, hrest, rfl⟩ := List.forall₂_cons_left_iff.mp h
    obtain rfl : Key.name kid.1 = k := hkey
    obtain ⟨node, rfl, hnode⟩ := hchild kid List.mem_cons_self w hchange
    obtain ⟨kids', hkids, rfl⟩ :=
      ih (fun kid hkid => hchild kid (List.mem_cons_of_mem _ hkid)) hrest
    exact ⟨(kid.1, node) :: kids', .cons ⟨rfl, hnode⟩ hkids, rfl⟩

/-- Properties in other orders are the written forms of children in another order. -/
theorem exists_kids_of_partRearranged {items : Value → Value → Prop} {w : Value}
    (hsame : ∀ node, childNode node node)
    (hchild : ∀ kid ∈ kids, ∀ w, child kid.2.toValue w →
      ∃ node, w = node.toValue ∧ childNode kid.2 node)
    (h : PartRearranged child items (.name "properties") (.record (childValues kids)) w) :
    ∃ mid kids', KidsRelated childNode kids mid ∧ mid.Perm kids' ∧
      w = .record (childValues kids') := by
  generalize hkey : Key.name "properties" = key at h
  cases h with
  | items => simp at hkey
  | properties each order =>
    obtain ⟨mid, hmid, rfl⟩ := exists_kidsRelated hchild each
    rw [named_childValues] at order
    obtain ⟨kids', hperm, rfl⟩ := exists_of_perm_map order
    refine ⟨mid, kids', hmid, hperm, ?_⟩
    rw [Value.record, named_childValues]
  | same =>
    have hrefl : KidsRelated childNode kids kids :=
      List.forall₂_same.mpr fun kid _ => ⟨rfl, hsame kid.2⟩
    exact ⟨kids, kids, hrefl, List.Perm.refl _, rfl⟩

/-- Required names in other orders are the written forms of required names in another order. -/
theorem exists_required_of_rearranged {items : Value → Value → Prop} {required : List String}
    {fs : Value.Entries}
    (h : EntriesRearranged child items
      (Value.named (if required.isEmpty then [] else [("required", .strings required)])) fs) :
    ∃ required', required.Perm required' ∧
      fs = Value.named (if required'.isEmpty then [] else [("required", .strings required')]) := by
  cases required with
  | nil =>
    cases h
    exact ⟨[], List.Perm.refl _, rfl⟩
  | cons name names =>
    obtain ⟨⟨k, w⟩, rest, ⟨hkey, hpart⟩, hrest, rfl⟩ := List.forall₂_cons_left_iff.mp h
    cases hrest
    obtain rfl : Key.name "required" = k := hkey
    have hwritten : ∃ required', (name :: names).Perm required' ∧ w = .strings required' := by
      have hnames : PartRearranged child items (.name "required") (.strings (name :: names)) w :=
        hpart
      generalize hkey : Key.name "required" = key at hnames
      cases hnames with
      | items => simp at hkey
      | required order =>
        obtain ⟨required', hperm, rfl⟩ := exists_of_perm_map order
        exact ⟨required', hperm, rfl⟩
      | same => exact ⟨name :: names, List.Perm.refl _, rfl⟩
    obtain ⟨required', hperm, rfl⟩ := hwritten
    refine ⟨required', hperm, ?_⟩
    cases required' with
    | nil => simp at hperm
    | cons _ _ => rfl

/-- The entries of an object are rearranged when its children and its required names are. -/
theorem exists_of_objectEntries_rearranged {items : Value → Value → Prop}
    {before : List (String × Value)} {about : Presentation} {required : List String}
    {more : Option Bool} {fs : Value.Entries} (hsame : ∀ node, childNode node node)
    (hbefore : (before.map Prod.fst).Sublist ["$schema", "type"])
    (hchild : ∀ kid ∈ kids, ∀ w, child kid.2.toValue w →
      ∃ node, w = node.toValue ∧ childNode kid.2 node)
    (h : EntriesRearranged child items
      (objectEntries before about (childValues kids) required more) fs) :
    ∃ mid kids' required', KidsRelated childNode kids mid ∧ mid.Perm kids' ∧
      required.Perm required' ∧
      fs = objectEntries before about (childValues kids') required' more := by
  have hfirst : ∀ name ∈ (before ++ about.fields).map Prod.fst,
      name ∉ partKeys := by
    intro name hname
    have hkey : name ∈ ["$schema", "type"] ++ presentationKeys :=
      (hbefore.append about.sublist_keys_fields).subset (by simpa using hname)
    have hkeys : ∀ name ∈ ["$schema", "type"] ++ presentationKeys,
        name ∉ partKeys := by decide
    exact hkeys name hkey
  have hlast : ∀ name ∈ (whenStated "additionalProperties" Value.bool more).map Prod.fst,
      name ∉ partKeys := by
    intro name hname
    have hkey := (sublist_keys_whenStated _ _ _).subset hname
    have hkeys : ∀ name ∈ ["additionalProperties"], name ∉ partKeys := by decide
    exact hkeys name hkey
  -- the entries fall into four runs: what stands first, the properties, the names, the closure
  simp only [objectEntries, objectFields, Value.named_append] at h
  rw [← Value.named_append] at h
  obtain ⟨first, rest, rfl, h1, hrest⟩ := exists_append_of_forall₂ h
  obtain ⟨rest, last, rfl, hrest, h4⟩ := exists_append_of_forall₂ hrest
  obtain ⟨properties, names, rfl, h2, h3⟩ := exists_append_of_forall₂ hrest
  obtain ⟨⟨k, w⟩, none, ⟨hkey, hpart⟩, hnone, rfl⟩ := List.forall₂_cons_left_iff.mp h2
  cases hnone
  obtain rfl : Key.name "properties" = k := hkey
  obtain ⟨mid, kids', hmid, hperm, rfl⟩ := exists_kids_of_partRearranged hsame hchild hpart
  obtain ⟨required', hrequired, rfl⟩ := exists_required_of_rearranged h3
  rw [entriesRearranged_eq hfirst h1, entriesRearranged_eq hlast h4]
  refine ⟨mid, kids', required', hmid, hperm, hrequired, ?_⟩
  simp only [objectEntries, objectFields, Value.named_append]
  rfl

end Kids

/-! ## Nodes and trees -/

theorem eq_of_nodeRearranged {child items : Value → Value → Prop} {fields : List (String × Value)}
    (keys : List String) {w : Value} (hsub : (fields.map Prod.fst).Sublist keys)
    (hkeys : ∀ key ∈ keys, key ∉ partKeys)
    (h : NodeRearranged child items (.record fields) w) : w = .record fields := by
  rcases h with ⟨hparts⟩
  rw [entriesRearranged_eq (fun name hname => hkeys name (hsub.subset hname)) hparts]
  rfl

/-- The keys of a primitive node. -/
theorem eq_of_primitive_rearranged {child items : Value → Value → Prop} {about : Presentation}
    {kind : Primitive} {limits : Bounds} {w : Value}
    (h : NodeRearranged child items (Node.primitive about kind limits).toValue w) :
    w = (Node.primitive about kind limits).toValue := by
  refine eq_of_nodeRearranged (["type"] ++ ["format"] ++ presentationKeys ++
    ["minLength", "maxLength", "minimum", "maximum"]) ?_ (by decide) h
  simp only [List.map_append]
  exact (((List.Sublist.refl ["type"]).append (sublist_keys_whenStated _ _ _)).append
    about.sublist_keys_fields).append limits.sublist_keys_limits

theorem kidsRelated_eq {kids kids' : Properties} (h : KidsRelated Eq kids kids') :
    kids' = kids := by
  induction h with
  | nil => rfl
  | @cons kid kid' kids kids' hkid _ ih =>
    rw [ih, Prod.ext hkid.1 hkid.2]

/-- An object in other orders is an object whose children and required names stand in another
order. -/
theorem exists_of_elementRearranged {about : Presentation} {kids : Properties}
    {required : List String} {more : Option Bool} {w : Value}
    (h : ElementRearranged (Node.object about kids required more).toValue w) :
    ∃ kids' required', kids.Perm kids' ∧ required.Perm required' ∧
      w = (Node.object about kids' required' more).toValue := by
  rcases h with ⟨hparts⟩
  have hbefore := sublist_keys_type (.string objectType)
  obtain ⟨mid, kids', required', hmid, hperm, hrequired, rfl⟩ :=
    exists_of_objectEntries_rearranged (fun _ => rfl) hbefore
      (fun kid _ w hw => ⟨kid.2, hw.symm, rfl⟩) hparts
  rw [kidsRelated_eq hmid] at hperm
  exact ⟨kids', required', hperm, hrequired, rfl⟩

/-- An array in other orders has items in other orders. -/
theorem exists_of_array_rearranged {child items : Value → Value → Prop} {about : Presentation}
    {elements : Node} {w : Value}
    (h : NodeRearranged child items (Node.array about elements).toValue w) :
    ∃ v, (items elements.toValue v ∨ v = elements.toValue) ∧
      w = .record ([("type", .string arrayType)] ++ about.fields ++ [("items", v)]) := by
  rcases h with ⟨hparts⟩
  rw [Value.named_append] at hparts
  obtain ⟨first, rest, rfl, h1, h2⟩ := exists_append_of_forall₂ hparts
  obtain ⟨⟨k, v⟩, none, ⟨hkey, hpart⟩, hnone, rfl⟩ := List.forall₂_cons_left_iff.mp h2
  cases hnone
  obtain rfl : Key.name "items" = k := hkey
  have hsub : (([("type", Value.string arrayType)] ++ about.fields).map Prod.fst).Sublist
      (["type"] ++ presentationKeys) :=
    (List.Sublist.refl ["type"]).append about.sublist_keys_fields
  have hkeys : ∀ key ∈ ["type"] ++ presentationKeys, key ∉ partKeys := by decide
  refine ⟨v, PartRearranged.items_or_eq hpart, ?_⟩
  rw [entriesRearranged_eq (fun name hname => hkeys name (hsub.subset hname)) h1, Value.record,
    Value.named_append _ [("items", v)]]
  rfl

/-- The written form of a field in other orders is the written form of a rearranged field. -/
theorem Node.exists_of_fieldRearranged {node : Node} {w : Value} (hnode : node.IsField)
    (h : FieldRearranged node.toValue w) : ∃ node', w = node'.toValue ∧ node.Rearranged node' := by
  cases hnode with
  | primitive => exact ⟨_, eq_of_primitive_rearranged h, .same⟩
  | @unknown about type =>
    rw [Node.toValue_unknown] at h
    refine ⟨.unknown about type [], ?_, .same⟩
    rw [Node.toValue_unknown]
    refine eq_of_nodeRearranged (["type"] ++ presentationKeys) ?_ (by decide) h
    exact (List.Sublist.refl ["type"]).append about.sublist_keys_fields
  | @list about itemsAbout kind limits =>
    obtain ⟨v, hv, rfl⟩ := exists_of_array_rearranged h
    refine ⟨.array about (.primitive itemsAbout kind limits), ?_, .same⟩
    rcases hv with hv | rfl
    · rw [eq_of_primitive_rearranged hv, Node.toValue_array]
    · rw [Node.toValue_array]
  | @objects about itemsAbout kids required more =>
    obtain ⟨v, hv, rfl⟩ := exists_of_array_rearranged h
    rcases hv with hv | rfl
    · obtain ⟨kids', required', hkids, hrequired, rfl⟩ := exists_of_elementRearranged hv
      refine ⟨_, ?_, .objects hkids hrequired⟩
      rw [Node.toValue_array]
    · refine ⟨_, ?_, .same⟩
      rw [Node.toValue_array]

/-- A tree in other orders is a tree with other orders. -/
theorem Tree.exists_of_treeRearranged {t : Tree} {d : Value}
    (hkids : ∀ kid ∈ t.properties, kid.2.IsField) (h : TreeRearranged t.toValue d) :
    ∃ mid kids' required', KidsRelated Node.Rearranged t.properties mid ∧ mid.Perm kids' ∧
      t.required.Perm required' ∧
      d = Tree.toValue { t with properties := kids', required := required' } := by
  rcases h with ⟨hparts⟩
  have hbefore := sublist_keys_before t.dialect
  obtain ⟨mid, kids', required', hmid, hperm, hrequired, rfl⟩ :=
    exists_of_objectEntries_rearranged (fun _ => .same) hbefore
      (fun kid hkid w hw => Node.exists_of_fieldRearranged (hkids kid hkid) hw) hparts
  exact ⟨mid, kids', required', hmid, hperm, hrequired, rfl⟩

end ExtractionSchema.Wire
