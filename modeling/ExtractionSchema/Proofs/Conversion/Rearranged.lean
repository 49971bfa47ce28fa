import ExtractionSchema.Proofs.Conversion.RoundTrip
import ExtractionSchema.Proofs.Wire.Rearranged
import ExtractionSchema.Proofs.Wire.Unreadable

/-!
# Property lists come back from rearranged documents

The tree of a property list may be written and stored by someone who does not keep the order of
properties and of required names. What is read back is the same property list in its order, unless
the tree cannot be read at all, and that depends on the stated types alone.

* `Property.listOfTree_rearranged` says both.
-/

namespace ExtractionSchema

open Conversion Wire

/-! ## What a node read again stands for -/

theorem Wire.Node.about_reread (node : Node) : node.reread.about = node.about := by
  cases node with
  | unknown about type raw =>
    unfold Node.reread
    split <;> rfl
  | primitive | array | object => rfl

theorem Conversion.typeFields_reread {node : Node} (h : node.Readable) :
    typeFields node.reread = typeFields node := by
  cases node with
  | primitive => rfl
  | object => rfl
  | unknown about type raw =>
    unfold Node.reread
    split
    · rename_i heq
      subst heq
      rfl
    · rfl
  | array about items =>
    cases items with
    | primitive => rfl
    | array => rfl
    | object => rfl
    | unknown itemsAbout type raw =>
      have hne : type ≠ objectType := by
        intro heq
        have hobject := h.2 heq
        simp [Node.isObject] at hobject
      simp [Node.reread, typeFields, itemName, hne, Node.isObject]

theorem Conversion.StandsForSimple.reread {about : Presentation} {shape : SimpleShape} {node : Node}
    (hnode : node.Readable) (h : StandsForSimple about shape node) :
    StandsForSimple about shape node.reread :=
  ⟨node.about_reread.trans h.about_eq, (typeFields_reread hnode).trans h.typeFields_eq⟩

section Children

variable {α : Type} {info : α → FieldInfo} {stands : Presentation → α → Node → Prop}
  {ps : List α} {kids kids' : Properties}

theorem Conversion.StandFrom.related {related : Node → Node → Prop} {i : Nat}
    (hstands : ∀ about p node node', stands about p node → related node node' →
      stands about p node')
    (h : StandFrom info stands i ps kids) (hkids : KidsRelated related kids kids') :
    StandFrom info stands i ps kids' := by
  induction h generalizing kids' with
  | nil =>
    cases hkids
    exact .nil
  | cons head tail ih =>
    obtain ⟨⟨name, node⟩, rest, ⟨hname, hrelated⟩, hrest, rfl⟩ :=
      List.forall₂_cons_left_iff.mp hkids
    obtain rfl := hname
    exact .cons (hstands _ _ _ _ head hrelated) (ih hrest)

/-- Children that stand for fields still do when they are replaced one by one and put in another
order. -/
theorem Conversion.StandForAll.related {related : Node → Node → Prop} {mid : Properties}
    {required required' : List String}
    (hstands : ∀ about p node node', stands about p node → related node node' →
      stands about p node')
    (h : StandForAll info stands ps kids required) (hkids : KidsRelated related kids mid)
    (horder : mid.Perm kids') (hrequired : required.Perm required') :
    StandForAll info stands ps kids' required' := by
  obtain ⟨⟨ordered, hperm, hstand⟩, hnames⟩ := h
  obtain ⟨ordered', hordered, hperm'⟩ := List.perm_comp_forall₂ hperm.symm hkids
  exact ⟨⟨ordered', horder.symm.trans hperm'.symm, hstand.related hstands hordered⟩,
    hrequired.symm.trans hnames⟩

/-- Children that stand for fields still do when they are written and read again. -/
theorem Conversion.StandForAll.reread {required : List String} (hkids : AllReadable kids)
    (hstands : ∀ about p node, node.Readable → stands about p node → stands about p node.reread)
    (h : StandForAll info stands ps kids required) :
    StandForAll info stands ps (rereadAll kids) required := by
  have hrelated : KidsRelated (fun node node' => node.Readable ∧ node' = node.reread) kids
      (rereadAll kids) := by
    rw [rereadAll_eq_map, KidsRelated, List.forall₂_map_right_iff, List.forall₂_same]
    exact fun kid hkid => ⟨rfl, allReadable_iff.mp hkids kid hkid, rfl⟩
  refine h.related ?_ hrelated (List.Perm.refl _) (List.Perm.refl _)
  rintro about p node _ hnode ⟨hreadable, rfl⟩
  exact hstands about p node hreadable hnode

end Children

theorem Conversion.StandsFor.reread {about : Presentation} {shape : Shape} {node : Node}
    (hnode : node.Readable) (h : StandsFor about shape node) :
    StandsFor about shape node.reread := by
  cases shape with
  | simple shape => exact StandsForSimple.reread hnode h
  | objects fields =>
    obtain ⟨itemsAbout, kids, required, more, rfl, hall⟩ := h
    exact ⟨itemsAbout, _, required, more, rfl,
      hall.reread hnode.1 fun about f node hread hstand => StandsForSimple.reread hread hstand⟩

/-- A field that is rearranged stands for the same. -/
theorem Conversion.StandsFor.rearranged {about : Presentation} {shape : Shape} {node node' : Node}
    (h : StandsFor about shape node) (hnode : node.Rearranged node') :
    StandsFor about shape node' := by
  cases hnode with
  | same => exact h
  | objects hkids hrequired =>
    cases shape with
    | simple shape => exact absurd h StandsForSimple.not_objects
    | objects fields =>
      obtain ⟨_, _, _, _, heq, hall⟩ := h
      cases heq
      have hsame : ∀ kids : Properties, KidsRelated Eq kids kids :=
        fun kids => List.forall₂_same.mpr fun _ _ => ⟨rfl, rfl⟩
      refine ⟨_, _, _, _, rfl, hall.related ?_ (hsame _) hkids hrequired⟩
      rintro about f node _ hstand rfl
      exact hstand

/-! ## The types that fields state -/

/-- The types that a field and its nested fields state. -/
def Shape.types : Shape → List String
  | .simple shape => [shape.type]
  | .objects fields => listType :: fields.map fun f => f.shape.type

/-- A type that makes the written form of a field unreadable: the empty one, and that of arrays. -/
def Mistyping (type : String) : Prop := type = "" ∨ type = arrayType

theorem not_mistyping_listType : ¬ Mistyping listType := by
  rintro (h | h) <;> exact absurd h (by decide)

theorem SimpleShape.isField_node (about : Presentation) (shape : SimpleShape) :
    (shape.node about).IsField := by
  cases shape with
  | list item => cases item <;> exact .list
  | plain type =>
    unfold SimpleShape.node
    dsimp only
    split
    · exact .primitive
    · split
      · exact .primitive
      · exact .unknown

theorem Shape.isField_node (about : Presentation) (shape : Shape) :
    (shape.node about).IsField := by
  cases shape with
  | simple shape => exact shape.isField_node about
  | objects fields => exact .objects

theorem SimpleShape.mistyped_node (about : Presentation) {shape : SimpleShape}
    (h : Mistyping shape.type) : (shape.node about).Mistyped := by
  cases shape with
  | list item => exact absurd h not_mistyping_listType
  | plain type =>
    rcases h with h | h
    · obtain rfl : type = "" := h
      exact .unknown (.inl rfl)
    · obtain rfl : type = arrayType := h
      exact .unknown (.inr rfl)

theorem SimpleShape.readable_node (about : Presentation) {shape : SimpleShape}
    (h : ¬ Mistyping shape.type) : (shape.node about).Readable := by
  cases shape with
  | list item => cases item <;> exact ⟨trivial, fun heq => absurd heq (by decide)⟩
  | plain type =>
    unfold SimpleShape.node
    dsimp only
    split
    · trivial
    · split
      · trivial
      · rename_i hname
        exact ⟨fun heq => h (.inl heq), fun heq => h (.inr heq), hname, fun _ => rfl,
          fun _ _ _ => rfl⟩

section Children

variable {α : Type} {info : α → FieldInfo} {node : Presentation → α → Node} {P : Node → Prop}
  {i : Nat} {ps : List α}

/-- The children made from fields are the nodes of the fields, each presented at its place. -/
theorem mem_childrenFrom_iff {kid : String × Node} : kid ∈ childrenFrom info node i ps ↔
    ∃ j p, ps[j]? = some p ∧ kid = ((info p).name, node ((info p).presentation (i + j)) p) := by
  induction ps generalizing i with
  | nil => simp [childrenFrom]
  | cons p ps ih =>
    rw [childrenFrom, List.mem_cons, ih]
    constructor
    · rintro (rfl | ⟨j, q, hq, rfl⟩)
      · exact ⟨0, p, rfl, rfl⟩
      · exact ⟨j + 1, q, hq, by rw [Nat.add_assoc, Nat.add_comm 1 j]⟩
    · rintro ⟨j, q, hq, rfl⟩
      cases j with
      | zero =>
        cases hq
        exact .inl rfl
      | succ j => exact .inr ⟨j, q, hq, by rw [Nat.add_assoc, Nat.add_comm 1 j]⟩

theorem exists_of_mem_childrenFrom {kid : String × Node} (h : kid ∈ childrenFrom info node i ps) :
    ∃ p ∈ ps, ∃ j, kid = ((info p).name, node ((info p).presentation j) p) := by
  obtain ⟨j, p, hp, hkid⟩ := mem_childrenFrom_iff.mp h
  exact ⟨p, List.mem_of_getElem? hp, i + j, hkid⟩

theorem exists_mem_childrenFrom {p : α} (h : p ∈ ps) :
    ∃ j, ((info p).name, node ((info p).presentation j) p) ∈ childrenFrom info node i ps := by
  obtain ⟨j, hj⟩ := List.getElem?_of_mem h
  exact ⟨i + j, mem_childrenFrom_iff.mpr ⟨j, p, hj, rfl⟩⟩

theorem forall_childrenFrom (h : ∀ about, ∀ p ∈ ps, P (node about p)) :
    ∀ kid ∈ childrenFrom info node i ps, P kid.2 := by
  intro kid hkid
  obtain ⟨p, hp, j, rfl⟩ := exists_of_mem_childrenFrom hkid
  exact h _ p hp

theorem exists_childrenFrom (h : ∃ p ∈ ps, ∀ about, P (node about p)) :
    ∃ kid ∈ childrenFrom info node i ps, P kid.2 := by
  obtain ⟨p, hp, hP⟩ := h
  obtain ⟨j, hmem⟩ : ∃ j, ((info p).name, node ((info p).presentation j) p) ∈
      childrenFrom info node i ps := exists_mem_childrenFrom hp
  exact ⟨_, hmem, hP _⟩

end Children

theorem Shape.mistypedField_node (about : Presentation) {shape : Shape}
    (h : ∃ type ∈ shape.types, Mistyping type) : (shape.node about).MistypedField := by
  cases shape with
  | simple shape =>
    obtain ⟨type, hmem, htype⟩ := h
    rw [List.mem_singleton.mp hmem] at htype
    exact .type (shape.mistyped_node about htype)
  | objects fields =>
    obtain ⟨type, hmem, htype⟩ := h
    rcases List.mem_cons.mp hmem with rfl | hmem
    · exact absurd htype not_mistyping_listType
    · obtain ⟨f, hf, rfl⟩ := List.mem_map.mp hmem
      refine .child (forall_childrenFrom (P := fun node => node.Readable ∨ node.Mistyped) ?_)
        (exists_childrenFrom ⟨f, hf, fun about => f.shape.mistyped_node about htype⟩)
      intro about g _
      by_cases hg : Mistyping g.shape.type
      · exact .inr (g.shape.mistyped_node about hg)
      · exact .inl (g.shape.readable_node about hg)

theorem Shape.readable_node (about : Presentation) {shape : Shape}
    (h : ¬ ∃ type ∈ shape.types, Mistyping type) : (shape.node about).Readable := by
  cases shape with
  | simple shape =>
    exact shape.readable_node about fun htype => h ⟨_, List.mem_cons_self, htype⟩
  | objects fields =>
    refine ⟨allReadable_iff.mpr ?_, fun _ => rfl⟩
    refine forall_childrenFrom (P := Node.Readable) fun about f hf =>
      f.shape.readable_node about fun htype => h ?_
    exact ⟨_, List.mem_cons_of_mem _ (List.mem_map_of_mem hf), htype⟩

/-! ## Rearranged fields are read as the fields are -/

theorem Wire.Node.Rearranged.readable {node node' : Node} (h : node.Rearranged node')
    (hnode : node.Readable) : node'.Readable := by
  cases h with
  | same => exact hnode
  | objects hkids _ =>
    refine ⟨allReadable_iff.mpr fun kid hkid => ?_, fun _ => rfl⟩
    exact allReadable_iff.mp hnode.1 kid (hkids.mem_iff.mpr hkid)

theorem Wire.Node.Rearranged.mistypedField {node node' : Node} (h : node.Rearranged node')
    (hnode : node.MistypedField) : node'.MistypedField := by
  cases h with
  | same => exact hnode
  | objects hperm _ =>
    cases hnode with
    | type htype => cases htype
    | child hkids hkid =>
      refine .child (fun kid hmem => hkids kid (hperm.mem_iff.mpr hmem)) ?_
      obtain ⟨kid, hmem, hmistyped⟩ := hkid
      exact ⟨kid, hperm.mem_iff.mp hmem, hmistyped⟩

/-- The children of the tree of a property list are readable, apart from those that are mistyped. -/
theorem Wire.Tree.readable_or_mistyped (ps : List Property) :
    ∀ kid ∈ (Wire.Tree.ofProperties ps).properties, kid.2.Readable ∨ kid.2.MistypedField := by
  refine forall_childrenFrom (P := fun node => node.Readable ∨ node.MistypedField) ?_
  intro about p _
  by_cases hp : ∃ type ∈ p.shape.types, Mistyping type
  · exact .inr (p.shape.mistypedField_node about hp)
  · exact .inl (p.shape.readable_node about hp)

theorem Wire.KidsRelated.forall_of_perm {P : Node → Prop} {kids mid kids' : Properties}
    (hkids : KidsRelated Node.Rearranged kids mid) (horder : mid.Perm kids')
    (h : ∀ kid ∈ kids, P kid.2) (himp : ∀ node node', node.Rearranged node' → P node → P node') :
    ∀ kid ∈ kids', P kid.2 := by
  intro kid hkid
  have hmid : ∀ kid ∈ mid, P kid.2 := by
    clear horder hkid
    induction hkids with
    | nil => simp
    | cons hhead _ ih =>
      rw [List.forall_mem_cons] at h ⊢
      exact ⟨himp _ _ hhead.2 h.1, ih h.2⟩
  exact hmid kid (horder.mem_iff.mpr hkid)

theorem Wire.KidsRelated.exists_of_perm {P : Node → Prop} {kids mid kids' : Properties}
    (hkids : KidsRelated Node.Rearranged kids mid) (horder : mid.Perm kids')
    (h : ∃ kid ∈ kids, P kid.2) (himp : ∀ node node', node.Rearranged node' → P node → P node') :
    ∃ kid ∈ kids', P kid.2 := by
  obtain ⟨kid, hkid, hP⟩ := h
  obtain ⟨kid', hkid', hrelated⟩ : ∃ kid' ∈ mid, kid.2.Rearranged kid'.2 := by
    clear horder
    induction hkids with
    | nil => simp at hkid
    | cons hhead _ ih =>
      rcases List.mem_cons.mp hkid with rfl | hkid
      · exact ⟨_, List.mem_cons_self, hhead.2⟩
      · obtain ⟨kid', hkid', hrelated⟩ := ih hkid
        exact ⟨kid', List.mem_cons_of_mem _ hkid', hrelated⟩
  exact ⟨kid', horder.mem_iff.mp hkid', himp _ _ hrelated hP⟩

/-- A tree of a property list that is written and read comes back as the tree read again. -/
theorem Wire.Tree.eq_reread_of_ofValue {ps : List Property} {t : Tree}
    (h : Wire.Tree.ofValue (Wire.Tree.ofProperties ps).toValue = .ok t) :
    t = (Wire.Tree.ofProperties ps).reread := by
  have htold := Wire.Tree.readable_or_mistyped ps
  by_cases hkid : ∃ kid ∈ (Wire.Tree.ofProperties ps).properties, kid.2.MistypedField
  · obtain ⟨m, hm, -⟩ := Wire.Tree.ofValue_of_mistyped htold hkid
    rw [hm] at h
    cases h
  · have hreadable : AllReadable (Wire.Tree.ofProperties ps).properties :=
      allReadable_iff.mpr fun kid hmem =>
        (htold kid hmem).resolve_right fun hmistyped => hkid ⟨kid, hmem, hmistyped⟩
    rw [Wire.Tree.ofValue_toValue hreadable] at h
    exact (Except.ok.inj h).symm

/-! ## Rearranged trees of property lists -/

section Rearranged

variable {ps : List Property} {mid kids' : Properties}
  (hmid : KidsRelated Node.Rearranged (Wire.Tree.ofProperties ps).properties mid)
  (hperm : mid.Perm kids')

include hmid hperm

theorem readable_or_mistyped_of_rearranged :
    ∀ kid ∈ kids', kid.2.Readable ∨ kid.2.MistypedField := by
  refine hmid.forall_of_perm hperm (P := fun node => node.Readable ∨ node.MistypedField)
    (Wire.Tree.readable_or_mistyped ps) ?_
  rintro node node' hnode (hread | hmistyped)
  · exact .inl (hnode.readable hread)
  · exact .inr (hnode.mistypedField hmistyped)

theorem exists_mistyped_of_rearranged
    (htypes : ∃ p ∈ ps, ∃ type ∈ p.shape.types, Mistyping type) :
    ∃ kid ∈ kids', kid.2.MistypedField := by
  refine hmid.exists_of_perm hperm (P := Node.MistypedField) (exists_childrenFrom ?_)
    fun node node' hnode => hnode.mistypedField
  obtain ⟨p, hp, htype⟩ := htypes
  exact ⟨p, hp, fun about => p.shape.mistypedField_node about htype⟩

theorem allReadable_of_rearranged
    (htypes : ¬ ∃ p ∈ ps, ∃ type ∈ p.shape.types, Mistyping type) : AllReadable kids' := by
  refine allReadable_iff.mpr (hmid.forall_of_perm hperm (P := Node.Readable)
    (forall_childrenFrom (P := Node.Readable) ?_) fun node node' hnode => hnode.readable)
  exact fun about p hp => p.shape.readable_node about fun htype => htypes ⟨p, hp, htype⟩

/-- Children that are rearranged stand for the properties, also when they are written and read
again. -/
theorem standForAll_of_rearranged {required' : List String}
    (hrequired : (Wire.Tree.ofProperties ps).required.Perm required')
    (hreadable : AllReadable kids') :
    StandForAll Property.info (fun about p => StandsFor about p.shape) ps (rereadAll kids')
      required' := by
  have hstand : StandForAll Property.info (fun about p => StandsFor about p.shape) ps kids'
      required' := by
    refine (Wire.Tree.standForAll_ofProperties ps).related ?_ hmid hperm hrequired
    exact fun about p node node' hnode hrelated => hnode.rearranged hrelated
  exact hstand.reread hreadable fun about p node hnode hstands => hstands.reread hnode

end Rearranged

/-- A tree of a property list in other orders is read as the property list, unless a field states a
type that makes it unreadable; then it is not read, for lack of a type or of items. -/
theorem Property.listOfTree_rearranged {v d : Value} {ps : List Property}
    (h : Property.listOfValue v = .ok ps)
    (hd : Wire.TreeRearranged (Wire.Tree.ofProperties ps).toValue d) :
    (¬ (∃ p ∈ ps, ∃ type ∈ p.shape.types, type = "" ∨ type = Wire.arrayType) ∧
        Property.listOfTree d = .ok ps) ∨
      ((∃ p ∈ ps, ∃ type ∈ p.shape.types, type = "" ∨ type = Wire.arrayType) ∧
        ∃ m, Property.listOfTree d = .error (.malformed m) ∧ m.IsMissing) := by
  have hfields : ∀ kid ∈ (Wire.Tree.ofProperties ps).properties, kid.2.IsField :=
    forall_childrenFrom (P := Node.IsField) fun about p _ => p.shape.isField_node about
  -- the document is the written form of a tree, whose children and required names are permuted
  obtain ⟨mid, kids', required', hmid, hperm, hrequired, rfl⟩ :=
    Wire.Tree.exists_of_treeRearranged hfields hd
  by_cases htypes : ∃ p ∈ ps, ∃ type ∈ p.shape.types, type = "" ∨ type = Wire.arrayType
  · refine .inr ⟨htypes, ?_⟩
    obtain ⟨m, hm, hmissing⟩ := Wire.Tree.ofValue_of_mistyped
      (t := { Wire.Tree.ofProperties ps with properties := kids', required := required' })
      (readable_or_mistyped_of_rearranged hmid hperm)
      (exists_mistyped_of_rearranged hmid hperm htypes)
    refine ⟨m, ?_, hmissing⟩
    rw [Property.listOfTree, hm]
  · refine .inl ⟨htypes, ?_⟩
    have hreadable : AllReadable kids' := allReadable_of_rearranged hmid hperm htypes
    have hread := Wire.Tree.ofValue_toValue
      (t := { Wire.Tree.ofProperties ps with properties := kids', required := required' }) hreadable
    rw [Property.listOfTree, hread]
    exact Wire.Tree.toProperties_of_standForAll (Property.listOfValue_wellFormed h)
      (standForAll_of_rearranged hmid hperm hrequired hreadable)

/-- The element of a list of objects with its children and its required names reversed. -/
def Wire.Node.mirrored : Node → Node
  | .array about (.object itemsAbout kids required more) =>
    .array about (.object itemsAbout kids.reverse required.reverse more)
  | node => node

/-- The tree with the children and the required names reversed, here and in lists of objects. -/
def Wire.Tree.mirrored (t : Tree) : Tree :=
  { t with
    properties := (t.properties.map fun kid => (kid.1, kid.2.mirrored)).reverse
    required := t.required.reverse }

theorem rearranged_sample : TreeRearranged (Tree.ofProperties sampleProperties).toValue
    (Tree.ofProperties sampleProperties).mirrored.toValue := by
  refine .object (.cons ⟨rfl, .same⟩ (.cons ⟨rfl, .same⟩ (.cons ⟨rfl, .same⟩
    (.cons ⟨rfl, .same⟩ (.cons ⟨rfl, ?_⟩ (.cons ⟨rfl, .same⟩ .nil))))))
  show PartRearranged _ _ _ (.object _) (.object (List.reverse (Value.named (childValues
    ((Tree.ofProperties sampleProperties).properties.map fun kid => (kid.1, kid.2.mirrored))))))
  refine .properties ?_ (List.reverse_perm _).symm
  refine .cons ⟨rfl, NodeRearranged.refl _⟩ (.cons ⟨rfl, NodeRearranged.refl _⟩
    (.cons ⟨rfl, ?_⟩ .nil))
  refine .object (.cons ⟨rfl, .same⟩ (.cons ⟨rfl, .same⟩ (.cons ⟨rfl, .same⟩
    (.cons ⟨rfl, .same⟩ (.cons ⟨rfl, .same⟩ (.cons ⟨rfl, .items ?_⟩ .nil))))))
  refine .object (.cons ⟨rfl, .same⟩ (.cons ⟨rfl, ?_⟩ (.cons ⟨rfl, .same⟩ .nil)))
  exact .properties (List.forall₂_same.mpr fun _ _ => ⟨rfl, rfl⟩) (List.reverse_perm _).symm

theorem Property.listOfTree_rearranged_sample :
    Property.listOfValue sampleDocument = .ok sampleProperties ∧
      TreeRearranged (Tree.ofProperties sampleProperties).toValue
        (Tree.ofProperties sampleProperties).mirrored.toValue ∧
      Property.listOfTree (Tree.ofProperties sampleProperties).mirrored.toValue =
        .ok sampleProperties := by
  refine ⟨Property.listOfValue_sample, rearranged_sample, ?_⟩
  have htypes : ¬ ∃ p ∈ sampleProperties, ∃ type ∈ p.shape.types, type = "" ∨ type = arrayType := by
    decide
  rcases Property.listOfTree_rearranged Property.listOfValue_sample rearranged_sample with
    ⟨-, hread⟩ | ⟨hmistyped, -⟩
  · exact hread
  · exact absurd hmistyped htypes

end ExtractionSchema
