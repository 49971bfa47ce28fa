import ExtractionSchema.Proofs.Property.Compilable
import ExtractionSchema.Proofs.Property.Plain

/-!
# Trees of property lists in files

The tree of a property list takes the outputs of examples over as they are, and adds nothing but
texts and the place of each field in its list. So the tree of a plain property list is written and
stored without loss, as long as these places have numbers that can be shown: a list of more than
`10 ^ 4300` fields has a place that has none.

* `Wire.Tree.obstacle_toValue_ofProperties_iff`: the tree is written exactly if there is none.
* `Property.listOfTree_ofProperties`: what is read back from the written tree.
-/

namespace ExtractionSchema

open Wire

/-- Every place in a list has a number that can be shown. -/
def IsNumbered {α : Type} (ps : List α) : Prop := ps.length ≤ Nat.pow 10 digitLimit

/-- Every place in a property list and in the nested fields of its properties has a number that can
be shown. -/
def Property.AreNumbered (ps : List Property) : Prop :=
  IsNumbered ps ∧ ∀ p ∈ ps, ∀ fs ∈ p.shape.fields?, IsNumbered fs

theorem isNumbered_iff {α : Type} {ps : List α} :
    IsNumbered ps ↔ ∀ j < ps.length, hasTooManyDigits (j : Nat) = false := by
  unfold IsNumbered
  constructor
  · intro h j hj
    exact hasTooManyDigits_eq_false (Nat.lt_of_lt_of_le hj h)
  · intro h
    by_contra hlong
    -- the place after the last one that has a number
    have hlast := natAbs_lt_of_hasTooManyDigits (h _ (Nat.lt_of_not_le hlong))
    generalize Nat.pow 10 digitLimit = bound at hlast
    exact absurd hlast (by simp)

/-! ## Plain presentations -/

namespace Wire

/-- All that a presentation states is plain. -/
def Presentation.IsPlain (about : Presentation) : Prop := ∀ field ∈ about.fields, field.2.IsPlain

theorem Presentation.isPlain_empty : ({} : Presentation).IsPlain := by
  simp [IsPlain, fields, whenStated]

theorem isPlain_whenStated {α : Type} {key : String} {write : α → Value} {o : Option α}
    (h : ∀ a ∈ o, (write a).IsPlain) : ∀ field ∈ whenStated key write o, field.2.IsPlain := by
  cases o with
  | none => simp [whenStated]
  | some a => simpa [whenStated] using h a rfl

theorem Presentation.IsPlain.record {about : Presentation} (h : about.IsPlain)
    {before after : List (String × Value)}
    (hkeys : (before.map Prod.fst ++ presentationKeys ++ after.map Prod.fst).Nodup)
    (hbefore : ∀ field ∈ before, field.2.IsPlain) (hafter : ∀ field ∈ after, field.2.IsPlain) :
    (Value.record (before ++ about.fields ++ after)).IsPlain := by
  have hsub := ((List.Sublist.refl (before.map Prod.fst)).append about.sublist_keys_fields).append
    (List.Sublist.refl (after.map Prod.fst))
  have hnodup : ((before ++ about.fields ++ after).map Prod.fst).Nodup := by
    rw [List.map_append, List.map_append]
    exact hsub.nodup hkeys
  rw [Value.isPlain_record hnodup, List.forall_mem_append, List.forall_mem_append]
  exact ⟨⟨hbefore, h⟩, hafter⟩

theorem isPlain_type (type : String) :
    ∀ field ∈ [("type", Value.string type)], field.2.IsPlain := by
  simp [Value.isPlain_string]

variable {about : Presentation}

theorem Node.isPlain_primitive (h : about.IsPlain) (kind : Primitive) (format : Option String) :
    (Node.primitive about kind { format }).toValue.IsPlain := by
  rw [Node.toValue]
  refine h.record ?_ ?_ ?_
  · have hsub := (List.Sublist.refl ["type"]).append
      (sublist_keys_whenStated "format" Value.string format)
    have hall := (hsub.append (List.Sublist.refl presentationKeys)).append (List.Sublist.refl [])
    rw [List.map_append]
    exact hall.nodup (by decide)
  · rw [List.forall_mem_append]
    exact ⟨isPlain_type _, isPlain_whenStated fun s _ => Value.isPlain_string s⟩
  · simp [Bounds.limits, whenStated]

theorem Node.isPlain_array (h : about.IsPlain) {items : Node} (hitems : items.toValue.IsPlain) :
    (Node.array about items).toValue.IsPlain := by
  have hkeys : (["type"] ++ presentationKeys ++ ["items"]).Nodup := by decide
  rw [Node.toValue]
  exact h.record hkeys (isPlain_type _) (by simpa using hitems)

theorem Node.isPlain_unknown (h : about.IsPlain) (type : String) :
    (Node.unknown about type []).toValue.IsPlain := by
  have hkeys : (["type"] ++ presentationKeys ++ []).Nodup := by decide
  have hrecord : (Value.record ([("type", .string type)] ++ about.fields ++ [])).IsPlain :=
    h.record hkeys (isPlain_type type) (by simp)
  rw [List.append_nil] at hrecord
  rw [Node.toValue_unknown]
  exact hrecord

theorem isPlain_objectFields {kids : Properties} (hnames : (kids.map Prod.fst).Nodup)
    (hkids : ∀ kid ∈ kids, kid.2.toValue.IsPlain) (required : List String) :
    ∀ field ∈ objectFields (childValues kids) required none, field.2.IsPlain := by
  have hchildren : (Value.record (childValues kids)).IsPlain := by
    have hkeys : ((childValues kids).map Prod.fst).Nodup := by
      rw [childValues_eq_map, List.map_map]
      exact hnames
    rw [Value.isPlain_record hkeys, childValues_eq_map, List.forall_mem_map]
    exact hkids
  simp only [objectFields, List.forall_mem_append]
  refine ⟨⟨by simpa using hchildren, ?_⟩, by simp [whenStated]⟩
  split
  · simp
  · simp [Value.isPlain_strings]

/-- The keys of a written object differ. -/
theorem nodup_keys_object {before : List String} (hbefore : before.Sublist ["$schema", "type"])
    (children : List (String × Value)) (required : List String) :
    (before ++ presentationKeys ++
      (objectFields children required none).map Prod.fst).Nodup := by
  have hall := (hbefore.append (List.Sublist.refl presentationKeys)).append
    (keys_objectFields children required none)
  exact hall.nodup (by decide)

theorem Node.isPlain_object (h : about.IsPlain) {kids : Properties}
    (hnames : (kids.map Prod.fst).Nodup) (hkids : ∀ kid ∈ kids, kid.2.toValue.IsPlain)
    (required : List String) : (Node.object about kids required none).toValue.IsPlain := by
  rw [Node.toValue]
  exact h.record (nodup_keys_object (by decide) _ _) (isPlain_type _)
    (isPlain_objectFields hnames hkids required)

end Wire

/-! ## Plain nodes of fields -/

theorem FieldInfo.IsPlain.presentation {info : FieldInfo} (h : info.IsPlain) {j : Nat}
    (hj : hasTooManyDigits j = false) : (info.presentation j).IsPlain := by
  have htexts : ∀ (key : String) (o : Option String),
      ∀ field ∈ whenStated key Value.string o, field.2.IsPlain := fun key o =>
    isPlain_whenStated fun s _ => Value.isPlain_string s
  have hexamples : ∀ es ∈ info.examples.map (·.map Example.entries),
      (Value.list (es.map exampleValue)).IsPlain := by
    intro es hes
    obtain ⟨given, hgiven, rfl⟩ := Option.mem_map.mp hes
    rw [List.map_map, Value.isPlain_list, List.forall_mem_map]
    intro e he
    have hkeys : (e.entries.map Prod.fst).Nodup := by
      have hnames : ["id", "input", "output"].Nodup := by decide
      exact hnames
    show (Value.record e.entries).IsPlain
    rw [Value.isPlain_record hkeys]
    simpa [Example.entries, Value.isPlain_string] using h given hgiven e he
  simp only [Presentation.IsPlain, Presentation.fields, List.forall_mem_append]
  refine ⟨⟨⟨⟨⟨⟨⟨htexts _ _, htexts _ _⟩, htexts _ _⟩, htexts _ _⟩, htexts _ _⟩,
    isPlain_whenStated hexamples⟩, ?_⟩, ?_⟩
  · exact isPlain_whenStated (by rintro _ ⟨⟩)
  · refine isPlain_whenStated ?_
    rintro _ ⟨⟩
    exact Value.isPlain_int.mpr hj

section Shapes

variable {about : Presentation} (h : about.IsPlain)

include h

theorem SimpleShape.isPlain_node (shape : SimpleShape) : (shape.node about).toValue.IsPlain := by
  cases shape with
  | list item =>
    refine Node.isPlain_array h ?_
    cases item <;> exact Node.isPlain_primitive Presentation.isPlain_empty _ _
  | plain type =>
    unfold SimpleShape.node
    dsimp only
    split
    · exact Node.isPlain_primitive h _ _
    · split
      · exact Node.isPlain_primitive h _ _
      · exact Node.isPlain_unknown h type

end Shapes

theorem map_fst_childrenFrom {α : Type} (info : α → FieldInfo) (node : Presentation → α → Node)
    (i : Nat) (ps : List α) :
    (childrenFrom info node i ps).map Prod.fst = ps.map fun p => (info p).name := by
  induction ps generalizing i with
  | nil => rfl
  | cons p ps ih => rw [childrenFrom, List.map_cons, List.map_cons, ih]

section Children

variable {α : Type} {info : α → FieldInfo} {node : Presentation → α → Node} {ps : List α}

/-- The children made from fields are plain if their places have numbers that can be shown. -/
theorem isPlain_childrenFrom (hps : ∀ p ∈ ps, (info p).IsPlain) (hplaces : IsNumbered ps)
    (hnode : ∀ p ∈ ps, ∀ about : Presentation, about.IsPlain → (node about p).toValue.IsPlain) :
    ∀ kid ∈ childrenFrom info node 0 ps, kid.2.toValue.IsPlain := by
  intro kid hkid
  obtain ⟨j, p, hp, rfl⟩ := mem_childrenFrom_iff.mp hkid
  have hmem := List.mem_of_getElem? hp
  obtain ⟨hj, -⟩ := List.getElem?_eq_some_iff.mp hp
  refine hnode p hmem _ ((hps p hmem).presentation ?_)
  rw [Nat.zero_add]
  exact isNumbered_iff.mp hplaces j hj

end Children

theorem Shape.isPlain_node {about : Presentation} (habout : about.IsPlain) {shape : Shape}
    (hshape : shape.WellFormed)
    (hfields : ∀ fs ∈ shape.fields?, IsNumbered fs ∧ ∀ f ∈ fs, f.info.IsPlain) :
    (shape.node about).toValue.IsPlain := by
  cases shape with
  | simple shape => exact shape.isPlain_node habout
  | objects fields =>
    obtain ⟨hplaces, hplain⟩ := hfields fields rfl
    have hnames : ((nestedChildren fields).map Prod.fst).Nodup := by
      rw [nestedChildren, map_fst_childrenFrom]
      exact hshape.2.2
    refine Node.isPlain_array habout (Node.isPlain_object Presentation.isPlain_empty hnames ?_ _)
    exact isPlain_childrenFrom hplain hplaces fun f _ about habout => f.shape.isPlain_node habout

namespace Wire.Tree

/-- The tree of a plain property list is plain, if its places have numbers that can be shown. -/
theorem isPlain_toValue_ofProperties {ps : List Property} (hwell : Property.ListWellFormed ps)
    (hps : ∀ p ∈ ps, p.IsPlain) (hplaces : Property.AreNumbered ps) :
    (ofProperties ps).toValue.IsPlain := by
  have hnames : ((ofProperties ps).properties.map Prod.fst).Nodup := by
    rw [ofProperties, map_fst_childrenFrom]
    exact hwell.names
  have hkids : ∀ kid ∈ (ofProperties ps).properties, kid.2.toValue.IsPlain := by
    refine isPlain_childrenFrom (fun p hp => (hps p hp).info) hplaces.1 ?_
    intro p hp about habout
    refine p.shape.isPlain_node habout (hwell.each p hp).shape fun fs hfs => ?_
    exact ⟨hplaces.2 p hp fs hfs, (hps p hp).fields fs hfs⟩
  have habout : (ofProperties ps).about.IsPlain := by
    simp [ofProperties, Presentation.IsPlain, Presentation.fields, whenStated,
      Value.isPlain_string]
  rw [toValue]
  refine habout.record (nodup_keys_object ?_ _ _) ?_ ?_
  · exact List.Sublist.refl _
  · simp [ofProperties, whenStated, Value.isPlain_string]
  · exact isPlain_objectFields hnames hkids _

end Wire.Tree

/-! ## Places without a number -/

/-- What stands in the way of a presentation stands in the way of the written node. -/
theorem Wire.Node.obstacle_fields {node : Node} (hkept : node.kept = [])
    (h : node.toValue.obstacle = none) : ∀ field ∈ node.about.fields, field.2.obstacle = none := by
  intro field hfield
  cases node with
  | primitive about _ _ | array about _ | object about _ _ _ =>
    rw [Node.toValue, Value.obstacle_record_eq_none] at h
    exact h field (by simp [show field ∈ about.fields from hfield])
  | unknown about type raw =>
    obtain rfl : raw = [] := List.map_eq_nil_iff.mp hkept
    rw [Node.toValue_unknown, Value.obstacle_record_eq_none] at h
    exact h field (List.mem_cons_of_mem _ hfield)

theorem Wire.obstacle_children {front : List (String × Value)} {kids : Properties}
    {required : List String} {more : Option Bool}
    (h : (Value.record (front ++ objectFields (childValues kids) required more)).obstacle = none) :
    ∀ kid ∈ kids, kid.2.toValue.obstacle = none := by
  have hmem : ("properties", Value.record (childValues kids)) ∈
      front ++ objectFields (childValues kids) required more := by
    simp [objectFields]
  have hrecord := Value.obstacle_record_eq_none.mp h _ hmem
  rw [Value.obstacle_record_eq_none, childValues_eq_map, List.forall_mem_map] at hrecord
  exact hrecord

/-- Children that are written stand at places that have numbers. -/
theorem isNumbered_of_children {α : Type} {info : α → FieldInfo} (shape : α → Shape) {ps : List α}
    (h : ∀ kid ∈ childrenFrom info (fun about p => (shape p).node about) 0 ps,
      kid.2.toValue.obstacle = none) : IsNumbered ps := by
  rw [isNumbered_iff]
  intro j hj
  have hkid : ((info ps[j]).name, (shape ps[j]).node ((info ps[j]).presentation (0 + j))) ∈
      childrenFrom info (fun about p => (shape p).node about) 0 ps :=
    mem_childrenFrom_iff.mpr ⟨j, ps[j], List.getElem?_eq_getElem hj, rfl⟩
  rw [Nat.zero_add] at hkid
  have hfields := Node.obstacle_fields ((shape ps[j]).kept_node _) (h _ hkid)
  rw [((shape ps[j]).standsFor_node _).about_eq] at hfields
  refine Value.hasTooManyDigits_of_obstacle (hfields ("order", .int j) ?_)
  simp [Presentation.fields, FieldInfo.presentation, whenStated]

namespace Wire.Tree

/-- The tree of a plain property list is written exactly if its places have numbers that can be
shown. -/
theorem obstacle_toValue_ofProperties_iff {ps : List Property}
    (hwell : Property.ListWellFormed ps) (hps : ∀ p ∈ ps, p.IsPlain) :
    (ofProperties ps).toValue.obstacle = none ↔ Property.AreNumbered ps := by
  constructor
  · intro h
    rw [toValue] at h
    have hkids := obstacle_children h
    refine ⟨isNumbered_of_children Property.shape hkids, ?_⟩
    intro p hp fs hfs
    obtain ⟨j, hkid⟩ : ∃ j, (p.name, p.shape.node (p.info.presentation j)) ∈
        (ofProperties ps).properties := exists_mem_childrenFrom hp
    have hnode := hkids _ hkid
    cases hshape : p.shape with
    | simple shape =>
      rw [hshape] at hfs
      cases hfs
    | objects fields =>
      rw [hshape] at hfs hnode
      cases hfs
      rw [Shape.node, Node.toValue, Value.obstacle_record_eq_none] at hnode
      have hitems := hnode ("items", _) (List.mem_append_right _ (List.mem_singleton_self _))
      rw [Node.toValue] at hitems
      exact isNumbered_of_children (fun f => .simple f.shape) (obstacle_children hitems)
  · exact fun hplaces => (isPlain_toValue_ofProperties hwell hps hplaces).obstacle_eq

end Wire.Tree

/-! ## Reading the written tree -/

/-- The written tree of a property list is read as the property list, unless a type does not tell
how to go on. -/
theorem Property.listOfTree_ofProperties {v : Value} {ps : List Property}
    (h : Property.listOfValue v = .ok ps) :
    ((∃ p ∈ ps, ∃ type ∈ p.shape.types, Mistyping type) ∧
        ∃ fault, Property.listOfTree (Wire.Tree.ofProperties ps).toValue = .error fault) ∨
      (¬ (∃ p ∈ ps, ∃ type ∈ p.shape.types, Mistyping type) ∧
        Property.listOfTree (Wire.Tree.ofProperties ps).toValue = .ok ps) := by
  have hread : (∃ t, Wire.Tree.ofValue (Wire.Tree.ofProperties ps).toValue = .ok t) ↔ _ :=
    Wire.Tree.exists_ofValue_ofProperties_iff
  unfold Property.listOfTree
  cases hvalue : Wire.Tree.ofValue (Wire.Tree.ofProperties ps).toValue with
  | error m =>
    refine .inl ⟨?_, _, rfl⟩
    by_contra htypes
    obtain ⟨t, ht⟩ := hread.mpr htypes
    rw [hvalue] at ht
    cases ht
  | ok t =>
    have htypes := hread.mp ⟨t, hvalue⟩
    refine .inr ⟨htypes, ?_⟩
    have hreadable : AllReadable (Wire.Tree.ofProperties ps).properties := by
      refine allReadable_iff.mpr (forall_childrenFrom (P := Node.Readable) ?_)
      intro about p hp
      exact p.shape.readable_node about fun htype => htypes ⟨p, hp, htype⟩
    obtain rfl := Wire.Tree.eq_reread_of_ofValue hvalue
    refine Wire.Tree.toProperties_of_standForAll (Property.listOfValue_wellFormed h) ?_
    refine (Wire.Tree.standForAll_ofProperties ps).reread hreadable ?_
    exact fun about p node hnode hstands => hstands.reread hnode

end ExtractionSchema
