import ExtractionSchema.Proofs.Wire.Reread

/-!
# Written trees that are not read

A node of an unknown type whose type is empty, or that of arrays, is written and then not read: it
seems to have no type, or no items. A list of objects with such a child is not read either, and
neither is a tree.

* `Tree.ofValue_of_mistyped`: a tree of fields, some of which are mistyped, is not read.
-/

namespace ExtractionSchema.Wire

/-- What is broken is a type or the items of an array, which are not there. -/
def Malformed.IsMissing (m : Malformed) : Prop := m.defect = .noType ∨ m.defect = .noItems

/-- A node that keeps nothing and whose unknown type is empty or that of arrays. -/
inductive Node.Mistyped : Node → Prop
  | unknown {about : Presentation} {type : String} (htype : type = "" ∨ type = arrayType) :
      Mistyped (.unknown about type [])

/-- A field that is mistyped, or a list of objects with a mistyped child. -/
inductive Node.MistypedField : Node → Prop
  | type {node : Node} (h : node.Mistyped) : MistypedField node
  | child {about itemsAbout : Presentation} {kids : Properties} {required : List String}
      {more : Option Bool} (hkids : ∀ kid ∈ kids, kid.2.Readable ∨ kid.2.Mistyped)
      (hkid : ∃ kid ∈ kids, kid.2.Mistyped) :
      MistypedField (.array about (.object itemsAbout kids required more))

/-- A node whose written form is not read, for lack of a type or of items. -/
def Node.Unreadable (node : Node) : Prop :=
  ∀ path, ∃ m, readNode path node.toValue = .error m ∧ m.IsMissing

theorem Node.Mistyped.unreadable {node : Node} (h : node.Mistyped) : node.Unreadable := by
  intro path
  obtain ⟨htype⟩ := h
  rename_i about type
  rw [Node.toValue_unknown]
  have hget : Value.getD (Value.named (("type", .string type) :: about.fields)) "type" =
      .string type := rfl
  rcases htype with rfl | rfl
  · refine ⟨⟨path, .noType⟩, ?_, .inl rfl⟩
    have htype : typeName path (Value.named (("type", .string "") :: about.fields)) =
        .error ⟨path, .noType⟩ := rfl
    unfold Value.record readNode
    rw [htype]
    rfl
  · refine ⟨⟨path, .noItems⟩, ?_, .inr rfl⟩
    have htype : typeName path (Value.named (("type", .string arrayType) :: about.fields)) =
        .ok arrayType := rfl
    have hname : Primitive.ofName? arrayType = none := rfl
    have hitems : Value.lookup (.name "items") (Value.named about.fields) = none :=
      Presentation.lookup_fields (by decide)
    have hcheck : checkItems path (Value.named (("type", .string arrayType) :: about.fields)) =
        .error ⟨path, .noItems⟩ := by
      have hnone : Value.getD (Value.named (("type", .string arrayType) :: about.fields)) "items" =
          .null := by
        rw [Value.getD, Value.named_cons, Value.lookup, if_neg (by simp), hitems]
        rfl
      rw [checkItems, hnone]
    unfold Value.record readNode
    simp only [htype, bind, Except.bind, hname, if_true, hcheck]

/-- Children of which some are not read, and the others are, are not read. -/
theorem readChildren_of_unreadable {kids : Properties}
    (hkids : ∀ kid ∈ kids, kid.2.Readable ∨ kid.2.Unreadable)
    (hkid : ∃ kid ∈ kids, kid.2.Unreadable) (path : Path) :
    ∃ m, readChildren path (Value.named (childValues kids)) = .error m ∧ m.IsMissing := by
  induction kids with
  | nil => simp at hkid
  | cons kid kids ih =>
    obtain ⟨name, node⟩ := kid
    have hshow : (Key.name name).isShowable = true := rfl
    rw [childValues, Value.named_cons, readChildren]
    -- the fault is that of the first child that is not read
    by_cases hnode : node.Unreadable
    · obtain ⟨m, hm, hmissing⟩ := hnode (path ++ [.child (Key.name name).plain])
      refine ⟨m, ?_, hmissing⟩
      simp only [hshow, hm]
      rfl
    · have hread := readNode_toValue node ((hkids _ List.mem_cons_self).resolve_right hnode)
        (path ++ [.child (Key.name name).plain])
      have hrest : ∃ kid ∈ kids, kid.2.Unreadable := by
        obtain ⟨kid, hmem, hun⟩ := hkid
        rcases List.mem_cons.mp hmem with rfl | hmem
        · exact absurd hun hnode
        · exact ⟨kid, hmem, hun⟩
      obtain ⟨m, hm, hmissing⟩ := ih (fun kid hmem => hkids kid (List.mem_cons_of_mem _ hmem)) hrest
      refine ⟨m, ?_, hmissing⟩
      simp only [hshow, hread, hm]
      rfl

/-- An array is not read when its items are not. -/
theorem readNode_array_error {path : Path} {entries : Value.Entries} {v : Value} {m : Malformed}
    (htype : typeName path entries = .ok arrayType) (hcheck : checkItems path entries = .ok ())
    (hitems : Value.lookup (.name "items") entries = some v)
    (hread : readNode (path ++ [.items]) v = .error m) :
    readNode path (.object entries) = .error m := by
  have hname : Primitive.ofName? arrayType = none := rfl
  unfold readNode
  simp only [htype, bind, Except.bind, hname, if_true, hcheck, readItems_of_lookup hitems, hread]

/-- An object is not read when its children are not. -/
theorem readNode_object_error {path : Path} {entries : Value.Entries} {names : List Value}
    {m : Malformed} (htype : typeName path entries = .ok objectType)
    (hcheck : checkProperties path entries = .ok ())
    (hnames : requiredList path entries = .ok names)
    (hread : readProperties path entries = .error m) :
    readNode path (.object entries) = .error m := by
  have hname : Primitive.ofName? objectType = none := rfl
  have hne : objectType ≠ arrayType := by decide
  unfold readNode
  simp only [htype, bind, Except.bind, hname, hne, if_true, if_false, hcheck, hnames, hread]

/-- A field with a mistyped part is not read. -/
theorem Node.MistypedField.unreadable {node : Node} (h : node.MistypedField) :
    node.Unreadable := by
  cases h with
  | type h => exact h.unreadable
  | @child about itemsAbout kids required more hkids hkid =>
    intro path
    have hbefore := sublist_keys_type (.string objectType)
    obtain ⟨m, hm, hmissing⟩ := readChildren_of_unreadable
      (fun kid hmem => (hkids kid hmem).imp id Node.Mistyped.unreadable)
      (hkid.imp fun kid h => ⟨h.1, h.2.unreadable⟩) (path ++ [.items])
    refine ⟨m, ?_, hmissing⟩
    have hitems : readNode (path ++ [.items]) (Node.object itemsAbout kids required more).toValue =
        .error m := by
      have htype : typeName (path ++ [.items]) (objectEntries [("type", .string objectType)]
          itemsAbout (childValues kids) required more) = .ok objectType :=
        typeName_of_getD rfl (by decide)
      exact readNode_object_error htype (checkProperties_objectEntries hbefore)
        (requiredList_objectEntries hbefore) ((readProperties_objectEntries hbefore).trans hm)
    have hlookup := lookup_items_written about (Node.object itemsAbout kids required more).toValue
    rw [Node.toValue_array]
    exact readNode_array_error (typeName_of_getD rfl (by decide))
      (checkItems_written (fun _ => rfl) hlookup rfl) hlookup hitems

/-- A tree of fields, some of which are mistyped, is not read. -/
theorem Tree.ofValue_of_mistyped {t : Tree}
    (hkids : ∀ kid ∈ t.properties, kid.2.Readable ∨ kid.2.MistypedField)
    (hkid : ∃ kid ∈ t.properties, kid.2.MistypedField) :
    ∃ m, Tree.ofValue t.toValue = .error m ∧ m.IsMissing := by
  obtain ⟨dialect, about, properties, required, more⟩ := t
  obtain ⟨m, hm, hmissing⟩ := readChildren_of_unreadable
    (fun kid hmem => (hkids kid hmem).imp id Node.MistypedField.unreadable)
    (hkid.imp fun kid h => ⟨h.1, h.2.unreadable⟩) []
  refine ⟨m, ?_, hmissing⟩
  have hbefore := sublist_keys_before dialect
  have hentries : Tree.ofEntries (objectEntries (whenStated "$schema" .string dialect ++
      [("type", .string objectType)]) about (childValues properties) required more) = .error m := by
    unfold Tree.ofEntries
    simp only [checkProperties_objectEntries hbefore, requiredList_objectEntries hbefore,
      readProperties_objectEntries hbefore, hm, bind, Except.bind]
  unfold Tree.ofValue
  exact (if_pos (type_treeEntries dialect)).trans hentries

end ExtractionSchema.Wire
