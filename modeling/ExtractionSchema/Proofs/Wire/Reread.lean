import ExtractionSchema.Proofs.Wire.Reads
import ExtractionSchema.Proofs.Wire.Written

/-!
# Reading written trees

A tree that is written and read again comes back, apart from nodes of unknown types: they keep all
that was written about them, and one whose type is that of objects comes back as an object.

* `Node.reread` is the node that a written node is read as, if it is `Node.Readable`.
* `Tree.ofValue_toValue`: a written tree of readable nodes is read as the tree read again.
-/

namespace ExtractionSchema.Wire

/-! ## Reading the parts of a written node -/

theorem detail_of_getD {α : Type} {key name : String} {read : Value → Checked α}
    {write : α → Value} {o : Option α} {entries : Value.Entries}
    (hread : ∀ a ∈ o, read (write a) = .ok a ∧ write a ≠ .null)
    (h : Value.getD entries key = (o.map write).getD .null) :
    detail key name read entries = .ok o := by
  rw [detail, h, Reading.optional_written hread]
  rfl

theorem namedEntries_named (fields : List (String × Value)) :
    namedEntries (Value.named fields) = .ok fields := by
  induction fields with
  | nil => rfl
  | cons field fields ih =>
    obtain ⟨name, v⟩ := field
    simp only [Value.named_cons, namedEntries, ih]
    rfl

/-- Entries that say the same under the keys of a presentation are read as it. -/
theorem presentation_of_getD {about : Presentation} {entries : Value.Entries}
    (h : ∀ key ∈ presentationKeys,
      Value.getD entries key = Value.getD (Value.named about.fields) key) :
    presentation entries = .ok about := by
  have hstated : ∀ key ∈ presentationKeys, Value.getD entries key =
      (Value.lookup (.name key) (Value.named about.fields)).getD .null := h
  simp only [presentationKeys, List.forall_mem_cons, Presentation.fields, Value.named_append,
    Value.lookup_append, lookup_whenStated] at hstated
  simp only [String.reduceEq, if_true, if_false, Option.or_none, Option.none_or] at hstated
  obtain ⟨h1, h2, h3, h4, h5, h6, h7, h8, -⟩ := hstated
  have e1 : detail "title" "title" Reading.text entries = .ok about.title :=
    detail_of_getD (fun _ _ => ⟨rfl, by simp⟩) h1
  have e2 : detail "description" "description" Reading.text entries = .ok about.description :=
    detail_of_getD (fun _ _ => ⟨rfl, by simp⟩) h2
  have e3 : detail "importance" "importance" Reading.text entries = .ok about.importance :=
    detail_of_getD (fun _ _ => ⟨rfl, by simp⟩) h3
  have e4 : detail "extractionInstructions" "extraction_instructions" Reading.text entries =
      .ok about.instructions := detail_of_getD (fun _ _ => ⟨rfl, by simp⟩) h4
  have e5 : detail "displayName" "display_name" Reading.text entries = .ok about.displayName :=
    detail_of_getD (fun _ _ => ⟨rfl, by simp⟩) h5
  have e6 : detail "examples" "examples" (Reading.list exampleEntries) entries =
      .ok about.examples := by
    refine detail_of_getD (fun es _ => ⟨?_, by simp⟩) h6
    exact Checked.each_map fun e _ => namedEntries_named e
  have e7 : detail "enum" "enum" (Reading.list .ok) entries = .ok about.enum := by
    refine detail_of_getD (fun vs _ => ⟨?_, by simp⟩) h7
    exact Checked.each_ok vs
  have e8 : detail "order" "order" Reading.integer entries = .ok about.order :=
    detail_of_getD (fun _ _ => ⟨rfl, by simp⟩) h8
  exact presentation_eq_ok_iff.mpr ⟨e1, e2, e3, e4, e5, e6, e7, e8⟩

/-- A node is presented as the fields say that stand among others. -/
theorem presentation_framed {about : Presentation} {before after : List (String × Value)}
    (hbefore : ∀ name ∈ before.map Prod.fst, name ∉ presentationKeys)
    (hafter : ∀ name ∈ after.map Prod.fst, name ∉ presentationKeys) :
    presentation (Value.named (before ++ about.fields ++ after)) = .ok about := by
  refine presentation_of_getD fun key hkey => getD_framed ?_ ?_
  · exact fun hmem => hbefore key hmem hkey
  · exact fun hmem => hafter key hmem hkey

/-- Entries that say the same under the keys of constraints are read as them. -/
theorem bounds_of_getD {limits : Bounds} {entries : Value.Entries}
    (h : ∀ key ∈ boundsKeys, Value.getD entries key =
      Value.getD (Value.named (whenStated "format" .string limits.format ++ limits.limits)) key) :
    bounds entries = .ok limits := by
  have hstated : ∀ key ∈ boundsKeys, Value.getD entries key =
      (Value.lookup (.name key) (Value.named
        (whenStated "format" .string limits.format ++ limits.limits))).getD .null := h
  simp only [boundsKeys, List.forall_mem_cons, Bounds.limits, Value.named_append,
    Value.lookup_append, lookup_whenStated] at hstated
  simp only [String.reduceEq, if_true, if_false, Option.or_none, Option.none_or] at hstated
  obtain ⟨h1, h2, h3, h4, h5, -⟩ := hstated
  have e1 : detail "format" "format" Reading.text entries = .ok limits.format :=
    detail_of_getD (fun _ _ => ⟨rfl, by simp⟩) h1
  have e2 : detail "minLength" "min_length" Reading.integer entries = .ok limits.minLength :=
    detail_of_getD (fun _ _ => ⟨rfl, by simp⟩) h2
  have e3 : detail "maxLength" "max_length" Reading.integer entries = .ok limits.maxLength :=
    detail_of_getD (fun _ _ => ⟨rfl, by simp⟩) h3
  have e4 : detail "minimum" "minimum" Reading.number entries = .ok limits.minimum :=
    detail_of_getD (fun _ _ => ⟨rfl, by simp⟩) h4
  have e5 : detail "maximum" "maximum" Reading.number entries = .ok limits.maximum :=
    detail_of_getD (fun _ _ => ⟨rfl, by simp⟩) h5
  exact bounds_eq_ok_iff.mpr ⟨e1, e2, e3, e4, e5⟩

theorem requiredNames_strings (required : List String) :
    requiredNames (required.map Value.string) = .ok required := by
  unfold requiredNames
  rw [Checked.under_eq_ok_iff]
  exact Checked.each_map fun _ _ => rfl

theorem childNames_names (kids : Properties) :
    childNames (kids.map fun kid => (.name kid.1, kid.2)) = .ok kids := by
  unfold childNames
  rw [Checked.under_eq_ok_iff]
  induction kids with
  | nil => rfl
  | cons kid kids ih =>
    simp only [List.map_cons, namedEntries, ih]
    rfl

/-! ## Nodes read again -/

mutual

/-- The node that the written form of a node is read as. A node of an unknown type keeps all that
is written, and one whose type is that of objects is read as an object without properties. -/
def Node.reread : Node → Node
  | .primitive about kind limits => .primitive about kind limits
  | .array about items => .array about items.reread
  | .object about properties required additional =>
    .object about (rereadAll properties) required additional
  | .unknown about type raw =>
    if type = objectType then .object about [] [] none
    else .unknown about type
      (Value.fieldsOf (putAll (("type", .string type) :: about.fields) (Value.named raw)))

/-- The nodes that the written forms of children are read as. -/
def rereadAll : Properties → Properties
  | [] => []
  | (name, node) :: rest => (name, node.reread) :: rereadAll rest

end

mutual

/-- Whether the written form of a node is read. The type of a node of an unknown type is not empty
and not that of arrays, what it keeps says nothing about how it is presented that the node does
not say, and one whose type is that of objects keeps nothing and is no item of an array. -/
def Node.Readable : Node → Prop
  | .primitive _ _ _ => True
  | .array _ items => items.Readable ∧ (items.type = objectType → items.isObject = true)
  | .object _ properties _ _ => AllReadable properties
  | .unknown about type raw =>
    type ≠ "" ∧ type ≠ arrayType ∧ Primitive.ofName? type = none ∧ (type = objectType → raw = []) ∧
      ∀ key ∈ presentationKeys, key ∉ about.fields.map Prod.fst →
        Value.getD (Value.named raw) key = .null

/-- Whether the written forms of children are read. -/
def AllReadable : Properties → Prop
  | [] => True
  | (_, node) :: rest => node.Readable ∧ AllReadable rest

end

theorem rereadAll_eq_map (kids : Properties) :
    rereadAll kids = kids.map fun kid => (kid.1, kid.2.reread) := by
  induction kids with
  | nil => rfl
  | cons kid kids ih => rw [rereadAll, ih, List.map_cons]

theorem allReadable_iff {kids : Properties} :
    AllReadable kids ↔ ∀ kid ∈ kids, kid.2.Readable := by
  induction kids with
  | nil => simp [AllReadable]
  | cons kid kids ih => simp [AllReadable, ih]

/-! ## Reading a written node -/

/-- A primitive node is read when its presentation and its constraints are. -/
theorem readNode_of_bounds {path : Path} {entries : Value.Entries} {about : Presentation}
    {kind : Primitive} {limits : Bounds} (htype : typeName path entries = .ok kind.name)
    (habout : presentation entries = .ok about) (hlimits : bounds entries = .ok limits) :
    readNode path (.object entries) = .ok (.primitive about kind limits) := by
  unfold readNode
  simp only [htype, bind, Except.bind, Primitive.ofName?_name, finishPrimitive, habout, hlimits]
  rfl

/-- A primitive node is read as it was written. -/
theorem readNode_primitive (path : Path) (about : Presentation) (kind : Primitive)
    (limits : Bounds) :
    readNode path (Node.primitive about kind limits).toValue =
      .ok (.primitive about kind limits) := by
  obtain ⟨hbefore, hafter⟩ := notMem_primitiveFrame (.string kind.name) limits
  have hpresentation : presentation (Value.named ([("type", .string kind.name)] ++
      whenStated "format" .string limits.format ++ about.fields ++ limits.limits)) = .ok about :=
    presentation_framed hbefore hafter
  have hbounds : bounds (Value.named ([("type", .string kind.name)] ++
      whenStated "format" .string limits.format ++ about.fields ++ limits.limits)) =
        .ok limits := by
    refine bounds_of_getD fun key hkey => ?_
    have hnot : key ≠ "type" ∧ key ∉ presentationKeys := by
      revert key
      decide
    simp only [Value.getD, Value.named_append, Value.lookup_append,
      Presentation.lookup_fields hnot.2, Value.named_cons, Value.named_nil, Value.lookup,
      Key.name.injEq, Ne.symm hnot.1, if_false, Option.none_or, Option.or_none]
  have htype : typeName path (Value.named ([("type", .string kind.name)] ++
      whenStated "format" .string limits.format ++ about.fields ++ limits.limits)) =
        .ok kind.name := typeName_of_getD rfl kind.name_ne_empty
  exact readNode_of_bounds htype hpresentation hbounds

section Reading

variable {path : Path} {entries : Value.Entries} {about : Presentation}

/-- An array is read when its items are. -/
theorem readNode_array {v : Value} {items : Node}
    (htype : typeName path entries = .ok arrayType) (hcheck : checkItems path entries = .ok ())
    (hitems : Value.lookup (.name "items") entries = some v)
    (hread : readNode (path ++ [.items]) v = .ok items)
    (habout : presentation entries = .ok about) :
    readNode path (.object entries) = .ok (.array about items) := by
  have hname : Primitive.ofName? arrayType = none := rfl
  unfold readNode
  simp only [htype, bind, Except.bind, hname, if_true, hcheck, readItems_of_lookup hitems, hread,
    finishArray, habout]
  rfl

/-- An object is read when its children are. -/
theorem readNode_object {kids : List (Key × Node)} {properties : Properties} {names : List Value}
    {required : List String} {more : Option Bool}
    (htype : typeName path entries = .ok objectType)
    (hcheck : checkProperties path entries = .ok ())
    (hnames : requiredList path entries = .ok names)
    (hread : readProperties path entries = .ok kids)
    (habout : presentation entries = .ok about) (hkids : childNames kids = .ok properties)
    (hrequired : requiredNames names = .ok required) (hmore : additional entries = .ok more) :
    readNode path (.object entries) = .ok (.object about properties required more) := by
  have hname : Primitive.ofName? objectType = none := rfl
  have hne : objectType ≠ arrayType := by decide
  unfold readNode
  simp only [htype, bind, Except.bind, hname, hne, if_true, if_false, hcheck, hnames, hread,
    finishObject, habout, hkids, hrequired, hmore]
  rfl

/-- A node of an unknown type is read when its presentation is. -/
theorem readNode_unknown {type : String} {raw : List (String × Value)}
    (htype : typeName path entries = .ok type) (hname : Primitive.ofName? type = none)
    (harray : type ≠ arrayType) (hobject : type ≠ objectType)
    (habout : presentation entries = .ok about) (hraw : namedEntries entries = .ok raw) :
    readNode path (.object entries) = .ok (.unknown about type raw) := by
  unfold readNode
  simp only [htype, bind, Except.bind, hname, harray, hobject, if_false, finishUnknown, habout,
    hraw]
  rfl

/-- A tree is read when its children are. -/
theorem Tree.ofEntries_eq_ok {kids : List (Key × Node)} {properties : Properties}
    {names : List Value} {required : List String} {more : Option Bool} {dialect : Option String}
    (hcheck : checkProperties [] entries = .ok ()) (hnames : requiredList [] entries = .ok names)
    (hread : readProperties [] entries = .ok kids) (habout : presentation entries = .ok about)
    (hkids : childNames kids = .ok properties) (hrequired : requiredNames names = .ok required)
    (hmore : Wire.additional entries = .ok more)
    (hdialect : detail "$schema" "schema_uri" Reading.text entries = .ok dialect) :
    Tree.ofEntries entries = .ok ⟨dialect, about, properties, required, more⟩ := by
  unfold Tree.ofEntries
  simp only [hcheck, hnames, hread, bind, Except.bind, finishRoot, habout, hkids, hrequired, hmore,
    hdialect]
  rfl

/-! ## Written objects -/

variable {before children : List (String × Value)} {required : List String} {more : Option Bool}

theorem presentation_objectEntries (hbefore : (before.map Prod.fst).Sublist ["$schema", "type"]) :
    presentation (objectEntries before about children required more) = .ok about :=
  presentation_framed (notMem_presentationKeys _ hbefore (by decide))
    (notMem_presentationKeys _ (keys_objectFields children required more) (by decide))

theorem checkProperties_objectEntries
    (hbefore : (before.map Prod.fst).Sublist ["$schema", "type"]) :
    checkProperties path (objectEntries before about children required more) = .ok () := by
  unfold checkProperties
  rw [Value.getD, lookup_properties_objectEntries hbefore]
  rfl

theorem requiredList_objectEntries
    (hbefore : (before.map Prod.fst).Sublist ["$schema", "type"]) :
    requiredList path (objectEntries before about children required more) =
      .ok (required.map .string) := by
  unfold requiredList
  rw [Value.getD, lookup_objectEntries hbefore (by decide)]
  cases required with
  | nil => cases more <;> rfl
  | cons name names => rfl

theorem additional_objectEntries
    (hbefore : (before.map Prod.fst).Sublist ["$schema", "type"]) :
    additional (objectEntries before about children required more) = .ok more := by
  have hget : Value.getD (objectEntries before about children required more)
      "additionalProperties" = (more.map Value.bool).getD .null := by
    rw [Value.getD, lookup_objectEntries hbefore (by decide)]
    cases required <;> cases more <;> rfl
  exact detail_of_getD (fun _ _ => ⟨rfl, by simp⟩) hget

theorem readProperties_objectEntries
    (hbefore : (before.map Prod.fst).Sublist ["$schema", "type"]) :
    readProperties path (objectEntries before about children required more) =
      readChildren path (Value.named children) := by
  rw [readProperties_eq, Value.getD, lookup_properties_objectEntries hbefore]
  rfl

/-! ## Written trees -/

theorem checkItems_written {items : Node} {v : Value}
    (hitems : items.type = objectType → items.isObject = true)
    (hlookup : Value.lookup (.name "items") entries = some v) (hv : v = items.toValue) :
    checkItems path entries = .ok () := by
  subst hv
  obtain ⟨es, hes, htype⟩ := items.toValue_eq_object
  unfold checkItems
  rw [Value.getD, hlookup, hes]
  simp only [Option.getD_some, htype, Value.string.injEq]
  split
  · rename_i hobject
    obtain ⟨hname, hno⟩ := hobject
    have hisObject := hitems hname
    cases items with
    | object itemsAbout properties required more =>
      simp only [Node.toValue, Value.record, Value.object.injEq] at hes
      have hthere : Value.has es "properties" = true := by
        have hprops : Value.lookup (.name "properties") (objectEntries
            [("type", .string objectType)] itemsAbout (childValues properties) required more) =
          some (.record (childValues properties)) :=
            lookup_properties_objectEntries (sublist_keys_type _)
        rw [objectEntries, hes] at hprops
        rw [Value.has, hprops]
        rfl
      exact absurd hthere hno
    | primitive _ _ _ | array _ _ | unknown _ _ _ => simp [Node.isObject] at hisObject
  · rfl

theorem lookup_items_written (about : Presentation) (v : Value) :
    Value.lookup (.name "items") (Value.named
      ([("type", .string arrayType)] ++ about.fields ++ [("items", v)])) = some v := by
  have habout : Value.lookup (.name "items") (Value.named about.fields) = none :=
    Presentation.lookup_fields (by decide)
  simp only [Value.named_append, Value.lookup_append, habout]
  rfl

theorem namedEntries_fieldsOf {es : Value.Entries} (h : ∀ e ∈ es, ∃ s, e.1 = .name s) :
    namedEntries es = .ok (Value.fieldsOf es) := by
  conv_lhs => rw [← Value.named_fieldsOf h]
  exact namedEntries_named _

theorem presentation_putAll {raw : List (String × Value)} {type : Value}
    (h : ∀ key ∈ presentationKeys, key ∉ about.fields.map Prod.fst →
      Value.getD (Value.named raw) key = .null) :
    presentation (putAll (("type", type) :: about.fields) (Value.named raw)) = .ok about := by
  refine presentation_of_getD fun key hkey => ?_
  have hne : "type" ≠ key := by
    rintro rfl
    simp [presentationKeys] at hkey
  rw [Value.getD, lookup_putAll (about.nodup_keys type)]
  simp only [Value.named_cons, Value.lookup, Key.name.injEq, hne, if_false]
  by_cases hmem : key ∈ about.fields.map Prod.fst
  · obtain ⟨v, hv⟩ := Value.exists_lookup_named hmem
    rw [Value.getD, hv]
    rfl
  · rw [Value.getD, Value.lookup_named_eq_none hmem, Option.none_or]
    exact h key hkey hmem

/-- Of a node that keeps nothing, no key but those of its type and its presentation is written. -/
theorem lookup_putAll_nil (about : Presentation) (type : Value) {key : String}
    (htype : "type" ≠ key) (hkey : key ∉ presentationKeys) :
    Value.lookup (.name key) (putAll (("type", type) :: about.fields) (Value.named [])) = none := by
  rw [lookup_putAll (about.nodup_keys _), Value.named_cons, Value.lookup,
    if_neg (by simpa using htype), Presentation.lookup_fields hkey]
  rfl

/-- A node of an unknown type is read as one that keeps all that was written, and as an object if
its type is that of objects. -/
theorem readNode_unknown_toValue {type : String} {raw : List (String × Value)}
    (h : (Node.unknown about type raw).Readable) :
    readNode path (Node.unknown about type raw).toValue =
      .ok (Node.unknown about type raw).reread := by
  obtain ⟨hempty, harray, hname, hobject, hnull⟩ := h
  have hpresentation : presentation (putAll (("type", .string type) :: about.fields)
      (Value.named raw)) = .ok about := presentation_putAll hnull
  have htype : typeName path (putAll (("type", .string type) :: about.fields)
      (Value.named raw)) = .ok type := by
    refine typeName_of_getD ?_ hempty
    rw [Value.getD, lookup_putAll (about.nodup_keys _)]
    simp [Value.lookup]
  unfold Node.toValue Node.reread
  split
  · rename_i heq
    subst heq
    rw [hobject rfl] at hpresentation htype ⊢
    have hprops : Value.lookup (.name "properties") _ = none :=
      lookup_putAll_nil about (.string objectType) (by decide) (by decide)
    have hrequired : Value.lookup (.name "required") _ = none :=
      lookup_putAll_nil about (.string objectType) (by decide) (by decide)
    have hmore : Value.lookup (.name "additionalProperties") _ = none :=
      lookup_putAll_nil about (.string objectType) (by decide) (by decide)
    refine readNode_object htype ?_ (requiredList_of_lookup_none hrequired)
      (readProperties_eq.trans (by rw [Value.getD, hprops]; rfl)) hpresentation rfl rfl ?_
    · rw [checkProperties, Value.getD, hprops]
      rfl
    · rw [additional, detail, Value.getD, hmore]
      rfl
  · rename_i hne
    exact readNode_unknown htype hname harray hne hpresentation
      (namedEntries_fieldsOf (exists_name_of_mem_putAll (Value.exists_name_of_mem_named raw)))

mutual

/-- The written form of a node is read as the node read again. -/
theorem readNode_toValue : (node : Node) → node.Readable → (path : Path) →
    readNode path node.toValue = .ok node.reread
  | .primitive about kind limits, _, path => readNode_primitive path about kind limits
  | .array about items, h, path => by
    obtain ⟨hreadable, hobject⟩ := h
    have hread := readNode_toValue items hreadable (path ++ [.items])
    have hlookup := lookup_items_written about items.toValue
    have hbefore : ∀ name ∈ [("type", Value.string arrayType)].map Prod.fst,
        name ∉ presentationKeys := by decide
    have hafter : ∀ name ∈ [("items", items.toValue)].map Prod.fst,
        name ∉ presentationKeys := by simp; decide
    exact readNode_array (typeName_of_getD rfl (by decide)) (checkItems_written hobject hlookup rfl)
      hlookup hread (presentation_framed hbefore hafter)
  | .object about properties required more, h, path => by
    have hkids := readChildren_childValues properties h path
    have hbefore := sublist_keys_type (.string objectType)
    refine readNode_object (typeName_of_getD rfl (by decide))
      (checkProperties_objectEntries hbefore) (requiredList_objectEntries hbefore)
      ((readProperties_objectEntries hbefore).trans hkids)
      (presentation_objectEntries hbefore) (childNames_names _) (requiredNames_strings _)
      (additional_objectEntries hbefore)
  | .unknown about type raw, h, path => readNode_unknown_toValue h

/-- The written forms of children are read as the children read again. -/
theorem readChildren_childValues : (kids : Properties) → AllReadable kids → (path : Path) →
    readChildren path (Value.named (childValues kids)) =
      .ok ((rereadAll kids).map fun kid => (.name kid.1, kid.2))
  | [], _, _ => rfl
  | (name, node) :: rest, h, path => by
    have hhead := readNode_toValue node h.1 (path ++ [.child (Key.name name).plain])
    have htail := readChildren_childValues rest h.2 path
    have hshow : (Key.name name).isShowable = true := rfl
    rw [childValues, Value.named_cons, readChildren]
    simp only [hshow, hhead, htail]
    rfl

end

end Reading

/-- The tree that the written form of a tree is read as. -/
def Tree.reread (t : Tree) : Tree := { t with properties := rereadAll t.properties }

theorem sublist_keys_before (dialect : Option String) :
    ((whenStated "$schema" .string dialect ++
      [("type", Value.string objectType)]).map Prod.fst).Sublist ["$schema", "type"] := by
  rw [List.map_append]
  exact (sublist_keys_whenStated _ _ _).append (List.Sublist.refl ["type"])

theorem type_treeEntries (dialect : Option String) {about : Presentation}
    {children : List (String × Value)} {required : List String} {more : Option Bool} :
    Value.getD (objectEntries (whenStated "$schema" .string dialect ++
      [("type", .string objectType)]) about children required more) "type" =
        .string objectType := by
  cases dialect <;> rfl

/-- The written form of a tree is read as the tree read again. -/
theorem Tree.ofValue_toValue {t : Tree} (h : AllReadable t.properties) :
    Tree.ofValue t.toValue = .ok t.reread := by
  obtain ⟨dialect, about, properties, required, more⟩ := t
  have hbefore := sublist_keys_before dialect
  have hget : Value.getD (objectEntries (whenStated "$schema" .string dialect ++
      [("type", .string objectType)]) about (childValues properties) required more) "$schema" =
        (dialect.map Value.string).getD .null := by
    have hnot : "$schema" ∉ (objectFields (childValues properties) required more).map Prod.fst := by
      intro hmem
      have hkey := (keys_objectFields (childValues properties) required more).subset hmem
      simp at hkey
    have habout : Value.lookup (.name "$schema") (Value.named about.fields) = none :=
      Presentation.lookup_fields (by decide)
    cases dialect with
    | some text => rfl
    | none =>
      simp only [Value.getD, objectEntries, Value.named_append, Value.lookup_append, habout,
        Value.lookup_named_eq_none hnot]
      rfl
  have hdialect : detail "$schema" "schema_uri" Reading.text _ = .ok dialect :=
    detail_of_getD (fun _ _ => ⟨rfl, by simp⟩) hget
  have hentries := Tree.ofEntries_eq_ok (checkProperties_objectEntries hbefore)
    (requiredList_objectEntries hbefore)
    ((readProperties_objectEntries hbefore).trans (readChildren_childValues properties h []))
    (presentation_objectEntries hbefore) (childNames_names _) (requiredNames_strings _)
    (additional_objectEntries hbefore) hdialect
  unfold Tree.ofValue
  exact (if_pos (type_treeEntries dialect)).trans hentries

end ExtractionSchema.Wire
