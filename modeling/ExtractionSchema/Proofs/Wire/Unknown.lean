import ExtractionSchema.Proofs.Wire.Agreement
import ExtractionSchema.Proofs.Wire.Authored
import ExtractionSchema.Proofs.Wire.NormalForm

/-!
# Nodes of unknown types are kept

A document is a tree of nodes: those of an object stand under its properties, and that of an array
under its items. What is read from a node stands, once it is written, at the place of that node. A
node of an unknown type keeps all that it states, and is written with its type and its presentation
set over it. These were read from the same entries, and all but one come back as they stand there:
its place among its siblings is always written as an integer, also where a text, a truth value or a
number without fraction stands for it.

* `nodeAt` is the node at a place of a document, `exactOrder` what becomes of the entries.
* `Reads.nodeAt_toValue`: the nodes of a written node stand for those of the document.
* `Tree.nodeAt_unknown`: what stands at the place of a node of an unknown type.
-/

namespace ExtractionSchema.Wire

/-! ## Nodes at places -/

/-- The node at a place of a document. -/
def nodeAt : Path → Value → Option Value
  | [], v => some v
  | .child name :: place, .object entries =>
    if Value.getD entries "type" = .string objectType then
      (Value.lookup (.name name) (members entries)).bind (nodeAt place)
    else none
  | .items :: place, .object entries =>
    if Value.getD entries "type" = .string arrayType then
      (Value.lookup (.name "items") entries).bind (nodeAt place)
    else none
  | _, _ => none

theorem nodeAt_child_eq_some_iff {name : String} {place : Path} {v w : Value} :
    nodeAt (.child name :: place) v = some w ↔ ∃ entries child, v = .object entries ∧
      Value.getD entries "type" = .string objectType ∧
      Value.lookup (.name name) (members entries) = some child ∧ nodeAt place child = some w := by
  cases v with
  | object entries => simp [nodeAt, Option.bind_eq_some_iff]
  | _ => simp [nodeAt]

theorem nodeAt_items_eq_some_iff {place : Path} {v w : Value} :
    nodeAt (.items :: place) v = some w ↔ ∃ entries items, v = .object entries ∧
      Value.getD entries "type" = .string arrayType ∧
      Value.lookup (.name "items") entries = some items ∧ nodeAt place items = some w := by
  cases v with
  | object entries => simp [nodeAt, Option.bind_eq_some_iff]
  | _ => simp [nodeAt]

/-- The child of a name stands for what the object states under the name. -/
theorem ReadsAll.exists_lookup_childValues {es : Value.Entries} {children : List (Key × Node)}
    {kids : Properties} (h : ReadsAll es children) (hkids : namedEntries children = .ok kids)
    (hnames : ∀ e ∈ es, ∃ s, e.1 = .name s) {name : String} {v : Value}
    (hlookup : Value.lookup (.name name) es = some v) :
    ∃ kid, Value.lookup (.name name) (Value.named (childValues kids)) = some kid.toValue ∧
      Reads v kid := by
  induction es generalizing children kids with
  | nil => simp [Value.lookup] at hlookup
  | cons e es ih =>
    cases h with
    | @cons k w node _ rest hfirst hrest =>
      rw [List.forall_mem_cons] at hnames
      obtain ⟨⟨other, hother⟩, hnames⟩ := hnames
      obtain rfl : k = .name other := hother
      simp only [namedEntries, Checked.seq_eq_ok_iff, Checked.map_eq_ok_iff,
        Checked.under_eq_ok_iff] at hkids
      obtain ⟨_, more, ⟨first, hname, rfl⟩, hmore, rfl⟩ := hkids
      obtain rfl : other = first := Checked.ok.inj hname
      by_cases heq : other = name
      · subst heq
        obtain rfl : w = v := by simpa [Value.lookup] using hlookup
        exact ⟨node, by simp [childValues, Value.lookup], hfirst⟩
      · have hlater : Value.lookup (.name name) es = some v := by
          simpa [Value.lookup, heq] using hlookup
        obtain ⟨kid, hkid, hread⟩ := ih hrest hmore hnames hlater
        exact ⟨kid, by simpa [childValues, Value.lookup, heq] using hkid, hread⟩

theorem members_objectEntries {about : Presentation} {before children : List (String × Value)}
    {required : List String} {more : Option Bool}
    (hbefore : (before.map Prod.fst).Sublist ["$schema", "type"]) :
    members (objectEntries before about children required more) = Value.named children := by
  rw [members, Value.getD, lookup_properties_objectEntries hbefore]
  rfl

/-- At the place of a node stands, in the written form, what is written for it. -/
theorem Reads.nodeAt_toValue {place : Path} {v w : Value} {node : Node} (h : Reads v node)
    (hv : v.isJson = true) (hw : nodeAt place v = some w) :
    ∃ part, nodeAt place node.toValue = some part.toValue ∧ Reads w part ∧ w.isJson = true := by
  induction place generalizing v node with
  | nil =>
    obtain rfl : v = w := by simpa [nodeAt] using hw
    exact ⟨node, rfl, h, hv⟩
  | cons step place ih =>
    cases step with
    | child name =>
      obtain ⟨entries, child, rfl, htype, hlookup, hw⟩ := nodeAt_child_eq_some_iff.mp hw
      obtain ⟨about, children, kids, required, more, rfl, -, hchildren, hkids, -, -⟩ :=
        h.exists_object htype
      rw [childNames, Checked.under_eq_ok_iff] at hkids
      have hmembers := isJson_members hv
      obtain ⟨kid, hkid, hread⟩ := hchildren.exists_lookup_childValues hkids
        (fun e he => (Value.isJson_object.mp hmembers e he).1) hlookup
      obtain ⟨part, hpart, hreads, hjson⟩ := ih hread (Value.isJson_of_lookup hmembers hlookup) hw
      refine ⟨part, nodeAt_child_eq_some_iff.mpr ⟨_, _, rfl, rfl, ?_, hpart⟩, hreads, hjson⟩
      rw [members_objectEntries (sublist_keys_type _)]
      exact hkid
    | items =>
      obtain ⟨entries, stated, rfl, htype, hlookup, hw⟩ := nodeAt_items_eq_some_iff.mp hw
      obtain ⟨about, items, rfl, -, hread⟩ := h.exists_array htype hlookup
      obtain ⟨part, hpart, hreads, hjson⟩ := ih hread (Value.isJson_of_lookup hv hlookup) hw
      have hitems := lookup_items_written about items.toValue
      exact ⟨part, nodeAt_items_eq_some_iff.mpr ⟨_, _, rfl, rfl, hitems, hpart⟩, hreads, hjson⟩
    | properties => cases v <;> simp [nodeAt] at hw
    | required => cases v <;> simp [nodeAt] at hw

/-! ## Entries that are kept -/

/-- The entries of a node, with its place among its siblings as an integer if it can be read as
one. -/
def exactOrder (entries : Value.Entries) : Value.Entries :=
  match Reading.integer (Value.getD entries "order") with
  | .ok i => Value.put (.name "order") (.int i) entries
  | .faulty _ => entries

theorem exactOrder_of_ok {entries : Value.Entries} {i : Int}
    (h : Reading.integer (Value.getD entries "order") = .ok i) :
    exactOrder entries = Value.put (.name "order") (.int i) entries := by
  rw [exactOrder, h]

theorem exactOrder_of_null {entries : Value.Entries} (h : Value.getD entries "order" = .null) :
    exactOrder entries = entries := by
  rw [exactOrder, h]
  rfl

theorem lookup_exactOrder {key : Key} {entries : Value.Entries} (h : key ≠ .name "order") :
    Value.lookup key (exactOrder entries) = Value.lookup key entries := by
  unfold exactOrder
  split
  · exact Value.lookup_put_of_ne h _ _
  · rfl

/-- The keys stay where they are. -/
theorem map_fst_exactOrder (entries : Value.Entries) :
    (exactOrder entries).map Prod.fst = entries.map Prod.fst := by
  cases hlookup : Value.lookup (.name "order") entries with
  | none =>
    have hnull : Value.getD entries "order" = .null := by simp [Value.getD, hlookup]
    rw [exactOrder_of_null hnull]
  | some v =>
    have hmem : Key.name "order" ∈ entries.map Prod.fst :=
      Value.isSome_lookup_iff.mp (by simp [hlookup])
    unfold exactOrder
    split
    · rw [Value.keys_put, Value.keysWith, if_pos hmem]
    · rfl

/-- Nothing changes exactly where the place is stated as an integer, or not at all. -/
theorem exactOrder_eq_self_iff {entries : Value.Entries} {order : Option Int}
    (h : detail "order" "order" Reading.integer entries = .ok order) :
    exactOrder entries = entries ↔
      Value.getD entries "order" = .null ∨ ∃ i, Value.getD entries "order" = .int i := by
  cases order with
  | none =>
    have hnull := getD_of_detail h rfl
    exact ⟨fun _ => .inl hnull, fun _ => exactOrder_of_null hnull⟩
  | some i =>
    obtain ⟨v, hlookup, hread⟩ := lookup_of_detail h
    have hget : Value.getD entries "order" = v := by simp [Value.getD, hlookup]
    have hput : exactOrder entries = Value.put (.name "order") (.int i) entries :=
      exactOrder_of_ok (by rwa [hget])
    rw [hput, hget]
    constructor
    · intro heq
      have hself := Value.lookup_put_self (.name "order") (.int i) entries
      rw [heq, hlookup] at hself
      exact .inr ⟨i, Option.some.inj hself⟩
    · rintro (rfl | ⟨j, rfl⟩)
      · simp [Reading.integer, Reading.saidByText, Checked.fail] at hread
      · cases hread
        exact Value.put_eq_self_of_lookup hlookup

/-! ## Written presentations -/

theorem putAll_append (fields more : List (String × Value)) (es : Value.Entries) :
    putAll (fields ++ more) es = putAll more (putAll fields es) :=
  List.foldl_append

/-- What is written as it was read stands in the entries that it is read from. -/
theorem lookup_of_mem_whenStated {α : Type} {key name : String} {read : Value → Checked α}
    {write : α → Value} {es : Value.Entries} {o : Option α}
    (hes : (Value.object es).isJson = true) (h : detail key name read es = .ok o)
    (hwrite : ∀ v a, v.isJson = true → read v = .ok a → write a = v) :
    ∀ field ∈ whenStated key write o, Value.lookup (.name field.1) es = some field.2 := by
  cases o with
  | none => simp [whenStated]
  | some a =>
    obtain ⟨v, hlookup, hread⟩ := lookup_of_detail h
    simpa [whenStated, hwrite v a (Value.isJson_of_lookup hes hlookup) hread] using hlookup

theorem string_of_text {v : Value} {s : String} (hv : v.isJson = true)
    (h : Reading.text v = .ok s) : Value.string s = v := by
  cases v with
  | string => exact congrArg Value.string (Checked.ok.inj h).symm
  | foreign => cases hv
  | _ => simp [Reading.text, Checked.fail] at h

theorem list_of_list {α : Type} {read : Value → Checked α} {write : α → Value} {v : Value}
    {as : List α} (hv : v.isJson = true)
    (hwrite : ∀ w a, w.isJson = true → read w = .ok a → write a = w)
    (h : Reading.list read v = .ok as) : Value.list (as.map write) = v := by
  cases v with
  | list items =>
    have hitems := Value.isJson_list.mp hv
    have hread : List.Forall₂ (fun w a => read w = .ok a) items as := Checked.each_eq_ok_iff.mp h
    clear h hv
    induction hread with
    | nil => rfl
    | @cons w a items as hfirst hrest ih =>
      rw [List.forall_mem_cons] at hitems
      rw [List.map_cons, hwrite w a hitems.1 hfirst, Value.list.inj (ih hitems.2)]
  | set | pair => cases hv
  | _ => simp [Reading.list, Checked.fail] at h

/-- All that a node says of its presentation, apart from its place among its siblings, is written as
it is stated. -/
theorem Presentation.lookup_of_mem_fields {es : Value.Entries} {about : Presentation}
    (hes : (Value.object es).isJson = true) (h : presentation es = .ok about) :
    ∀ field ∈ ({ about with order := none } : Presentation).fields,
      Value.lookup (.name field.1) es = some field.2 := by
  obtain ⟨h1, h2, h3, h4, h5, h6, h7, -⟩ := presentation_eq_ok_iff.mp h
  have htext : ∀ v s, v.isJson = true → Reading.text v = .ok s → Value.string s = v :=
    fun v s => string_of_text
  have hexamples : ∀ v es, v.isJson = true → Reading.list exampleEntries v = .ok es →
      Value.list (es.map exampleValue) = v :=
    fun v es hv => list_of_list hv fun w e => exampleValue_of_exampleEntries
  have henum : ∀ v vs, v.isJson = true → Reading.list .ok v = .ok vs → Value.list vs = v := by
    intro v vs hv hread
    have hlist : Value.list (vs.map id) = v :=
      list_of_list hv (fun _ _ _ ha => (Checked.ok.inj ha).symm) hread
    rwa [List.map_id] at hlist
  simp only [Presentation.fields, List.forall_mem_append]
  refine ⟨⟨⟨⟨⟨⟨⟨?_, ?_⟩, ?_⟩, ?_⟩, ?_⟩, ?_⟩, ?_⟩, by simp [whenStated]⟩
  · exact lookup_of_mem_whenStated hes h1 htext
  · exact lookup_of_mem_whenStated hes h2 htext
  · exact lookup_of_mem_whenStated hes h3 htext
  · exact lookup_of_mem_whenStated hes h4 htext
  · exact lookup_of_mem_whenStated hes h5 htext
  · exact lookup_of_mem_whenStated hes h6 hexamples
  · exact lookup_of_mem_whenStated hes h7 henum

/-- A node of an unknown type is written as it was read, with its place as an integer. -/
theorem Node.toValue_unknown_of_presentation {es : Value.Entries} {about : Presentation}
    {type : String} (hes : (Value.object es).isJson = true)
    (htype : Value.getD es "type" = .string type) (habout : presentation es = .ok about) :
    (Node.unknown about type (Value.fieldsOf es)).toValue = .object (exactOrder es) := by
  have hnames := fun e he => (Value.isJson_object.mp hes e he).1
  have hlookup := Value.getD_eq_string_iff.mp htype
  have hfields : about.fields = ({ about with order := none } : Presentation).fields ++
      whenStated "order" .int about.order := by
    simp [Presentation.fields, whenStated]
  have hsame : putAll (("type", .string type) ::
      ({ about with order := none } : Presentation).fields) es = es := by
    apply putAll_eq_self
    exact List.forall_mem_cons.mpr ⟨hlookup, Presentation.lookup_of_mem_fields hes habout⟩
  obtain ⟨-, -, -, -, -, -, -, horder⟩ := presentation_eq_ok_iff.mp habout
  rw [Node.toValue, Value.named_fieldsOf hnames, hfields, ← List.cons_append, putAll_append, hsame]
  cases hplace : about.order with
  | none =>
    rw [exactOrder_of_null (getD_of_detail horder hplace)]
    rfl
  | some i =>
    rw [hplace] at horder
    obtain ⟨v, hv, hread⟩ := lookup_of_detail horder
    have hget : Value.getD es "order" = v := by simp [Value.getD, hv]
    rw [exactOrder_of_ok (by rwa [hget])]
    rfl

/-! ## Nodes of unknown types -/

/-- The types that are known. -/
def knownTypes : List String := ["string", "number", "integer", "boolean", arrayType, objectType]

/-- A node whose type is none of those that are known keeps its entries. -/
theorem Reads.toValue_of_unknown {v : Value} {node : Node} (h : Reads v node)
    (hv : v.isJson = true) (htype : ∀ type ∈ knownTypes, v.get? "type" ≠ some (.string type)) :
    ∃ es, v = .object es ∧ presentation es = .ok node.about ∧
      node.toValue = .object (exactOrder es) := by
  cases h with
  | @primitive es _ kind _ hkind =>
    have hknown : kind.name ∈ knownTypes := by cases kind <;> decide
    exact absurd (Value.getD_eq_string_iff.mp hkind) (htype _ hknown)
  | array harray => exact absurd (Value.getD_eq_string_iff.mp harray) (htype _ (by decide))
  | object hobject => exact absurd (Value.getD_eq_string_iff.mp hobject) (htype _ (by decide))
  | @unknown es about type raw hname _ _ _ _ habout hraw =>
    have hnames := fun e he => (Value.isJson_object.mp hv e he).1
    rw [namedEntries_fieldsOf hnames] at hraw
    cases hraw
    exact ⟨es, rfl, habout, Node.toValue_unknown_of_presentation hv hname habout⟩

/-- The parts of an object are those of any other with the same children. -/
theorem nodeAt_cons_congr {es fs : Value.Entries}
    (hes : Value.getD es "type" = .string objectType)
    (hfs : Value.getD fs "type" = .string objectType) (hmembers : members es = members fs)
    (step : PathStep) (place : Path) :
    nodeAt (step :: place) (.object es) = nodeAt (step :: place) (.object fs) := by
  cases step <;> simp [nodeAt, hes, hfs, hmembers, objectType, arrayType]

/-- A tree is written as its root, apart from the dialect that it names. -/
theorem Tree.nodeAt_toValue (t : Tree) (step : PathStep) (place : Path) :
    nodeAt (step :: place) t.toValue = nodeAt (step :: place) t.root.toValue := by
  have hmembers : members (objectEntries (whenStated "$schema" .string t.dialect ++
      [("type", .string objectType)]) t.about (childValues t.properties) t.required
        t.additional) =
      members (objectEntries [("type", .string objectType)] t.about (childValues t.properties)
        t.required t.additional) := by
    rw [members_objectEntries (sublist_keys_before t.dialect),
      members_objectEntries (sublist_keys_type _)]
  exact nodeAt_cons_congr (type_treeEntries t.dialect) rfl hmembers step place

/-- The node of an unknown type at a place of a document stands at that place of the written tree,
with its keys in their order and, apart from its own place among its siblings, with its values. It
is the very same node exactly when it states that place as an integer, or not at all. -/
theorem Tree.nodeAt_unknown {d w : Value} {t : Tree} {place : Path} (hd : d.isJson = true)
    (h : Tree.ofValue d = .ok t) (hnode : nodeAt place d = some w)
    (htype : ∀ type ∈ knownTypes, w.get? "type" ≠ some (.string type)) :
    ∃ es, w = .object es ∧ nodeAt place t.toValue = some (.object (exactOrder es)) ∧
      (exactOrder es).map Prod.fst = es.map Prod.fst ∧
      (∀ key, key ≠ .name "order" → Value.lookup key (exactOrder es) = Value.lookup key es) ∧
      (exactOrder es = es ↔
        Value.getD es "order" = .null ∨ ∃ i, Value.getD es "order" = .int i) := by
  have hreads := Tree.reads_of_ofValue h
  obtain ⟨part, hpart, hread, hw⟩ := hreads.nodeAt_toValue hd hnode
  obtain ⟨es, rfl, habout, hvalue⟩ := hread.toValue_of_unknown hw htype
  obtain ⟨-, -, -, -, -, -, -, horder⟩ := presentation_eq_ok_iff.mp habout
  have hplace : nodeAt place t.toValue = some (.object (exactOrder es)) := by
    rw [← hvalue, ← hpart]
    cases place with
    | cons step place => exact t.nodeAt_toValue step place
    | nil =>
      -- the root is an object, whose type is known
      obtain rfl : d = .object es := by simpa [nodeAt] using hnode
      exact absurd (Value.getD_eq_string_iff.mp hreads.getD_type)
        (htype _ (by decide : objectType ∈ knownTypes))
  exact ⟨es, rfl, hplace, map_fst_exactOrder es, fun _ => lookup_exactOrder,
    exactOrder_eq_self_iff horder⟩

/-- The entries of a node of an unknown type that states keys of its own among those of others. -/
def sealEntries : Value.Entries :=
  Value.named [("page", .int 2), ("title", .null), ("order", .int (-1)), ("type", .string "seal"),
    ("examples", .list [.record [("input", .string "x"), ("output", .null)]]),
    ("properties", .list [.bool true])]

/-- A list of objects with a node of an unknown type among their fields. -/
def sealedDocument : Value :=
  .record [("type", .string "object"), ("properties", .record [
    ("rows", .record [("type", .string "array"), ("items",
      .record [("properties", .record [("seal", .object sealEntries)]),
        ("type", .string "object")])])])]

theorem Tree.nodeAt_unknown_sealed :
    sealedDocument.isJson = true ∧ ∃ t, Tree.ofValue sealedDocument = .ok t ∧
      nodeAt [.child "rows", .items, .child "seal"] sealedDocument = some (.object sealEntries) ∧
      nodeAt [.child "rows", .items, .child "seal"] t.toValue = some (.object sealEntries) := by
  have hd : sealedDocument.isJson = true := rfl
  have hnode : nodeAt [.child "rows", .items, .child "seal"] sealedDocument =
      some (.object sealEntries) := rfl
  have htype : ∀ type ∈ knownTypes,
      (Value.object sealEntries).get? "type" ≠ some (.string type) := by decide
  obtain ⟨t, ht⟩ : ∃ t, Tree.ofValue sealedDocument = .ok t := ⟨_, rfl⟩
  obtain ⟨es, hes, hplace, -, -, hsame⟩ := Tree.nodeAt_unknown hd ht hnode htype
  cases hes
  rw [hsame.mpr (.inr ⟨-1, rfl⟩)] at hplace
  exact ⟨hd, t, ht, hnode, hplace⟩

/-- A node of an unknown type that states its place as a text is not written as it was. -/
theorem Tree.nodeAt_unknown_textOrder :
    ∃ t, Tree.ofValue (.record [("type", .string "object"), ("properties", .record [
        ("a", .record [("type", .string "geo"), ("order", .string "3")])])]) = .ok t ∧
      t.toValue = .record [("type", .string "object"), ("properties", .record [
        ("a", .record [("type", .string "geo"), ("order", .int 3)])])] :=
  ⟨_, rfl, rfl⟩

end ExtractionSchema.Wire
