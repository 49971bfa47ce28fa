import ExtractionSchema.Proofs.Contract.Author
import ExtractionSchema.Proofs.Wire.Literals
import ExtractionSchema.Proofs.Wire.Reread

/-!
# Written trees that authors could have written

A written tree has the outer shape of a definition, so whether it is accepted depends on the
guidance of its fields alone. What a written field states as guidance is what its presentation
states; where that states nothing, a node of an unknown type may still state what it keeps.

* `Presentation.IsAuthored` says that the guidance of a presentation is fitting.
* `Reads.guided`: a field that is read from one that follows its guidance does so when it is written.
* `Tree.authored_toValue_iff`: a written tree is accepted exactly when the written forms of its
  fields follow their guidance.
-/

namespace ExtractionSchema.Wire

/-! ## The guidance of a presentation -/

/-- The importance is a known one, the place among the fields is not negative, and all examples are
complete. -/
structure Presentation.IsAuthored (about : Presentation) : Prop where
  importance : ∀ s ∈ about.importance, ∃ level : Importance, s = level.name
  order : ∀ i ∈ about.order, 0 ≤ i
  examples : ∀ es ∈ about.examples, ∀ e ∈ es, IsExample (exampleValue e)

/-- What a presentation states under a key of guidance. -/
def Presentation.stated (about : Presentation) : GuidanceKey → Option Value
  | .importance => about.importance.map .string
  | .displayName => about.displayName.map .string
  | .instructions => about.instructions.map .string
  | .order => about.order.map .int
  | .examples => about.examples.map fun es => .list (es.map exampleValue)

theorem Presentation.lookup_stated (about : Presentation) (key : GuidanceKey) :
    Value.lookup (.name key.name) (Value.named about.fields) = about.stated key := by
  simp only [Presentation.fields, Value.named_append, Value.lookup_append, lookup_whenStated]
  cases key <;> simp [GuidanceKey.name, Presentation.stated]

/-- What a presentation states is fitting under each key exactly when it is so as a whole. -/
theorem Presentation.guidesUnder_stated_iff {about : Presentation} :
    (∀ key, ∀ w ∈ about.stated key, GuidesUnder key w) ↔ about.IsAuthored := by
  constructor
  · intro h
    refine ⟨?_, ?_, ?_⟩
    · intro s hs
      have hguides : GuidesUnder .importance (.string s) :=
        h .importance _ (Option.mem_map_of_mem _ hs)
      cases hguides with
      | @importance level => exact ⟨level, rfl⟩
    · intro i hi
      have hguides : GuidesUnder .order (.int i) := h .order _ (Option.mem_map_of_mem _ hi)
      cases hguides with
      | order hn hnonneg =>
        cases hn
        exact hnonneg
    · intro es hes
      have hguides : GuidesUnder .examples (.list (es.map exampleValue)) :=
        h .examples _ (Option.mem_map_of_mem _ hes)
      cases hguides with
      | examples hitems => exact List.forall_mem_map.mp hitems
  · intro h key w hw
    cases key with
    | importance =>
      obtain ⟨s, hs, rfl⟩ := Option.mem_map.mp hw
      obtain ⟨level, rfl⟩ := h.importance s hs
      exact .importance
    | displayName =>
      obtain ⟨s, -, rfl⟩ := Option.mem_map.mp hw
      exact .displayName
    | instructions =>
      obtain ⟨s, -, rfl⟩ := Option.mem_map.mp hw
      exact .instructions
    | order =>
      obtain ⟨i, hi, rfl⟩ := Option.mem_map.mp hw
      exact .order rfl (h.order i hi)
    | examples =>
      obtain ⟨es, hes, rfl⟩ := Option.mem_map.mp hw
      exact .examples (List.forall_mem_map.mpr (h.examples es hes))

/-! ## The guidance of a written node -/

/-- The entries that a node keeps of those it was read from. -/
def Node.kept : Node → Value.Entries
  | .unknown _ _ raw => Value.named raw
  | .primitive _ _ _ | .array _ _ | .object _ _ _ _ => []

/-- The written form of the node follows its guidance. -/
def Node.Guided (node : Node) : Prop := ∃ es, node.toValue = .object es ∧ Guides es

theorem Presentation.lookup_stated_framed (about : Presentation)
    {before after : List (String × Value)}
    (hbefore : ∀ name ∈ before.map Prod.fst, name ∉ presentationKeys)
    (hafter : ∀ name ∈ after.map Prod.fst, name ∉ presentationKeys) (key : GuidanceKey) :
    Value.lookup (.name key.name) (Value.named (before ++ about.fields ++ after)) =
      about.stated key := by
  have hkey : key.name ∈ presentationKeys := by cases key <;> decide
  rw [lookup_framed (fun hmem => hbefore _ hmem hkey) (fun hmem => hafter _ hmem hkey)]
  exact about.lookup_stated key

/-- A written node states as guidance what its presentation states, and otherwise what the node
keeps. -/
theorem Node.exists_lookup_stated (node : Node) : ∃ es, node.toValue = .object es ∧
    ∀ key : GuidanceKey, Value.lookup (.name key.name) es =
      (node.about.stated key).or (Value.lookup (.name key.name) node.kept) := by
  have hnothing : ∀ (o : Option Value) (key : GuidanceKey),
      o.or (Value.lookup (.name key.name) []) = o := by simp [Value.lookup]
  have htype : ∀ (type : Value), ∀ name ∈ [("type", type)].map Prod.fst, name ∉ presentationKeys :=
    fun type => notMem_presentationKeys ["type"] (List.Sublist.refl _) (by decide)
  cases node with
  | primitive about kind limits =>
    obtain ⟨hbefore, hafter⟩ := notMem_primitiveFrame (.string kind.name) limits
    refine ⟨_, rfl, fun key => ?_⟩
    rw [Node.kept, hnothing]
    exact about.lookup_stated_framed hbefore hafter key
  | array about items =>
    have hafter : ∀ name ∈ [("items", items.toValue)].map Prod.fst, name ∉ presentationKeys :=
      notMem_presentationKeys ["items"] (List.Sublist.refl _) (by decide)
    refine ⟨_, rfl, fun key => ?_⟩
    rw [Node.kept, hnothing]
    exact about.lookup_stated_framed (htype _) hafter key
  | object about properties required more =>
    have hafter : ∀ name ∈ (objectFields (childValues properties) required more).map Prod.fst,
        name ∉ presentationKeys :=
      notMem_presentationKeys _ (keys_objectFields _ required more) (by decide)
    refine ⟨_, rfl, fun key => ?_⟩
    rw [Node.kept, hnothing]
    exact about.lookup_stated_framed (htype _) hafter key
  | unknown about type raw =>
    refine ⟨_, rfl, fun key => ?_⟩
    have hfields : Value.lookup (.name key.name)
        (Value.named ([("type", .string type)] ++ about.fields ++ [])) = about.stated key :=
      about.lookup_stated_framed (htype _) (by simp) key
    rw [List.append_nil] at hfields
    rw [lookup_putAll (about.nodup_keys _)]
    exact congrArg (Option.or · _) hfields

/-- A written node is guided as authors may if its presentation is, and with it what it keeps. -/
theorem Node.guided_of_kept {node : Node} (hkept : Guides node.kept)
    (habout : node.about.IsAuthored) : node.Guided := by
  obtain ⟨es, hes, hlookup⟩ := node.exists_lookup_stated
  refine ⟨es, hes, ?_⟩
  intro key w hw
  rw [hlookup, Option.or_eq_some_iff] at hw
  rcases hw with hw | ⟨-, hw⟩
  · exact Presentation.guidesUnder_stated_iff.mpr habout key w hw
  · exact hkept key w hw

theorem Node.guided_iff_of_kept_eq_nil {node : Node} (hkept : node.kept = []) :
    node.Guided ↔ node.about.IsAuthored := by
  constructor
  · rintro ⟨es, hes, hguides⟩
    obtain ⟨es', hes', hlookup⟩ := node.exists_lookup_stated
    rw [hes] at hes'
    cases hes'
    apply Presentation.guidesUnder_stated_iff.mp
    intro key w hw
    apply hguides key w
    rw [hlookup, hw]
    rfl
  · apply Node.guided_of_kept
    rw [hkept]
    intro key w hw
    cases hw

/-! ## The guidance of fields that were read -/

theorem toInt?_of_intOfFloating {x : Floating} {i : Int} (h : Reading.intOfFloating x = .ok i) :
    x.toInt? = some i := by
  unfold Reading.intOfFloating at h
  split at h
  · cases h
  · cases h
  · split at h
    · cases h
    · rename_i j hj
      split at h
      · cases h
        exact hj
      · cases h

/-- A number is read as the integer that it is. -/
theorem toInt?_of_integer {n : Number} {i : Int} (h : Reading.integer (.number n) = .ok i) :
    n.toInt? = some i := by
  cases n with
  | int j =>
    cases h
    rfl
  | float x =>
    cases hx : Reading.intOfFloating x with
    | ok j =>
      simp only [Reading.integer, hx] at h
      cases h
      exact toInt?_of_intOfFloating hx
    | error cause => simp [Reading.integer, hx, Checked.fail] at h

/-- An example of JSON is written as it was read. -/
theorem exampleValue_of_exampleEntries {v : Value} {e : ExampleEntries} (hv : v.isJson = true)
    (h : exampleEntries v = .ok e) : exampleValue e = v := by
  cases v with
  | object entries =>
    have hnames := fun e he => (Value.isJson_object.mp hv e he).1
    have hread : namedEntries entries = .ok e := h
    rw [namedEntries_fieldsOf hnames] at hread
    cases hread
    exact congrArg Value.object (Value.named_fieldsOf hnames)
  | _ => simp [exampleEntries, Checked.fail] at h

theorem Presentation.isAuthored_of_guides {es : Value.Entries} {about : Presentation}
    (hes : (Value.object es).isJson = true) (hguides : Guides es)
    (h : presentation es = .ok about) : about.IsAuthored := by
  obtain ⟨-, -, himportance, -, -, hexamples, -, horder⟩ := presentation_eq_ok_iff.mp h
  refine ⟨?_, ?_, ?_⟩
  · intro s hs
    rw [hs] at himportance
    obtain ⟨v, hv, hread⟩ := lookup_of_detail himportance
    have hguide : GuidesUnder .importance v := hguides .importance v hv
    cases hguide with
    | @importance level =>
      cases hread
      exact ⟨level, rfl⟩
  · intro i hi
    rw [hi] at horder
    obtain ⟨v, hv, hread⟩ := lookup_of_detail horder
    have hguide : GuidesUnder .order v := hguides .order v hv
    cases hguide with
    | order hn hnonneg =>
      rw [toInt?_of_integer hread] at hn
      cases hn
      exact hnonneg
  · intro stated hstated e he
    rw [hstated] at hexamples
    obtain ⟨v, hv, hread⟩ := lookup_of_detail hexamples
    have hguide : GuidesUnder .examples v := hguides .examples v hv
    cases hguide with
    | @examples items hitems =>
      obtain ⟨item, hitem, hread⟩ := Checked.read_of_mem_each hread e he
      have hjson := Value.isJson_list.mp (Value.isJson_of_lookup hes hv) item hitem
      rw [exampleValue_of_exampleEntries hjson hread]
      exact hitems item hitem

theorem Reads.presentation_eq {es : Value.Entries} {node : Node} (h : Reads (.object es) node) :
    presentation es = .ok node.about := by
  cases h with
  | primitive _ habout _ => exact habout
  | array _ habout _ _ => exact habout
  | object _ habout _ _ _ _ => exact habout
  | unknown _ _ _ _ _ habout _ => exact habout

/-- Of what it is read from, a node of an unknown type keeps everything, and any other nothing. -/
theorem Reads.kept {es : Value.Entries} {node : Node} (h : Reads (.object es) node)
    (hes : (Value.object es).isJson = true) : node.kept = es ∨ node.kept = [] := by
  cases h with
  | unknown _ _ _ _ _ _ hraw =>
    have hnames := fun e he => (Value.isJson_object.mp hes e he).1
    rw [namedEntries_fieldsOf hnames] at hraw
    cases hraw
    exact .inl (Value.named_fieldsOf hnames)
  | primitive _ _ _ => exact .inr rfl
  | array _ _ _ _ => exact .inr rfl
  | object _ _ _ _ _ _ => exact .inr rfl

/-- A field that follows its guidance does so when it is read and written. -/
theorem Reads.guided {es : Value.Entries} {node : Node} (h : Reads (.object es) node)
    (hes : (Value.object es).isJson = true) (hguides : Guides es) : node.Guided := by
  have habout := Presentation.isAuthored_of_guides hes hguides h.presentation_eq
  rcases h.kept hes with hkept | hkept
  · apply Node.guided_of_kept _ habout
    rw [hkept]
    exact hguides
  · exact (Node.guided_iff_of_kept_eq_nil hkept).mpr habout

/-! ## Written trees -/

/-- A written tree is accepted exactly when its written fields follow their guidance. -/
theorem Tree.authored_toValue_iff {t : Tree} :
    Authored t.toValue ↔ ∀ kid ∈ t.properties, kid.2.Guided := by
  obtain ⟨dialect, about, properties, required, more⟩ := t
  have htype : Value.lookup (.name "type") (objectEntries (whenStated "$schema" .string dialect ++
      [("type", .string objectType)]) about (childValues properties) required more) =
        some (.string objectType) := by
    cases dialect <;> rfl
  have hproperties : Value.lookup (.name "properties") (objectEntries
      (whenStated "$schema" .string dialect ++ [("type", .string objectType)]) about
      (childValues properties) required more) = some (.record (childValues properties)) :=
    lookup_properties_objectEntries (sublist_keys_before dialect)
  constructor
  · rintro ⟨es, hes, -, hchildren⟩ kid hkid
    cases hes
    obtain ⟨children, hvalues, hguided⟩ := hchildren _ hproperties
    cases hvalues
    apply hguided (.name kid.1, kid.2.toValue)
    rw [childValues_eq_map, Value.named, List.map_map]
    exact List.mem_map_of_mem hkid
  · intro h
    refine ⟨_, rfl, htype, ?_⟩
    intro v hv
    rw [hproperties] at hv
    cases hv
    refine ⟨_, rfl, ?_⟩
    intro child hchild
    rw [childValues_eq_map, Value.named, List.map_map] at hchild
    obtain ⟨kid, hkid, rfl⟩ := List.mem_map.mp hchild
    exact h kid hkid

end ExtractionSchema.Wire
