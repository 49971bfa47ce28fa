import ExtractionSchema.Proofs.Property.Conformance
import ExtractionSchema.Proofs.Wire.NormalForm

/-!
# Trees in memory and compiled trees

The tree of a property list may be used as it was made, or compiled: written first, and read again.
The two agree on all records as long as no field states the type of objects. A field that does is a
node of an unknown type in memory, which admits every value, and an object once it was read; the
compiled tree accepts fewer records then.

* `Node.violations_of_reread`: whatever a node that is read again accepts, the node accepts.
* `probe` is a value of a shape that is no object where an object is asked for.
* `compileProperties_agrees_iff`: the compiled tree accepts no more than the tree in memory, and the
  two agree exactly when no field and no nested field states the type of objects.
-/

namespace ExtractionSchema

open Conversion Wire

/-! ## A node read again accepts no more -/

namespace Wire

mutual

/-- What a node accepts once it is written and read again, it accepts before. -/
theorem Node.violations_of_reread : (node : Node) → (nullable : Bool) → (v : Value) →
    (node.reread.contract nullable).violations v = [] → (node.contract nullable).violations v = []
  | .primitive about kind limits, _, _, h => h
  | .array about items, nullable, v, h => by
    rw [Node.reread] at h
    rw [Node.contract, Contract.violations_eq_nil_iff, List.forall_mem_append, List.forall_mem_cons,
      List.forall_mem_singleton, Rule.items_eq_nil_iff] at h ⊢
    obtain ⟨⟨hkind, hitems⟩, henum⟩ := h
    refine ⟨⟨hkind, fun vs hvs w hw => ?_⟩, henum⟩
    exact Node.violations_of_reread items false w (hitems vs hvs w hw)
  | .object about properties required additional, nullable, v, h => by
    have hnames : (rereadAll properties).map (·.1) = properties.map (·.1) := by
      rw [rereadAll_eq_map, List.map_map]
      rfl
    rw [Node.reread, Node.violations_object_eq_nil_iff, hnames] at h
    rw [Node.violations_object_eq_nil_iff]
    obtain ⟨hkind, hkids, hrules⟩ := h
    refine ⟨hkind, fun entries hentries => ?_, hrules⟩
    exact violations_of_rereadAll properties required entries (hkids entries hentries)
  | .unknown about type raw, nullable, v, _ => by
    rw [Node.contract, Contract.violations_eq_nil_iff]
    simp

theorem violations_of_rereadAll : (kids : Properties) → (required : List String) →
    (entries : Value.Entries) →
    (∀ kid ∈ rereadAll kids, ∀ w, Value.lookup (.name kid.1) entries = some w →
      (kid.2.contract (!required.contains kid.1)).violations w = []) →
    ∀ kid ∈ kids, ∀ w, Value.lookup (.name kid.1) entries = some w →
      (kid.2.contract (!required.contains kid.1)).violations w = []
  | [], _, _, _ => by simp
  | (name, node) :: rest, required, entries, h => by
    rw [rereadAll, List.forall_mem_cons] at h
    rw [List.forall_mem_cons]
    refine ⟨fun w hw => ?_, violations_of_rereadAll rest required entries h.2⟩
    exact Node.violations_of_reread node _ w (h.1 w hw)

end

end Wire

/-! ## Fields that hide no object -/

theorem SimpleShape.hidesNoObject_node {about : Presentation} {shape : SimpleShape}
    (h : shape.type ≠ objectType) : (shape.node about).HidesNoObject := by
  cases shape with
  | list item => cases item <;> trivial
  | plain type =>
    unfold SimpleShape.node
    dsimp only
    split
    · trivial
    · split
      · trivial
      · exact h

theorem Shape.hidesNoObject_node {about : Presentation} {shape : Shape}
    (h : objectType ∉ shape.types) : (shape.node about).HidesNoObject := by
  cases shape with
  | simple shape =>
    refine SimpleShape.hidesNoObject_node fun htype => h ?_
    exact List.mem_singleton.mpr htype.symm
  | objects fields =>
    refine allHideNoObject_iff.mpr (forall_childrenFrom (P := Node.HidesNoObject) ?_)
    intro about f hf
    refine SimpleShape.hidesNoObject_node fun htype => h ?_
    exact List.mem_cons_of_mem _ (List.mem_map.mpr ⟨f, hf, htype⟩)

theorem Wire.Tree.allHideNoObject_ofProperties {ps : List Property}
    (h : ∀ p ∈ ps, objectType ∉ p.shape.types) :
    AllHideNoObject (Wire.Tree.ofProperties ps).properties :=
  allHideNoObject_iff.mpr (forall_childrenFrom (P := Node.HidesNoObject)
    fun _ p hp => Shape.hidesNoObject_node (h p hp))

/-! ## Records that tell the trees apart -/

/-- A value of a simple shape; for a type without a node of its own, it is no object. -/
def SimpleShape.probe : SimpleShape → Value
  | .list _ => .list []
  | .plain type =>
    if type = dateType then .string "2000-01-01"
    else
      match Primitive.ofName? type with
      | some .string => .string ""
      | some .number | some .integer => .int 0
      | some .boolean | none => .bool true

/-- The object of the probes of some fields. -/
def probeOf {α : Type} (info : α → FieldInfo) (probe : α → Value) (ps : List α) : Value :=
  .record (ps.map fun p => ((info p).name, probe p))

/-- A value of a shape; a list of objects has one element. -/
def Shape.probe : Shape → Value
  | .simple shape => shape.probe
  | .objects fields => .list [probeOf NestedProperty.info (fun f => f.shape.probe) fields]

section Children

variable {α : Type} {info : α → FieldInfo} {node : Presentation → α → Node} {probe : α → Value}
  {ps : List α} {about : Presentation} {nullable : Bool}

theorem lookup_probeOf (hnames : (ps.map fun p => (info p).name).Nodup) {p : α} (hp : p ∈ ps) :
    Value.lookup (.name (info p).name)
      (Value.named (ps.map fun p => ((info p).name, probe p))) = some (probe p) := by
  refine Value.lookup_named_of_mem ?_ (List.mem_map.mpr ⟨p, hp, rfl⟩)
  rw [List.map_map]
  exact hnames

/-- The object of fields accepts their probes if each field accepts its own. -/
theorem violations_probeOf (habout : about.enum = none)
    (hnames : (ps.map fun p => (info p).name).Nodup)
    (hnode : ∀ p ∈ ps, ∀ about nullable, about.enum = none →
      ((node about p).contract nullable).violations (probe p) = []) :
    ((Node.object about (childrenFrom info node 0 ps) (requiredOf info ps) none).contract
      nullable).violations (probeOf info probe ps) = [] := by
  rw [Node.violations_object_eq_nil_iff, probeOf, Value.record]
  refine ⟨kindRule_eq_nil_iff.mpr (.inl rfl), ?_, entryRules_eq_nil_iff.mpr ?_, ?_⟩
  · rintro _ ⟨⟩ kid hkid w hw
    obtain ⟨p, hp, j, rfl⟩ := exists_of_mem_childrenFrom hkid
    rw [lookup_probeOf hnames hp] at hw
    cases hw
    exact hnode p hp _ _ rfl
  · rintro _ ⟨⟩
    refine ⟨fun name hname => ?_, by simp⟩
    obtain ⟨p, hp, rfl⟩ := List.mem_map.mp hname
    exact ⟨_, lookup_probeOf hnames (List.mem_of_mem_filter hp)⟩
  · simp [enumRule, habout]

/-- The object of fields, written and read again, refuses their probes if one field refuses its
own. -/
theorem violations_probeOf_reread (hnames : (ps.map fun p => (info p).name).Nodup) {p : α}
    (hp : p ∈ ps) (hnode : ∀ about nullable,
      ((node about p).reread.contract nullable).violations (probe p) ≠ []) :
    ((Node.object about (rereadAll (childrenFrom info node 0 ps)) (requiredOf info ps)
      none).contract nullable).violations (probeOf info probe ps) ≠ [] := by
  rw [ne_eq, Node.violations_object_eq_nil_iff, probeOf, Value.record, rereadAll_eq_map]
  rintro ⟨-, hkids, -, -⟩
  obtain ⟨j, hmem⟩ : ∃ j, ((info p).name, node ((info p).presentation j) p) ∈
      childrenFrom info node 0 ps := exists_mem_childrenFrom hp
  have hkid := hkids _ rfl _ (List.mem_map_of_mem hmem) _ (lookup_probeOf hnames hp)
  exact hnode _ _ hkid

end Children

section Shapes

variable {about : Presentation} (h : about.enum = none) {nullable : Bool}

include h

theorem violations_primitive {kind : Primitive} {limits : Bounds} {v : Value}
    (hkind : kind.Holds v) (hlimits : limits.Hold kind v) :
    ((Node.primitive about kind limits).contract nullable).violations v = [] := by
  rw [Node.contract, Contract.violations_eq_nil_iff, List.forall_mem_append, List.forall_mem_cons]
  refine ⟨⟨kindRule_eq_nil_iff.mpr (.inl (Primitive.admits_iff.mpr hkind)),
    boundRules_eq_nil_iff.mpr hlimits⟩, ?_⟩
  simp [enumRule, h]

theorem violations_array {items : Node} {vs : List Value}
    (hitems : ∀ w ∈ vs, (items.contract false).violations w = []) :
    ((Node.array about items).contract nullable).violations (.list vs) = [] := by
  rw [Node.contract, Contract.violations_eq_nil_iff, List.forall_mem_append, List.forall_mem_cons,
    List.forall_mem_singleton, Rule.items_eq_nil_iff]
  refine ⟨⟨kindRule_eq_nil_iff.mpr (.inl rfl), ?_⟩, by simp [enumRule, h]⟩
  rintro _ ⟨⟩
  exact hitems

theorem SimpleShape.violations_probe (shape : SimpleShape) :
    ((shape.node about).contract nullable).violations shape.probe = [] := by
  cases shape with
  | list item => exact violations_array h (by simp)
  | plain type =>
    by_cases hdate : type = dateType
    · subst hdate
      have hform : IsDateForm "2000-01-01" := isDateText_iff.mp (by decide)
      refine violations_primitive h ⟨_, rfl⟩ ?_
      rintro _ ⟨⟩
      exact ⟨fun _ => hform, by simp, by simp⟩
    · unfold SimpleShape.node SimpleShape.probe
      simp only [if_neg hdate]
      cases Primitive.ofName? type with
      | none =>
        rw [Node.contract, Contract.violations_eq_nil_iff]
        simp
      | some kind =>
        cases kind with
        | integer => exact violations_primitive h ⟨_, rfl, 0, rfl⟩ (by simp [Bounds.Hold])
        | string | number | boolean =>
          exact violations_primitive h ⟨_, rfl⟩ (by simp [Bounds.Hold])

theorem Shape.violations_probe {shape : Shape} (hshape : shape.WellFormed) :
    ((shape.node about).contract nullable).violations shape.probe = [] := by
  cases shape with
  | simple shape => exact shape.violations_probe h
  | objects fields =>
    refine violations_array h fun w hw => ?_
    rw [List.mem_singleton.mp hw]
    exact violations_probeOf rfl hshape.2.2 fun f _ about nullable habout =>
      f.shape.violations_probe habout

end Shapes

theorem SimpleShape.violations_probe_reread {shape : SimpleShape} (h : shape.type = objectType)
    (about : Presentation) (nullable : Bool) :
    ((shape.node about).reread.contract nullable).violations shape.probe ≠ [] := by
  cases shape with
  | list item =>
    have hne : listType ≠ objectType := by decide
    exact absurd h hne
  | plain type =>
    obtain rfl : type = objectType := h
    have hnode : (SimpleShape.node about (.plain objectType)).reread =
      .object about [] [] none := rfl
    rw [hnode, ne_eq, Node.violations_object_eq_nil_iff, kindRule_eq_nil_iff]
    rintro ⟨hkind | ⟨-, hnull⟩, -⟩
    · cases hkind
    · cases hnull

theorem Shape.violations_probe_reread {shape : Shape} (hshape : shape.WellFormed)
    (h : objectType ∈ shape.types) (about : Presentation) (nullable : Bool) :
    ((shape.node about).reread.contract nullable).violations shape.probe ≠ [] := by
  cases shape with
  | simple shape =>
    exact SimpleShape.violations_probe_reread (List.mem_singleton.mp h).symm about nullable
  | objects fields =>
    rcases List.mem_cons.mp h with hlist | hmem
    · exact absurd hlist (by decide)
    obtain ⟨f, hf, htype⟩ := List.mem_map.mp hmem
    rw [Shape.node, Node.reread, Node.contract, ne_eq, Contract.violations_eq_nil_iff,
      List.forall_mem_append, List.forall_mem_cons, List.forall_mem_singleton,
      Rule.items_eq_nil_iff]
    rintro ⟨⟨-, hitems⟩, -⟩
    have hitem := hitems _ rfl _ (List.mem_singleton.mpr rfl)
    exact violations_probeOf_reread hshape.2.2 hf
      (fun about nullable => SimpleShape.violations_probe_reread htype about nullable) hitem

/-! ## Probes are records of JSON -/

theorem isDocument_probeOf {α : Type} {info : α → FieldInfo} {probe : α → Value} {ps : List α}
    (hnames : (ps.map fun p => (info p).name).Nodup)
    (hprobe : ∀ p ∈ ps, (probe p).isDocument = true) :
    (probeOf info probe ps).isDocument = true := by
  refine Value.isDocument_object.mpr ⟨?_, ?_⟩
  · have hkeys : (Value.named (ps.map fun p => ((info p).name, probe p))).map Prod.fst =
        (ps.map fun p => (info p).name).map Key.name := by
      simp [Value.named, Function.comp_def]
    rw [hkeys]
    exact hnames.map fun _ _ heq => Key.name.inj heq
  · intro e he
    obtain ⟨field, hfield, rfl⟩ := List.mem_map.mp he
    obtain ⟨p, hp, rfl⟩ := List.mem_map.mp hfield
    exact ⟨⟨_, rfl⟩, hprobe p hp⟩

theorem SimpleShape.isDocument_probe (shape : SimpleShape) : shape.probe.isDocument = true := by
  cases shape with
  | list item => rfl
  | plain type =>
    unfold SimpleShape.probe
    dsimp only
    split
    · rfl
    · split <;> rfl

theorem Shape.isDocument_probe {shape : Shape} (hshape : shape.WellFormed) :
    shape.probe.isDocument = true := by
  cases shape with
  | simple shape => exact shape.isDocument_probe
  | objects fields =>
    refine Value.isDocument_list.mpr fun w hw => ?_
    rw [List.mem_singleton.mp hw]
    exact isDocument_probeOf hshape.2.2 fun f _ => f.shape.isDocument_probe

/-! ## Where the trees agree -/

/-- A compiled property list accepts no more than the tree in memory, and the two agree, as
contracts and on all records, exactly when no field and no nested field states the type of
objects. -/
theorem compileProperties_agrees_iff {settings : Settings} {v : Value} {ps : List Property}
    {companions : Companions} {c : CompiledSchema} (hps : Property.listOfValue v = .ok ps)
    (hc : compileProperties settings ps companions = .ok c) :
    (∀ record, c.validate record = [] →
      validate (Wire.Tree.ofProperties ps).contract record = []) ∧
      (c.contract = (Wire.Tree.ofProperties ps).contract ↔
        ∀ p ∈ ps, objectType ∉ p.shape.types) ∧
      ((∀ record, record.isDocument = true → (c.validate record = [] ↔
        validate (Wire.Tree.ofProperties ps).contract record = [])) ↔
          ∀ p ∈ ps, objectType ∉ p.shape.types) := by
  obtain ⟨t, ht, hcontract⟩ := contract_of_compile hc
  obtain rfl := Wire.Tree.eq_reread_of_ofValue ht
  have hwell := Property.listOfValue_wellFormed hps
  have hvalidate : ∀ record, c.validate record =
      validate (Wire.Tree.ofProperties ps).reread.contract record := by
    intro record
    rw [CompiledSchema.validate, hcontract]
  have hequal : (∀ p ∈ ps, objectType ∉ p.shape.types) →
      c.contract = (Wire.Tree.ofProperties ps).contract := fun h =>
    hcontract.trans (Wire.Tree.contract_reread (Wire.Tree.allHideNoObject_ofProperties h))
  -- a field that states the type of objects is told by the record of all probes
  have hprobe : (∀ record, record.isDocument = true → (c.validate record = [] ↔
      validate (Wire.Tree.ofProperties ps).contract record = [])) →
        ∀ p ∈ ps, objectType ∉ p.shape.types := by
    intro hagree p hp htype
    have hdocument : (probeOf Property.info (fun p => p.shape.probe) ps).isDocument = true :=
      isDocument_probeOf hwell.names fun p hp => Shape.isDocument_probe (hwell.each p hp).shape
    have haccepts : ((Wire.Tree.ofProperties ps).contract).violations
        (probeOf Property.info (fun p => p.shape.probe) ps) = [] :=
      violations_probeOf rfl hwell.names fun p hp about nullable habout =>
        Shape.violations_probe habout (hwell.each p hp).shape
    have hrefuses : ((Wire.Tree.ofProperties ps).reread.contract).violations
        (probeOf Property.info (fun p => p.shape.probe) ps) ≠ [] :=
      violations_probeOf_reread hwell.names hp fun about nullable =>
        Shape.violations_probe_reread (hwell.each p hp).shape htype about nullable
    have hboth := hagree _ hdocument
    rw [hvalidate, validate_eq_nil_iff, validate_eq_nil_iff, Contract.accepts_iff,
      Contract.accepts_iff] at hboth
    exact hrefuses (hboth.mpr haccepts)
  refine ⟨fun record hrecord => ?_, ⟨fun heq => ?_, hequal⟩, hprobe, fun h record _ => ?_⟩
  · rw [hvalidate, validate_eq_nil_iff, Contract.accepts_iff] at hrecord
    rw [validate_eq_nil_iff, Contract.accepts_iff]
    exact Node.violations_of_reread (Wire.Tree.ofProperties ps).root false record hrecord
  · exact hprobe fun record _ => by rw [CompiledSchema.validate, heq]
  · rw [CompiledSchema.validate, hequal h]

/-- A property list of one field, of the type of objects, as it is written. -/
def objectDocument : Value :=
  .list [.record [("name", .string "a"), ("type", .string "object")]]

/-- The property list of the document. -/
def objectProperties : List Property := [
  { info := { name := "a", title := "a", description := "", importance := none,
              required := false, instructions := none, examples := none },
    shape := .simple (.plain "object") }]

theorem Property.listOfValue_objectDocument :
    Property.listOfValue objectDocument = .ok objectProperties := by
  rfl

theorem compileProperties_agrees_iff_object :
    ∃ c, compileProperties {} objectProperties {} = .ok c ∧
      c.contract ≠ (Wire.Tree.ofProperties objectProperties).contract := by
  have hok : (compileProperties {} objectProperties {}).isOk = true := by decide +kernel
  cases hc : compileProperties {} objectProperties {} with
  | error _ =>
    rw [hc] at hok
    cases hok
  | ok c =>
    obtain ⟨-, hequal, -⟩ := compileProperties_agrees_iff Property.listOfValue_objectDocument hc
    refine ⟨c, rfl, fun heq => ?_⟩
    exact hequal.mp heq _ List.mem_cons_self (List.mem_singleton.mpr rfl)

/-- A number under the name of the field is refused by the compiled list, and accepted in
memory. -/
theorem compileProperties_disagrees_object :
    ∃ c, compileProperties {} objectProperties {} = .ok c ∧
      (Value.record [("a", .int 1)]).isDocument = true ∧
      c.validate (.record [("a", .int 1)]) ≠ [] ∧
      validate (Wire.Tree.ofProperties objectProperties).contract
        (.record [("a", .int 1)]) = [] := by
  have hok : (match compileProperties {} objectProperties {} with
      | .ok c => !(c.validate (.record [("a", .int 1)])).isEmpty
      | .error _ => false) = true := by decide +kernel
  have haccepts : (validate (Wire.Tree.ofProperties objectProperties).contract
      (.record [("a", .int 1)])).isEmpty = true := by decide +kernel
  cases hc : compileProperties {} objectProperties {} with
  | error _ => simp [hc] at hok
  | ok c =>
    rw [hc] at hok
    refine ⟨c, rfl, rfl, fun hnil => ?_, List.isEmpty_iff.mp haccepts⟩
    simp [hnil] at hok

end ExtractionSchema
