import ExtractionSchema.Proofs.Compilation
import ExtractionSchema.Proofs.Gate.Partition
import ExtractionSchema.Proofs.Record.Conformance

/-!
# The shallow gate and the deep gate

The shallow gate looks at a schema as it is written, the validator at the contract of the tree that
was read from it. On a record that the validator accepts the two differ in one place only: the tree
takes a required name that stands there as bytes for the text that they write, and the shallow gate
looks the bytes up as they are. Apart from that the required fields of such a record are there, and
each of its fields is of the kind that the shallow gate asks for. So the deep gate, which asks both,
lets through exactly the records with entries that the validator accepts.

* `Gate.fieldError_eq_none`: a field that fits its node passes the shallow gate.
* `Gate.exists_rejection`: the verdicts of both gates on a candidate, and
  `Gate.rejection_deep_eq_none_iff` what the deep gate asks for.
* `screen_deep`: the valid candidates of the deep gate, and the errors that only it gives.
* `screen_deep_bytes_name`: a required name in bytes keeps a valid record out.
-/

namespace ExtractionSchema

open Wire

/-! ## Names that a definition states -/

/-- The definition states none of the required names of its root as bytes. The tree reads bytes as
the text that they write, and the gate looks them up as they are; JSON has no bytes. -/
def Wire.StatesNoBytes (definition : Value) : Prop :=
  ∀ entries, definition = .object entries →
    ∀ content, Value.foreign (.bytes content) ∉ statedNames entries

namespace Wire

theorem statesNoBytes_of_isJson {definition : Value} (h : definition.isJson = true) :
    StatesNoBytes definition := by
  rintro entries rfl content hmem
  rcases statedNames_eq_nil_or entries with hnil | hlookup
  · simp [hnil] at hmem
  · have hcontent := Value.isJson_list.mp (Value.isJson_of_lookup h hlookup) _ hmem
    cases hcontent

/-! ## Kinds of nodes -/

/-- The kind of values that a node asks for. -/
def Node.kind? : Node → Option Kind
  | .primitive _ kind _ => some kind.kind
  | .array _ _ => some .array
  | .object _ _ _ _ => some .object
  | .unknown _ _ _ => none

theorem Node.admits_of_violations {node : Node} {kind : Kind} (hkind : node.kind? = some kind)
    {nullable : Bool} {w : Value} (h : (node.contract nullable).violations w = []) :
    kind.admits w = true ∨ (nullable = true ∧ w = .null) := by
  have hrules : ∃ rest, node.contract nullable = .rules (kindRule kind nullable :: rest) := by
    cases node with
    | primitive about kind' limits =>
      cases hkind
      exact ⟨_, rfl⟩
    | array about items =>
      cases hkind
      exact ⟨_, rfl⟩
    | object about properties required additional =>
      cases hkind
      exact ⟨_, rfl⟩
    | unknown about type raw => cases hkind
  obtain ⟨rest, hrules⟩ := hrules
  rw [hrules, Contract.violations_eq_nil_iff] at h
  exact kindRule_eq_nil_iff.mp (h _ List.mem_cons_self)

/-- A node is read from an object that states its type. -/
theorem Reads.exists_entries {v : Value} {node : Node} (h : Reads v node) :
    ∃ es, v = .object es ∧ Value.lookup (.name "type") es = some (.string node.type) := by
  have hget : ∃ es, v = .object es ∧ Value.getD es "type" = .string node.type := by
    cases h with
    | primitive htype _ _ => exact ⟨_, rfl, htype⟩
    | array htype _ _ _ => exact ⟨_, rfl, htype⟩
    | object htype _ _ _ _ _ => exact ⟨_, rfl, htype⟩
    | unknown htype _ _ _ _ _ _ => exact ⟨_, rfl, htype⟩
  obtain ⟨es, rfl, hget⟩ := hget
  exact ⟨es, rfl, Value.getD_eq_string_iff.mp hget⟩

/-- The gate knows the types of all nodes but those of unknown types. -/
theorem Reads.lookup_kinds {v : Value} {node : Node} (h : Reads v node) :
    Gate.kinds.lookup node.type = node.kind? := by
  cases h with
  | @primitive _ _ kind _ _ _ _ => cases kind <;> rfl
  | array _ _ _ _ => rfl
  | object _ _ _ _ _ _ => rfl
  | @unknown _ _ type _ _ _ hname harray hobject _ _ =>
    simp only [Primitive.ofName?, Primitive.names, List.lookup_eq_none_iff, List.forall_mem_cons]
      at hname
    obtain ⟨h1, h2, h3, h4, -⟩ := hname
    have h5 : (type != "array") = true := bne_iff_ne.mpr harray
    have h6 : (type != "object") = true := bne_iff_ne.mpr hobject
    refine List.lookup_eq_none_iff.mpr ?_
    simp only [Gate.kinds, List.forall_mem_cons]
    exact ⟨h1, h2, h3, h4, h5, h6, by simp⟩

end Wire

namespace Gate

/-! ## Fields and required names -/

theorem mem_kinds_of_lookup {type : String} {kind : Kind} (h : kinds.lookup type = some kind) :
    (type, kind) ∈ kinds := by
  obtain ⟨before, after, hkinds, -⟩ := List.lookup_eq_some_iff.mp h
  rw [hkinds]
  simp

theorem admits_null_of_lookup {type : String} {kind : Kind} (h : kinds.lookup type = some kind) :
    kind.admits .null = false := by
  have hall : ∀ known ∈ kinds, known.2.admits .null = false := by decide
  exact hall _ (mem_kinds_of_lookup h)

/-- A required name of a gate, and what the tree makes of it: a text stands for itself, and bytes
may stand for any text. -/
def Stands (required : List String) (v : Value) : Prop :=
  (∃ name, v = .string name ∧ name ∈ required) ∨ ∃ content, v = .foreign (.bytes content)

theorem stands_of_requiredNames {names : List Value} {required : List String}
    (h : requiredNames names = .ok required) : ∀ v ∈ names, Stands required v := by
  rw [requiredNames, Checked.under_eq_ok_iff, Checked.each_eq_ok_iff] at h
  induction h with
  | nil => simp
  | @cons v s names required hv hrest ih =>
    refine List.forall_mem_cons.mpr ⟨?_, fun w hw => ?_⟩
    · unfold Reading.text at hv
      split at hv
      · cases hv
        exact .inl ⟨s, rfl, List.mem_cons_self⟩
      · exact .inr ⟨_, rfl⟩
      · cases hv
    · exact (ih w hw).imp_left fun ⟨t, ht, hmem⟩ => ⟨t, ht, List.mem_cons_of_mem _ hmem⟩

section Names

variable {stated : List Value} {required : List String} (hstated : ∀ v ∈ stated, Stands required v)

include hstated

theorem mem_required_of_any_same {name : String}
    (h : stated.any (fun v => v.key?.any (·.same (.name name))) = true) : name ∈ required := by
  obtain ⟨v, hv, hsame⟩ := List.any_eq_true.mp h
  rcases hstated v hv with ⟨other, rfl, hmem⟩ | ⟨content, rfl⟩
  · have heq : Key.name other = Key.name name := of_decide_eq_true hsame
    cases heq
    exact hmem
  · have heq : Key.foreign (.bytes content) = Key.name name := of_decide_eq_true hsame
    cases heq

/-- A field that fits its node passes the shallow gate. -/
theorem fieldError_eq_none {entries : Value.Entries} {name : String} {s : Value} {node : Node}
    (hread : Reads s node)
    (hfits : ∀ w, Value.lookup (.name name) entries = some w →
      (node.contract (!required.contains name)).violations w = []) :
    fieldError stated entries (.name name) s = none := by
  obtain ⟨es, rfl, htype⟩ := hread.exists_entries
  unfold fieldError
  rw [Value.get?, htype]
  cases hw : Value.lookup (.name name) entries with
  | none => rfl
  | some w =>
    cases hkind : kinds.lookup node.type with
    | none => simp [Value.string?, hkind]
    | some kind =>
      have hnull := admits_null_of_lookup hkind
      rw [hread.lookup_kinds] at hkind
      simp only [Value.string?, hread.lookup_kinds, hkind, Option.bind_eq_bind, Option.bind_some]
      rcases Node.admits_of_violations hkind (hfits w hw) with hadmits | ⟨hfree, rfl⟩
      -- `null` is of no kind of its own, so the gate's first branch is out of reach here.
      · have hne : w ≠ .null := by
          rintro rfl
          rw [hnull] at hadmits
          cases hadmits
        rw [if_neg fun h => hne h.1, if_pos ⟨hne, hadmits⟩]
      · have hnot : name ∉ required := by simpa using hfree
        rw [if_pos ⟨rfl, fun hsame => hnot (mem_required_of_any_same hstated hsame)⟩]

/-! ## The shallow gate -/

/-- Required names can be looked up and written, so the shallow gate always finds out whether one
is missing. -/
theorem exists_missingError (entries : Value.Entries) :
    ∃ error, missingError entries stated = .ok error ∧
      ((∀ v ∈ stated, isKeyOf entries v = true) → error = none) := by
  induction stated with
  | nil => exact ⟨none, rfl, fun _ => rfl⟩
  | cons v stated ih =>
    rw [List.forall_mem_cons] at hstated
    have hplain : unkeyedKind v = none ∧ v.isShowable = true := by
      rcases hstated.1 with ⟨name, rfl, -⟩ | ⟨content, rfl⟩ <;> exact ⟨rfl, rfl⟩
    rw [missingError, hplain.1, List.forall_mem_cons]
    cases hkey : isKeyOf entries v with
    | true =>
      obtain ⟨error, hok, hnone⟩ := ih hstated.2
      exact ⟨error, hok, fun h => hnone h.2⟩
    | false =>
      rw [hplain.2]
      exact ⟨_, rfl, by simp⟩

end Names

theorem isKeyOf_string {entries : Value.Entries} (hentries : ∀ e ∈ entries, ∃ s, e.1 = .name s)
    (name : String) :
    isKeyOf entries (.string name) = (Value.lookup (.name name) entries).isSome := by
  rw [isKeyOf, Value.key?, Option.any_some, Value.lookupSame_of_names hentries]

/-- The shallow gate asks for the required names that the definition states, and looks at its
children. -/
theorem schemaError_object (es entries : Value.Entries) :
    schemaError (.object es) entries =
      match Value.lookup (.name "properties") es with
      | some (.object children) => do
        match ← missingError entries (statedNames es) with
        | some error => return some error
        | none =>
          return children.findSome? fun (field, s) => fieldError (statedNames es) entries field s
      | _ => .ok none := by
  unfold schemaError statedNames Value.getD Value.get?
  dsimp only
  cases Value.lookup (.name "properties") es with
  | none => rfl
  | some v =>
    cases v with
    | object children =>
      cases Value.lookup (.name "required") es with
      | none => rfl
      | some w => cases w <;> rfl
    | _ => rfl

/-- The shallow gate gives a verdict on every candidate, and lets one through whose required fields
are there and whose fields fit. -/
theorem exists_schemaError {entries es : Value.Entries} {required : List String}
    (hstated : ∀ v ∈ statedNames es, Stands required v) :
    ∃ error, schemaError (.object es) entries = .ok error ∧
      ((∀ v ∈ statedNames es, isKeyOf entries v = true) →
        (∀ field ∈ members es,
          fieldError (statedNames es) entries field.1 field.2 = none) → error = none) := by
  rw [schemaError_object]
  split
  · rename_i children hchildren
    have hmembers : members es = children := by simp [members, Value.getD, hchildren]
    rw [hmembers]
    obtain ⟨error, hok, hnone⟩ := exists_missingError hstated entries
    rw [hok]
    cases error with
    | some error =>
      refine ⟨_, rfl, fun hthere _ => ?_⟩
      cases hnone hthere
    | none =>
      refine ⟨_, rfl, fun _ hfits => ?_⟩
      exact List.findSome?_eq_none_iff.mpr hfits
  · exact ⟨none, rfl, fun _ _ => rfl⟩

/-! ## Verdicts -/

/-- The shallow gate with a definition lets through what the contract of its tree accepts, unless
a required name of the definition stands there as bytes. -/
theorem exists_schemaError_of_ofValue {definition : Value} {t : Tree}
    (hread : Tree.ofValue definition = .ok t) {entries : Value.Entries}
    (hentries : ∀ e ∈ entries, ∃ s, e.1 = Key.name s) :
    ∃ error, schemaError definition entries = .ok error ∧
      (StatesNoBytes definition → t.contract.violations (.object entries) = [] → error = none) := by
  have hreads := Tree.reads_of_ofValue hread
  rw [Tree.root] at hreads
  cases hreads with
  | @object es _ children _ _ _ _ _ hchildren hkids hrequired _ =>
    -- The names and the children that the gate reads are those that the tree was made from.
    have hstated := stands_of_requiredNames hrequired
    obtain ⟨error, hok, hnone⟩ := exists_schemaError hstated
    refine ⟨error, hok, fun hbytes hvalid => ?_⟩
    obtain ⟨-, hfit, hrules, -⟩ := Node.violations_object_eq_nil_iff.mp hvalid
    obtain ⟨hthere, -⟩ := entryRules_eq_nil_iff.mp hrules entries rfl
    refine hnone (fun v hv => ?_) fun field hfield => ?_
    · rcases hstated v hv with ⟨name, rfl, hmem⟩ | ⟨content, rfl⟩
      · obtain ⟨w, hw⟩ := hthere name hmem
        rw [isKeyOf_string hentries, hw]
        rfl
      · exact absurd hv (hbytes es rfl content)
    · obtain ⟨k, s⟩ := field
      by_cases hk : ∃ name, k = .name name
      · obtain ⟨name, rfl⟩ := hk
        obtain ⟨node, hnode, hreads⟩ := hchildren.exists_of_mem hfield
        have hkid := mem_childNames_of_mem hkids hnode
        exact fieldError_eq_none hstated hreads fun w hw => hfit entries rfl _ hkid w hw
      · have habsent : Value.lookup k entries = none := by
          cases hw : Value.lookup k entries with
          | none => rfl
          | some w => exact absurd (hentries _ (Value.mem_of_lookup hw)) hk
        rw [fieldError, habsent]
        rfl

end Gate

/-- Whether a value is an object with at least one entry. -/
def Value.isNonEmptyObject : Value → Bool
  | .object (_ :: _) => true
  | _ => false

theorem Compiled.written?_eq {settings : Settings} {definition : Value} {companions : Companions}
    {c : CompiledSchema} (h : Compiled settings definition companions c) :
    (GateSchema.compiled c).written? = some definition := by
  have htruthy : definition.truthy = true := by
    obtain ⟨es, rfl, htype⟩ := (Tree.reads_of_ofValue h.tree).exists_entries
    cases es with
    | nil => cases htype
    | cons e es => rfl
  rw [GateSchema.written?, h.definition_eq, if_pos htruthy]

namespace Gate

section Verdicts

variable {settings : Settings} {definition : Value} {companions : Companions} {c : CompiledSchema}
  (hc : Compiled settings definition companions c) (hshow : definition.isShowable = true)
  {v : Value} (hv : v.isJson = true ∧ v.isShowable = true ∧ v.hasShortLists = true)

include hc hshow hv

/-- Both gates give a verdict on every candidate. The deep gate adds nothing but the first mismatch,
and where the validator accepts an object with entries, the shallow gate does, unless a required
name stands there as bytes. -/
theorem exists_rejection :
    ∃ shallow, rejection false (.compiled c) v = .ok shallow ∧
      rejection true (.compiled c) v = .ok (shallow.or
        ((firstMismatch c.contract v).map fun m => "Schema validation failed: " ++ m.text)) ∧
      (shallow = none → v.isNonEmptyObject = true) ∧
      (StatesNoBytes definition → v.isNonEmptyObject = true → c.validate v = [] →
        shallow = none) := by
  obtain ⟨hjson, hshown, hlists⟩ := hv
  have hobstacle : c.contract.obstacle v = none := by
    rw [hc.contract]
    exact Contract.obstacle_eq_none (Tree.showable_contract hshow hc.tree) hshown hlists
  cases v with
  | object entries =>
    cases entries with
    | nil => exact ⟨some _, rfl, rfl, by simp, by simp [Value.isNonEmptyObject]⟩
    | cons e es =>
      have hentries := fun e he => (Value.isJson_object.mp hjson e he).1
      obtain ⟨error, hok, hnone⟩ := exists_schemaError_of_ofValue hc.tree hentries
      refine ⟨error, ?_, ?_, fun _ => rfl, fun hbytes _ hvalid => hnone hbytes ?_⟩
      · simp only [rejection, structureError, hc.written?_eq, hok]
        cases error <;> rfl
      · simp only [rejection, structureError, hc.written?_eq, hok, deepError, hobstacle]
        cases error <;> rfl
      · rw [CompiledSchema.validate, validate_eq_nil_iff, Contract.accepts_iff, hc.contract]
          at hvalid
        exact hvalid
  | null | bool _ | number _ | string _ | list _ | foreign _ | set _ | pair _ _ | enclosing _ =>
    exact ⟨some _, rfl, rfl, by simp, by simp [Value.isNonEmptyObject]⟩

/-- The deep gate asks what the shallow gate asks, and the validator. -/
theorem rejection_deep_eq_none_iff : rejection true (.compiled c) v = .ok none ↔
    rejection false (.compiled c) v = .ok none ∧ c.validate v = [] := by
  obtain ⟨verdict, hverdict, hverdict', -⟩ := exists_rejection hc hshow hv
  rw [hverdict, hverdict', Except.ok.injEq, Except.ok.injEq, Option.or_eq_none_iff,
    Option.map_eq_none_iff, firstMismatch, List.head?_eq_none_iff]
  rfl

/-- Unless a required name stands there as bytes, the deep gate asks for entries and the validator
only: the shallow gate adds nothing. -/
theorem rejection_deep_eq_none_iff_validate (hbytes : StatesNoBytes definition) :
    rejection true (.compiled c) v = .ok none ↔
      v.isNonEmptyObject = true ∧ c.validate v = [] := by
  obtain ⟨verdict, hverdict, -, hobject, haccepts⟩ := exists_rejection hc hshow hv
  rw [rejection_deep_eq_none_iff hc hshow hv, hverdict, Except.ok.injEq]
  constructor
  · rintro ⟨rfl, hvalid⟩
    exact ⟨hobject rfl, hvalid⟩
  · rintro ⟨hthere, hvalid⟩
    exact ⟨haccepts hbytes hthere hvalid, hvalid⟩

/-- Where the deep gate rejects and the shallow gate does not, the error is the first mismatch. -/
theorem exists_firstMismatch_of_rejection {error : String}
    (hpassed : rejection false (.compiled c) v = .ok none)
    (herror : rejection true (.compiled c) v = .ok (some error)) :
    ∃ m, firstMismatch c.contract v = some m ∧
      error = "Schema validation failed: " ++ m.text := by
  obtain ⟨verdict, hverdict, hverdict', -⟩ := exists_rejection hc hshow hv
  rw [hverdict, Except.ok.injEq] at hpassed
  rw [hverdict', hpassed, Option.none_or, Except.ok.injEq, Option.map_eq_some_iff] at herror
  obtain ⟨m, hm, herror⟩ := herror
  exact ⟨m, hm, herror.symm⟩

end Verdicts

end Gate

/-! ## Batches -/

/-- The deep gate with a compiled schema is the shallow gate with the validator behind it. If no
required name of the definition stands there as bytes, it lets through exactly the objects with
entries that the validator accepts, in the order of the batch. The error of a candidate that only
the deep gate rejects is its first mismatch. -/
theorem screen_deep {settings : Settings} {definition : Value} {companions : Companions}
    {c : CompiledSchema} {batch : List Value}
    (hc : compile settings definition companions = .ok c) (hshow : definition.isShowable = true)
    (hbatch : ∀ v ∈ batch, v.isJson = true ∧ v.isShowable = true ∧ v.hasShortLists = true) :
    ∃ deep shallow, (screen true (.compiled c) batch).toExcept = .ok deep ∧
      (screen false (.compiled c) batch).toExcept = .ok shallow ∧
      deep.valid = shallow.valid.filter (fun v => (c.validate v).isEmpty) ∧
      (StatesNoBytes definition →
        deep.valid = batch.filter (fun v => v.isNonEmptyObject && (c.validate v).isEmpty)) ∧
      ∀ e ∈ deep.rejections, e.data ∈ shallow.valid →
        ∃ m, firstMismatch c.contract e.data = some m ∧
          e.error = "Schema validation failed: " ++ m.text := by
  have hcompiled := compile_eq_ok_iff.mp hc
  obtain ⟨deep, hdeep⟩ := Screened.exists_of_forall (fun v hv => by
    obtain ⟨_, -, hverdict, -⟩ := Gate.exists_rejection hcompiled hshow (hbatch v hv)
    exact ⟨_, hverdict⟩) 0
  obtain ⟨shallow, hshallow⟩ := Screened.exists_of_forall (fun v hv => by
    obtain ⟨_, hverdict, -⟩ := Gate.exists_rejection hcompiled hshow (hbatch v hv)
    exact ⟨_, hverdict⟩) 0
  refine ⟨deep, shallow, toExcept_screen_eq_ok_iff.mpr hdeep,
    toExcept_screen_eq_ok_iff.mpr hshallow,
    hdeep.valid_eq_filter_valid hshallow fun v hv => ?_,
    fun hbytes => hdeep.valid_eq_filter fun v hv => ?_, fun e he hpassed => ?_⟩
  · rw [List.isEmpty_iff]
    exact Gate.rejection_deep_eq_none_iff hcompiled hshow (hbatch v hv)
  · rw [Bool.and_eq_true, List.isEmpty_iff]
    exact Gate.rejection_deep_eq_none_iff_validate hcompiled hshow (hbatch v hv) hbytes
  · obtain ⟨-, -, herror⟩ := hdeep.of_mem_rejections e he
    obtain ⟨hmem, hnone⟩ := hshallow.mem_valid_iff.mp hpassed
    exact Gate.exists_firstMismatch_of_rejection hcompiled hshow (hbatch _ hmem) hnone herror

/-- A record that conforms to `sampleTree`, one of the right kinds that breaks a bound, an empty
object, one without the required field, and one of a wrong kind. -/
def mixedBatch : List Value :=
  [sampleRecord, .record [("count", .int 0)], .object [], .record [("due", .null)],
    .record [("count", .bool true)]]

theorem screen_deep_mixed :
    ∃ c deep shallow, compile {} sampleTree {} = .ok c ∧
      (screen true (.compiled c) mixedBatch).toExcept = .ok deep ∧
      (screen false (.compiled c) mixedBatch).toExcept = .ok shallow ∧
      deep.valid = [sampleRecord] ∧ deep.valid.Sublist shallow.valid := by
  have hbatch : ∀ v ∈ mixedBatch,
      v.isJson = true ∧ v.isShowable = true ∧ v.hasShortLists = true := by decide +kernel
  have hok : (match compile {} sampleTree {} with
      | .ok c => decide (mixedBatch.filter (fun v => v.isNonEmptyObject && c.contract.accepts v) =
          [sampleRecord])
      | .error _ => false) = true := by decide +kernel
  cases hc : compile {} sampleTree {} with
  | error _ => simp [hc] at hok
  | ok c =>
    rw [hc] at hok
    obtain ⟨deep, shallow, hdeep, hshallow, hvalid, hexact, -⟩ := screen_deep hc rfl hbatch
    refine ⟨c, deep, shallow, rfl, hdeep, hshallow, ?_, ?_⟩
    · rw [hexact (statesNoBytes_of_isJson rfl)]
      simp only [CompiledSchema.validate, isEmpty_validate]
      exact of_decide_eq_true hok
    · rw [hvalid]
      exact List.filter_sublist

/-- A definition whose required name stands there as bytes, as `!!binary` in YAML gives them. -/
def bytesNameTree : Value :=
  .record [("type", .string "object"),
    ("properties", .record [("a", .record [("type", .string "string")])]),
    ("required", .list [.foreign (.bytes [97])])]

/-- A record with a text under the name that the bytes write. -/
def namedRecord : Value := .record [("a", .string "x")]

/-- The validator takes bytes in place of a required name for the text that they write, the shallow
gate does not: so the deep gate rejects a record that the validator accepts. -/
theorem screen_deep_bytes_name :
    ∃ c deep, compile {} bytesNameTree {} = .ok c ∧ namedRecord.isNonEmptyObject = true ∧
      c.validate namedRecord = [] ∧
      (screen true (.compiled c) [namedRecord]).toExcept = .ok deep ∧ deep.valid = [] ∧
      deep.rejections.map Rejection.error = ["Missing required field: b'a'"] := by
  have hok : (match compile {} bytesNameTree {} with
      | .ok c => (c.validate namedRecord).isEmpty &&
          match (screen true (.compiled c) [namedRecord]).toExcept with
          | .ok deep => deep.valid.isEmpty &&
              deep.rejections.map Rejection.error == ["Missing required field: b'a'"]
          | .error _ => false
      | .error _ => false) = true := by decide +kernel
  cases hc : compile {} bytesNameTree {} with
  | error _ => simp [hc] at hok
  | ok c =>
    rw [hc] at hok
    obtain ⟨haccepts, hok⟩ := Bool.and_eq_true_iff.mp hok
    cases hdeep : (screen true (.compiled c) [namedRecord]).toExcept with
    | error _ => simp [hdeep] at hok
    | ok deep =>
      rw [hdeep] at hok
      obtain ⟨hvalid, herrors⟩ := Bool.and_eq_true_iff.mp hok
      exact ⟨c, deep, rfl, rfl, List.isEmpty_iff.mp haccepts, hdeep, List.isEmpty_iff.mp hvalid,
        eq_of_beq herrors⟩

end ExtractionSchema
