import ExtractionSchema.Proofs.Contract.Author
import ExtractionSchema.Proofs.Contract.Sorted
import ExtractionSchema.Proofs.Value.Json.Size

/-!
# What is wrong with an author schema

The demands on a definition are listed as they are meant: those on itself, and those on the guidance
of every property, with the place and the breach of each. The contracts demand nothing else.

* `guidanceContract_demands_iff`: what is demanded of the guidance of a definition.
* `told_of_reordered`: the order of the keys of the properties, and of each property, is not seen.
* `collectAuthorIssues_exact`: the issues are the demands that are not met and the size, unless an
  integer of too many digits would have to be shown.
-/

namespace ExtractionSchema

open Violation

/-! ## What is demanded -/

/-- The demand seen from outside: one step further away. -/
def Demand.under (step : Step) (m : Demand) : Demand := ⟨step :: m.location, m.breach⟩

/-- What is demanded of a definition itself. -/
inductive IsOuterDemand : Demand → Prop
  | root : IsOuterDemand ⟨[], .kind [.object]⟩
  | typePresence : IsOuterDemand ⟨[], .missing "type" ["type"]⟩
  | type : IsOuterDemand ⟨[.name "type"], .notAllowed [.string "object"]⟩
  | properties : IsOuterDemand ⟨[.name "properties"], .kind [.object]⟩

/-- What is demanded of a definition before its guidance is looked at. -/
inductive IsShapeDemand : Demand → Prop
  | root : IsShapeDemand ⟨[], .kind [.object]⟩
  | properties : IsShapeDemand ⟨[.name "properties"], .kind [.object]⟩

theorem IsShapeDemand.isOuterDemand {m : Demand} (h : IsShapeDemand m) : IsOuterDemand m := by
  cases h with
  | root => exact .root
  | properties => exact .properties

/-- What is demanded of an example. -/
inductive IsExampleDemand : Demand → Prop
  | object : IsExampleDemand ⟨[], .kind [.object]⟩
  | inputPresence : IsExampleDemand ⟨[], .missing "input" ["input", "output"]⟩
  | outputPresence : IsExampleDemand ⟨[], .missing "output" ["input", "output"]⟩
  | inputType : IsExampleDemand ⟨[.name "input"], .kind [.string]⟩
  | outputType : IsExampleDemand
      ⟨[.name "output"], .kind [.string, .number, .boolean, .object, .array]⟩

/-- What is demanded of a field. -/
inductive IsFieldDemand : Demand → Prop
  | object : IsFieldDemand ⟨[], .kind [.object]⟩
  | importance : IsFieldDemand ⟨[.name "importance"],
      .notAllowed [.string "high", .string "medium", .string "low"]⟩
  | displayName : IsFieldDemand ⟨[.name "displayName"], .kind [.string]⟩
  | instructions : IsFieldDemand ⟨[.name "extractionInstructions"], .kind [.string]⟩
  | orderInteger : IsFieldDemand ⟨[.name "order"], .kind [.integer]⟩
  | orderMinimum : IsFieldDemand ⟨[.name "order"], .below (.int 0)⟩
  | examples : IsFieldDemand ⟨[.name "examples"], .kind [.array]⟩
  | ofExample {m : Demand} (i : Nat) (h : IsExampleDemand m) :
      IsFieldDemand ((m.under (.item i)).under (.name "examples"))

/-- What is demanded of the guidance of a definition: of every property what is demanded of a
field. -/
inductive IsGuidanceDemand : Demand → Prop
  | ofField {m : Demand} (name : String) (h : IsFieldDemand m) :
      IsGuidanceDemand ((m.under (.name name)).under (.name "properties"))

section Demands

variable {w : Value} {b : Breach} {location : List Step}

theorem outerContract_demands_iff :
    outerContract.Demands w b location ↔ IsOuterDemand ⟨location, b⟩ := by
  rw [outerContract]
  simp only [rules_demands_iff, List.exists_mem_cons_iff, kinds_demands_iff, enum_demands_iff,
    required_demands_iff, fields_demands_iff, List.not_mem_nil, false_and, exists_false, or_false]
  constructor
  · rintro (⟨rfl, rfl⟩ | ⟨rfl, rfl⟩ | ⟨_, rfl, rfl, rfl⟩ | ⟨_, rfl, rfl, rfl⟩)
    · exact .root
    · exact .typePresence
    · exact .type
    · exact .properties
  · intro h
    cases h <;> simp

theorem exampleContract_demands_iff :
    exampleContract.Demands w b location ↔ IsExampleDemand ⟨location, b⟩ := by
  rw [exampleContract]
  simp only [rules_demands_iff, List.exists_mem_cons_iff, kinds_demands_iff, required_demands_iff,
    fields_demands_iff, List.not_mem_nil, false_and, exists_false, or_false]
  constructor
  · rintro (⟨rfl, rfl⟩ | ⟨rfl, rfl | rfl⟩ | ⟨_, rfl, rfl, rfl⟩ | ⟨_, rfl, rfl, rfl⟩)
    · exact .object
    · exact .inputPresence
    · exact .outputPresence
    · exact .inputType
    · exact .outputType
  · intro h
    cases h <;> simp

theorem fieldContract_demands_iff :
    fieldContract.Demands w b location ↔ IsFieldDemand ⟨location, b⟩ := by
  rw [fieldContract]
  simp only [rules_demands_iff, List.exists_mem_cons_iff, kinds_demands_iff, enum_demands_iff,
    minimum_demands_iff, items_demands_iff, fields_demands_iff, exampleContract_demands_iff,
    List.not_mem_nil, false_and, exists_false, or_false]
  constructor
  · rintro (⟨rfl, rfl⟩ | ⟨_, rfl, rfl, rfl⟩ | ⟨_, rfl, rfl, rfl⟩ | ⟨_, rfl, rfl, rfl⟩ |
      ⟨_, rfl, ⟨rfl, rfl⟩ | ⟨rfl, rfl⟩⟩ | ⟨_, rfl, ⟨rfl, rfl⟩ | ⟨i, steps, rfl, h⟩⟩)
    · exact .object
    · exact .importance
    · exact .displayName
    · exact .instructions
    · exact .orderInteger
    · exact .orderMinimum
    · exact .examples
    · exact .ofExample i h
  · intro h
    cases h with
    | ofExample i h => simp [Demand.under, h]
    | _ => simp

theorem guidanceContract_demands_iff : guidanceContract.Demands w b location ↔
    IsShapeDemand ⟨location, b⟩ ∨ IsGuidanceDemand ⟨location, b⟩ := by
  rw [guidanceContract]
  simp only [rules_demands_iff, List.exists_mem_cons_iff, kinds_demands_iff, everyField_demands_iff,
    fields_demands_iff, fieldContract_demands_iff, List.not_mem_nil, false_and, exists_false,
    or_false]
  constructor
  · rintro (⟨rfl, rfl⟩ | ⟨_, rfl, ⟨rfl, rfl⟩ | ⟨name, steps, rfl, h⟩⟩)
    · exact .inl .root
    · exact .inl .properties
    · exact .inr (.ofField name h)
  · rintro (h | h)
    · cases h <;> simp
    · cases h with
      | ofField name h => simp [Demand.under, h]

end Demands

/-! ## What is told -/

/-- The issue of a definition that is too large. -/
def sizeIssues (settings : Settings) (definition : Value) : List Issue :=
  let size := definition.serializedSize
  if settings.maxSchemaSize < size then
    [⟨"", s!"schema is {size} bytes, exceeding the {settings.maxSchemaSize} byte limit"⟩]
  else []

section Told

variable {d : Value}

/-- Of a definition that meets what is demanded of itself, only guidance is left to be told. -/
theorem areUnmet_guidance {ms : List Demand} (houter : Demand.AreUnmet IsOuterDemand d [])
    (h : Demand.AreUnmet (fun m => IsShapeDemand m ∨ IsGuidanceDemand m) d ms) :
    Demand.AreUnmet IsGuidanceDemand d ms := by
  refine ⟨fun m => ?_, h.ordered⟩
  rw [h.mem_iff]
  refine and_congr_left fun hunmet => or_iff_right fun hshape => ?_
  exact List.not_mem_nil ((houter.mem_iff m).mpr ⟨hshape.isOuterDemand, hunmet⟩)

theorem authorObstacle_or (d : Value) :
    authorObstacle d = none ∨ authorObstacle d = some .digits := by
  have hcontract : ∀ c : Contract, c.obstacle d = none ∨ c.obstacle d = some .digits := by
    intro c
    unfold Contract.obstacle
    split
    · exact .inl rfl
    · exact .inr rfl
  unfold authorObstacle
  rcases hcontract outerContract with houter | houter <;>
    rcases hcontract guidanceContract with hguidance | hguidance <;>
      simp only [houter, hguidance] <;> split <;> simp

/-- What is told of a definition are the demands that it does not meet, first those on itself and,
if it meets these, those on its guidance. -/
theorem exists_told (hd : d.isDocument = true) : ∃ outer guidance : List Demand,
    Demand.AreUnmet IsOuterDemand d outer ∧
    Demand.AreUnmet (fun m => outer = [] ∧ IsGuidanceDemand m) d guidance ∧
    (∀ settings, authorIssues settings d =
      (outer ++ guidance).map (fun m => (m.violation d).issue) ++ sizeIssues settings d) ∧
    (authorObstacle d = none ↔
      d.isShowable = true ∨ ∀ m ∈ outer ++ guidance, (m.violation d).isShowable = true) := by
  obtain ⟨outer, houter, hissues, hobstacle⟩ :=
    exists_areUnmet (fun _ _ _ => outerContract_demands_iff) (by decide) hd
  have hempty : outerContract.violations d = [] ↔ outer = [] := by
    rw [← issuesOf_eq_nil_iff, hissues, List.map_eq_nil_iff]
  by_cases hnil : outer = []
  · subst hnil
    obtain ⟨guidance, hall, hguidance, hguidanceObstacle⟩ :=
      @exists_areUnmet guidanceContract (fun m => IsShapeDemand m ∨ IsGuidanceDemand m) d
        (fun _ _ _ => guidanceContract_demands_iff) (by decide) hd
    have haccepts : outerContract.accepts d = true := by
      rw [Contract.accepts_iff, hempty]
    have hnone : outerContract.obstacle d = none := hobstacle.mpr (by simp)
    have hunmet := areUnmet_guidance houter hall
    refine ⟨[], guidance, houter, ⟨fun m => ?_, hunmet.ordered⟩, fun settings => ?_, ?_⟩
    · simpa using hunmet.mem_iff m
    · rw [authorIssues, hissues, hguidance]
      rfl
    · rw [List.nil_append, ← hguidanceObstacle, authorObstacle, hnone, haccepts]
      by_cases hshowable : d.isShowable = true <;> simp [hshowable]
  · have hrefused : outerContract.accepts d = false := by
      rw [← Bool.not_eq_true, Contract.accepts_iff, hempty]
      exact hnil
    have hsome : (issuesOf outerContract d).isEmpty = false := by
      rw [List.isEmpty_eq_false_iff, ne_eq, issuesOf_eq_nil_iff, hempty]
      exact hnil
    refine ⟨outer, [], houter, ⟨fun m => by simp [hnil], .nil⟩, fun settings => ?_, ?_⟩
    · rw [List.append_nil, authorIssues, ← hissues]
      simp [hsome, sizeIssues]
    · rw [List.append_nil, ← hobstacle, authorObstacle, hrefused]
      by_cases hshowable : d.isShowable = true <;> simp [hshowable]

end Told

/-! ## Keys in other orders -/

/-- A field with its keys in another order. -/
inductive FieldReordered : Value → Value → Prop
  | same {v : Value} : FieldReordered v v
  | keys {es fs : Value.Entries} (order : es.Perm fs) : FieldReordered (.object es) (.object fs)

/-- A definition with the keys of its properties and those of each property in another order. -/
inductive DefinitionReordered : Value → Value → Prop
  | properties {before after fields mid fields' : Value.Entries}
      (each : List.Forall₂ (fun e f => e.1 = f.1 ∧ FieldReordered e.2 f.2) fields mid)
      (order : mid.Perm fields') :
      DefinitionReordered (.object (before ++ (.name "properties", .object fields) :: after))
        (.object (before ++ (.name "properties", .object fields') :: after))

theorem FieldReordered.isAsLarge {v w : Value} (h : FieldReordered v w) : Value.IsAsLarge v w := by
  cases h with
  | same => exact .refl _
  | keys order => exact Value.isAsLarge_of_perm order

theorem DefinitionReordered.isAsLarge {d d' : Value} (h : DefinitionReordered d d') :
    Value.IsAsLarge d d' := by
  obtain ⟨each, order⟩ := h
  have hfields := (Value.isAsLarge_of_forall₂
    (each.imp fun _ _ hef => ⟨hef.1, hef.2.isAsLarge⟩)).trans (Value.isAsLarge_of_perm order)
  exact Value.isAsLarge_of_forall₂ (Value.forall₂_of_replaced .refl hfields _ _)

/-- What is told of a demand is the same for both definitions. -/
structure Demand.IsToldAlike (d d' : Value) (m : Demand) : Prop where
  unmet : m.IsUnmet d ↔ m.IsUnmet d'
  issue : m.IsUnmet d → (m.violation d).issue = (m.violation d').issue
  isShowable : m.IsUnmet d → (m.violation d).isShowable = (m.violation d').isShowable

section Reordered

variable {d d' : Value} {m : Demand}

theorem isToldAlike_of_at?_eq (h : d.at? m.location = d'.at? m.location) : m.IsToldAlike d d' := by
  have hviolation : m.violation d = m.violation d' := by
    rw [Demand.violation, Demand.violation, h]
  exact ⟨by rw [Demand.IsUnmet, Demand.IsUnmet, h], fun _ => by rw [hviolation],
    fun _ => by rw [hviolation]⟩

/-- Of two objects it is not told that they are none. -/
theorem isToldAlike_of_objects {es fs : Value.Entries} {location : List Step}
    (h : d.at? location = some (.object es)) (h' : d'.at? location = some (.object fs)) :
    Demand.IsToldAlike d d' ⟨location, .kind [.object]⟩ := by
  have hmet : ∀ {v : Value} {es : Value.Entries}, v.at? location = some (.object es) →
      ¬ Demand.IsUnmet v ⟨location, .kind [.object]⟩ := by
    rintro v es hat ⟨w, hw, hoccurs⟩
    rw [hat] at hw
    cases hw
    cases hoccurs
  exact ⟨iff_of_false (hmet h) (hmet h'), fun hunmet => absurd hunmet (hmet h),
    fun hunmet => absurd hunmet (hmet h)⟩

end Reordered

theorem IsFieldDemand.object_or {m : Demand} (h : IsFieldDemand m) :
    m = ⟨[], .kind [.object]⟩ ∨ ∃ key steps, m.location = .name key :: steps := by
  cases h with
  | object => exact .inl rfl
  | ofExample i h => exact .inr ⟨_, _, rfl⟩
  | _ => exact .inr ⟨_, _, rfl⟩

/-- A reordered definition is an object that states the same, but for its properties, and under each
name a field in another order. -/
theorem DefinitionReordered.parts {d d' : Value} (hd : d.isDocument = true)
    (h : DefinitionReordered d d') : ∃ es es' fields fields' : Value.Entries,
      d = .object es ∧ d' = .object es' ∧
      (∀ key, key ≠ .name "properties" → Value.lookup key es = Value.lookup key es') ∧
      Value.lookup (.name "properties") es = some (.object fields) ∧
      Value.lookup (.name "properties") es' = some (.object fields') ∧
      ∀ key, Option.Rel FieldReordered (Value.lookup key fields) (Value.lookup key fields') := by
  obtain ⟨each, order⟩ := h
  rename_i before after fields mid fields'
  obtain ⟨hkeys, hentries⟩ := Value.isDocument_object.mp hd
  have hfields := (hentries _ (List.mem_append_right _ List.mem_cons_self)).2
  have hmid : fields.map Prod.fst = mid.map Prod.fst := map_eq_map_of_forall₂ each fun hef => hef.1
  have hmidKeys : (mid.map Prod.fst).Nodup := by
    rw [← hmid]
    exact (Value.isDocument_object.mp hfields).1
  refine ⟨_, _, fields, fields', rfl, rfl, ?_, ?_, ?_, ?_⟩
  · intro key hkey
    simp [Value.lookup_append, Value.lookup, Ne.symm hkey]
  · exact Value.lookup_of_mem hkeys (by simp)
  · exact Value.lookup_of_mem (by simpa using hkeys) (by simp)
  · intro key
    rw [← Value.lookup_of_perm hmidKeys order key]
    exact Value.lookup_rel_of_forall₂ each key

section ReorderedDefinition

variable {d d' : Value} {m : Demand}

/-- The demands on a definition look at the entries other than its properties, and of those at
nothing but that they are an object. -/
theorem IsOuterDemand.isToldAlike (hd : d.isDocument = true) (h : DefinitionReordered d d')
    (hm : IsOuterDemand m) : m.IsToldAlike d d' := by
  obtain ⟨es, es', fields, fields', rfl, rfl, hsame, hfields, hfields', -⟩ := h.parts hd
  have htype := hsame (.name "type") (by decide)
  cases hm with
  | root => exact isToldAlike_of_objects rfl rfl
  | typePresence =>
    -- the message names what is missing, and nothing of where it is
    have hunmet : ∀ {fs : Value.Entries},
        Demand.IsUnmet (.object fs) ⟨[], .missing "type" ["type"]⟩ ↔
          (Value.lookup (.name "type") fs).isSome = false := by
      intro fs
      simp [Demand.IsUnmet, Value.at?, Breach.occursIn, Value.has]
    exact ⟨by rw [hunmet, hunmet, htype], fun _ => rfl, fun _ => rfl⟩
  | type =>
    apply isToldAlike_of_at?_eq
    simp [Value.at?, Value.part?, htype]
  | properties =>
    apply isToldAlike_of_objects
    · simp [Value.at?, Value.part?, hfields]
      rfl
    · simp [Value.at?, Value.part?, hfields']
      rfl

/-- The value at a location within a property. -/
theorem at?_of_properties {es fields : Value.Entries} (m : Demand) (name : String)
    (h : Value.lookup (.name "properties") es = some (.object fields)) :
    (Value.object es).at? ((m.under (.name name)).under (.name "properties")).location =
      (Value.lookup (.name name) fields).bind fun w => w.at? m.location := by
  simp [Demand.under, Value.at?, Value.part?, h]

/-- The demands on guidance look at the entries of a property by their keys. -/
theorem IsGuidanceDemand.isToldAlike (hd : d.isDocument = true) (h : DefinitionReordered d d')
    (hm : IsGuidanceDemand m) : m.IsToldAlike d d' := by
  obtain ⟨es, es', fields, fields', rfl, rfl, -, hfields, hfields', hrel⟩ := h.parts hd
  obtain ⟨name, hdemand⟩ := hm
  rename_i m
  have hat := at?_of_properties m name hfields
  have hat' := at?_of_properties m name hfields'
  have hrelated := hrel (.name name)
  generalize hv : Value.lookup (.name name) fields = o at hrelated hat
  generalize Value.lookup (.name name) fields' = o' at hrelated hat'
  cases hrelated with
  | none =>
    apply isToldAlike_of_at?_eq
    rw [hat, hat']
  | some hreordered =>
    cases hreordered with
    | same =>
      apply isToldAlike_of_at?_eq
      rw [hat, hat']
    | keys order =>
      have hfield := Value.isDocument_of_lookup (Value.isDocument_of_lookup hd hfields) hv
      have hkeys := (Value.isDocument_object.mp hfield).1
      rcases hdemand.object_or with rfl | ⟨key, steps, hlocation⟩
      · exact isToldAlike_of_objects hat hat'
      · apply isToldAlike_of_at?_eq
        rw [hat, hat', hlocation]
        simp [Value.at?, Value.part?, Value.lookup_of_perm hkeys order]

end ReorderedDefinition

theorem FieldReordered.isDocument {v w : Value} (h : FieldReordered v w)
    (hv : v.isDocument = true) : w.isDocument = true := by
  cases h with
  | same => exact hv
  | keys order => exact Value.isDocument_of_perm order hv

theorem DefinitionReordered.isDocument {d d' : Value} (h : DefinitionReordered d d')
    (hd : d.isDocument = true) : d'.isDocument = true := by
  obtain ⟨each, order⟩ := h
  refine Value.isDocument_of_forall₂ (@Value.forall₂_of_replaced
    (fun v w => v.isDocument = true → w.isDocument = true) (fun _ => id) _ _ _ ?_ _ _) hd
  intro hfields
  exact Value.isDocument_of_perm order
    (Value.isDocument_of_forall₂ (each.imp fun _ _ hef => ⟨hef.1, hef.2.isDocument⟩) hfields)

/-- Demands on which both definitions are told alike are the same if they are not met. -/
theorem Demand.AreUnmet.eq {demanded : Demand → Prop} {d d' : Value} {ms ns : List Demand}
    (hms : Demand.AreUnmet demanded d ms) (hns : Demand.AreUnmet demanded d' ns)
    (halike : ∀ m, demanded m → m.IsToldAlike d d') : ns = ms := by
  refine Demand.eq_of_pairwise_precedes (fun m => ?_) hns.ordered hms.ordered
  rw [hns.mem_iff, hms.mem_iff]
  exact and_congr_right fun hm => (halike m hm).unmet.symm

/-- The same is told of a definition and of what stands in the way of telling it when its keys are
in another order. -/
theorem told_of_reordered {d d' : Value} (hd : d.isDocument = true)
    (h : DefinitionReordered d d') (settings : Settings) :
    collectAuthorIssues settings d' = collectAuthorIssues settings d := by
  obtain ⟨outer, guidance, houter, hguidance, hissues, hobstacle⟩ := exists_told hd
  obtain ⟨outer', guidance', houter', hguidance', hissues', hobstacle'⟩ :=
    exists_told (h.isDocument hd)
  obtain rfl : outer' = outer := houter.eq houter' fun m hm => hm.isToldAlike hd h
  obtain rfl : guidance' = guidance := hguidance.eq hguidance' fun m hm => hm.2.isToldAlike hd h
  have halike : ∀ m ∈ outer' ++ guidance', m.IsToldAlike d d' ∧ m.IsUnmet d := by
    intro m hm
    rcases List.mem_append.mp hm with hm | hm
    · obtain ⟨hdemand, hunmet⟩ := (houter.mem_iff m).mp hm
      exact ⟨hdemand.isToldAlike hd h, hunmet⟩
    · obtain ⟨hdemand, hunmet⟩ := (hguidance.mem_iff m).mp hm
      exact ⟨hdemand.2.isToldAlike hd h, hunmet⟩
  have hlarge := h.isAsLarge
  have hsize : sizeIssues settings d' = sizeIssues settings d := by
    rw [sizeIssues, sizeIssues, hlarge.serializedSize_eq]
  have htold : authorIssues settings d' = authorIssues settings d := by
    rw [hissues', hissues, hsize]
    congr 1
    exact List.map_congr_left fun m hm => ((halike m hm).1.issue (halike m hm).2).symm
  have hnone : authorObstacle d' = none ↔ authorObstacle d = none := by
    rw [hobstacle', hobstacle, hlarge.isShowable]
    refine or_congr_right (forall₂_congr fun m hm => ?_)
    rw [(halike m hm).1.isShowable (halike m hm).2]
  have hsame : authorObstacle d' = authorObstacle d := by
    rcases authorObstacle_or d with hd | hd
    · rw [hd, hnone.mpr hd]
    · rcases authorObstacle_or d' with hd' | hd'
      · rw [hnone.mp hd'] at hd
        cases hd
      · rw [hd, hd']
  rw [collectAuthorIssues, collectAuthorIssues, hsame, htold]

/-- The issues of a definition are the demands on itself that it does not meet, if there are none
the demands on the guidance of its properties that these do not meet, and its size, if that exceeds
the limit. Each demand is told once, in the order of their locations. The issues are told unless a
message has to show an integer of too many digits. The order of the keys in the properties and in
each of them makes no difference. -/
theorem collectAuthorIssues_exact (settings : Settings) {d : Value} (hd : d.isDocument = true) :
    ∃ outer guidance : List Demand,
      Demand.AreUnmet IsOuterDemand d outer ∧
      Demand.AreUnmet (fun m => outer = [] ∧ IsGuidanceDemand m) d guidance ∧
      collectAuthorIssues settings d =
        (if d.isShowable = true ∨ ∀ m ∈ outer ++ guidance, (m.violation d).isShowable = true then
          .ok ((outer ++ guidance).map (fun m => (m.violation d).issue) ++ sizeIssues settings d)
        else .error .digits) ∧
      ∀ d', DefinitionReordered d d' →
        collectAuthorIssues settings d' = collectAuthorIssues settings d := by
  obtain ⟨outer, guidance, houter, hguidance, hissues, hobstacle⟩ := exists_told hd
  refine ⟨outer, guidance, houter, hguidance, ?_, fun d' h => told_of_reordered hd h settings⟩
  rw [collectAuthorIssues, ← hissues]
  rcases authorObstacle_or d with hnone | hdigits
  · rw [hnone, if_pos (hobstacle.mp hnone)]
  · have hnot : authorObstacle d ≠ none := by simp [hdigits]
    rw [hdigits, if_neg (mt hobstacle.mpr hnot)]

/-- A definition whose fields break several rules. -/
def flawedDefinition : Value := .record [("type", .string "object"), ("properties", .record [
  ("total", .record [("order", .int (-1)), ("importance", .string "urgent")]),
  ("date", .record [("examples", .list [.record [("input", .string "x")]])])])]

/-- The definition with its fields, and the keys of one, the other way around. -/
def flawedTurned : Value := .record [("type", .string "object"), ("properties", .record [
  ("date", .record [("examples", .list [.record [("input", .string "x")]])]),
  ("total", .record [("importance", .string "urgent"), ("order", .int (-1))])])]

theorem flawedDefinition_reordered : DefinitionReordered flawedDefinition flawedTurned := by
  have htotal : FieldReordered (.record [("order", .int (-1)), ("importance", .string "urgent")])
      (.record [("importance", .string "urgent"), ("order", .int (-1))]) := .keys (.swap _ _ [])
  have heach : ∀ date : Value, List.Forall₂ (fun e f => e.1 = f.1 ∧ FieldReordered e.2 f.2)
      [(Key.name "total", _), (.name "date", date)] [(.name "total", _), (.name "date", date)] :=
    fun _ => .cons ⟨Eq.refl (Key.name "total"), htotal⟩ (.cons ⟨rfl, .same⟩ .nil)
  exact @DefinitionReordered.properties (Value.named [("type", .string "object")]) [] _ _ _
    (heach _) (.swap _ _ [])

/-- All that is wrong with it is told, in either order. -/
theorem collectAuthorIssues_flawed : flawedDefinition.isDocument = true ∧
    (∃ guidance : List Demand, Demand.AreUnmet IsGuidanceDemand flawedDefinition guidance ∧
      ⟨[.name "properties", .name "total", .name "order"], .below (.int 0)⟩ ∈ guidance ∧
      collectAuthorIssues .standard flawedDefinition =
        .ok (guidance.map fun m => (m.violation flawedDefinition).issue)) ∧
    collectAuthorIssues .standard flawedTurned =
      collectAuthorIssues .standard flawedDefinition := by
  have hdocument : flawedDefinition.isDocument = true := by decide +kernel
  have hshowable : flawedDefinition.isShowable = true := by decide +kernel
  have hsize : sizeIssues .standard flawedDefinition = [] := by decide +kernel
  obtain ⟨outer, guidance, houter, hguidance, hissues, hreordered⟩ :=
    collectAuthorIssues_exact .standard hdocument
  have hnone : outer = [] := by
    rw [List.eq_nil_iff_forall_not_mem]
    intro m hm
    obtain ⟨hdemand, w, hfound, hoccurs⟩ := (houter.mem_iff m).mp hm
    cases hdemand <;> cases hfound <;> exact absurd hoccurs (by decide)
  subst hnone
  rw [if_pos (.inl hshowable), hsize, List.nil_append, List.append_nil] at hissues
  have hunmet : Demand.AreUnmet IsGuidanceDemand flawedDefinition guidance :=
    ⟨fun m => by simpa using hguidance.mem_iff m, hguidance.ordered⟩
  refine ⟨hdocument, ⟨guidance, hunmet, ?_, hissues⟩, hreordered _ flawedDefinition_reordered⟩
  rw [hunmet.mem_iff]
  exact ⟨.ofField "total" .orderMinimum, .int (-1), rfl, rfl⟩

/-- Of a type with too many digits it cannot be told that it is not allowed. -/
theorem collectAuthorIssues_of_overlong (settings : Settings) {i : Int}
    (hi : hasTooManyDigits i = true) :
    collectAuthorIssues settings (.record [("type", .int i)]) = .error .digits := by
  have hvalue : (Value.int i).isShowable = false := by
    simp [Value.isShowable, Number.isShowable, hi]
  have hrecord : (Value.record [("type", .int i)]).isShowable = false := by
    rw [← Bool.not_eq_true, Value.record, Value.isShowable_object]
    simp [hvalue]
  have hviolations : outerContract.violations (.record [("type", .int i)]) =
      [⟨[.name "type"], .notAllowed [.string "object"], .int i⟩] := by
    simp [outerContract, Contract.violations, violationsOfRules, Rule.violations,
      Rule.violationsOfWhole, violationsOfChildren, violationUnless, Value.record, Value.lookup,
      Value.has, Kind.admits, Value.equals, Violation.under]
  have houter : outerContract.obstacle (.record [("type", .int i)]) = some .digits := by
    simp [Contract.obstacle, hviolations, Violation.isShowable, hvalue]
  simp [collectAuthorIssues, authorObstacle, hrecord, houter]

/-- Not every definition has a list of issues. -/
theorem collectAuthorIssues_untold :
    collectAuthorIssues .standard (.record [("type", .int (Nat.pow 10 digitLimit))]) =
      .error .digits :=
  collectAuthorIssues_of_overlong .standard hasTooManyDigits_ten_pow

end ExtractionSchema
