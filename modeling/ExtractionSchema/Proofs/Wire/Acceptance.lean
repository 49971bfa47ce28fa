import ExtractionSchema.Proofs.Wire.Grammar
import ExtractionSchema.Proofs.Wire.Names
import ExtractionSchema.Proofs.Wire.Reread

/-!
# Which documents are read as trees

A document of JSON is read as a tree exactly when it keeps the grammar of trees. One that is not
read is reported with a place at which it breaks a rule. The reading goes node by node: `Follows`
says of a reading at a place that it succeeds only within the grammar, and fails only with a report
of a broken place below it; nodes and their children keep this for each other.

* `readNode_follows` says this of every node.
* `Tree.ofValue_follows_grammar` says it of trees.
-/

namespace ExtractionSchema.Wire

/-! ## Fields -/

section Fields

variable {α : Type} {entries : Value.Entries} {key name : String}

theorem exists_detail_iff {read : Value → Checked α} :
    (∃ o, detail key name read entries = .ok o) ↔ MayState entries key (IsTaken read) := by
  unfold detail MayState IsTaken
  generalize Value.getD entries key = v
  constructor
  · rintro ⟨o, ho⟩
    rw [Checked.under_eq_ok_iff] at ho
    cases o with
    | none =>
      left
      by_contra hv
      unfold Reading.optional at ho
      split at ho
      · exact hv rfl
      · simp [Checked.map_eq_ok_iff] at ho
    | some a => exact .inr ⟨a, (Reading.optional_eq_some_iff.mp ho).2⟩
  · rintro (rfl | ⟨a, ha⟩)
    · exact ⟨none, rfl⟩
    · by_cases hv : v = .null
      · subst hv
        exact ⟨none, rfl⟩
      · exact ⟨some a, Checked.under_eq_ok_iff.mpr (Reading.optional_eq_some_iff.mpr ⟨hv, ha⟩)⟩

theorem isJson_getD (hes : (Value.object entries).isJson = true) (name : String) :
    (Value.getD entries name).isJson = true := by
  unfold Value.getD
  cases hlookup : Value.lookup (.name name) entries with
  | none => rfl
  | some v => exact Value.isJson_of_lookup hes hlookup

theorem isTaken_text_iff {v : Value} (hv : v.isJson = true) :
    IsTaken Reading.text v ↔ IsText v := by
  cases v with
  | string s => simp [IsTaken, IsText, Reading.text]
  | foreign _ => simp [Value.isJson] at hv
  | _ => simp [IsTaken, IsText, Reading.text, Checked.fail]

theorem exists_each_iff {read : Value → Checked α} {vs : List Value} :
    (∃ as, Checked.each read vs = .ok as) ↔ ∀ v ∈ vs, IsTaken read v := by
  simp only [Checked.each_eq_ok_iff]
  induction vs with
  | nil => simp
  | cons v vs ih =>
    rw [List.forall_mem_cons, ← ih]
    constructor
    · rintro ⟨_, _ | ⟨ha, has⟩⟩
      exact ⟨⟨_, ha⟩, ⟨_, has⟩⟩
    · rintro ⟨⟨a, ha⟩, ⟨as, has⟩⟩
      exact ⟨a :: as, .cons ha has⟩

/-- A list is read when each of its items is. -/
theorem isTaken_list_iff {read : Value → Checked α} {kind : Value → Prop} {v : Value}
    (hv : v.isJson = true) (hkind : ∀ w : Value, w.isJson = true → (IsTaken read w ↔ kind w)) :
    IsTaken (Reading.list read) v ↔ IsListOf kind v := by
  cases v with
  | list vs =>
    have hvs := Value.isJson_list.mp hv
    have hlist : IsTaken (Reading.list read) (.list vs) ↔ ∀ w ∈ vs, IsTaken read w :=
      exists_each_iff
    rw [hlist]
    constructor
    · intro h
      exact ⟨vs, rfl, fun w hw => (hkind w (hvs w hw)).mp (h w hw)⟩
    · rintro ⟨ws, heq, hws⟩ w hw
      cases heq
      exact (hkind w (hvs w hw)).mpr (hws w hw)
  | set _ | pair _ _ => simp [Value.isJson] at hv
  | _ => simp [IsTaken, IsListOf, Reading.list, Checked.fail]

theorem isTaken_anyList_iff {v : Value} (hv : v.isJson = true) :
    IsTaken (Reading.list .ok) v ↔ IsList v := by
  have hlist : IsTaken (Reading.list .ok) v ↔ IsListOf (fun _ => True) v :=
    isTaken_list_iff hv fun w _ => by simp [IsTaken]
  rw [hlist]
  simp [IsListOf, IsList]

theorem isTaken_exampleEntries_iff {v : Value} (hv : v.isJson = true) :
    IsTaken exampleEntries v ↔ IsMapping v := by
  cases v with
  | object es =>
    have hnames : ∀ e ∈ es, ∃ s, e.1 = .name s := fun e he => (Value.isJson_object.mp hv e he).1
    exact iff_of_true ⟨_, namedEntries_fieldsOf hnames⟩ ⟨es, rfl⟩
  | _ => simp [IsTaken, IsMapping, exampleEntries, Checked.fail]

/-- A field is read when its value is of the kind that its reader takes. -/
theorem exists_detail_iff_of_kind {read : Value → Checked α} {kind : Value → Prop}
    (key name : String) (hes : (Value.object entries).isJson = true)
    (hkind : ∀ v : Value, v.isJson = true → (IsTaken read v ↔ kind v)) :
    (∃ o, detail key name read entries = .ok o) ↔ MayState entries key kind := by
  rw [exists_detail_iff, MayState, MayState, hkind _ (isJson_getD hes key)]

theorem exists_presentation_iff (hes : (Value.object entries).isJson = true) :
    (∃ about, presentation entries = .ok about) ↔ HasPresentation entries := by
  have htext (key name : String) := exists_detail_iff_of_kind key name hes
    fun _ => isTaken_text_iff
  have hexamples := exists_detail_iff_of_kind "examples" "examples" hes
    fun v hv => isTaken_list_iff hv fun _ => isTaken_exampleEntries_iff
  have henum := exists_detail_iff_of_kind "enum" "enum" hes
    fun _ => isTaken_anyList_iff
  simp only [presentation_eq_ok_iff]
  constructor
  · rintro ⟨about, h1, h2, h3, h4, h5, h6, h7, h8⟩
    exact ⟨(htext _ _).mp ⟨_, h1⟩, (htext _ _).mp ⟨_, h2⟩, (htext _ _).mp ⟨_, h3⟩,
      (htext _ _).mp ⟨_, h4⟩, (htext _ _).mp ⟨_, h5⟩, hexamples.mp ⟨_, h6⟩, henum.mp ⟨_, h7⟩,
      exists_detail_iff.mp ⟨_, h8⟩⟩
  · rintro ⟨h1, h2, h3, h4, h5, h6, h7, h8⟩
    obtain ⟨title, htitle⟩ := (htext _ "title").mpr h1
    obtain ⟨description, hdescription⟩ := (htext _ "description").mpr h2
    obtain ⟨importance, himportance⟩ := (htext _ "importance").mpr h3
    obtain ⟨instructions, hinstructions⟩ := (htext _ "extraction_instructions").mpr h4
    obtain ⟨displayName, hdisplayName⟩ := (htext _ "display_name").mpr h5
    obtain ⟨examples, hexamples⟩ := hexamples.mpr h6
    obtain ⟨enum, henum⟩ := henum.mpr h7
    obtain ⟨order, horder⟩ := exists_detail_iff.mpr h8
    exact ⟨⟨title, description, importance, instructions, displayName, examples, enum, order⟩,
      htitle, hdescription, himportance, hinstructions, hdisplayName, hexamples, henum, horder⟩

theorem exists_bounds_iff (hes : (Value.object entries).isJson = true) :
    (∃ limits, bounds entries = .ok limits) ↔ HasBounds entries := by
  have htext (key name : String) := exists_detail_iff_of_kind key name hes
    fun _ => isTaken_text_iff
  simp only [bounds_eq_ok_iff]
  constructor
  · rintro ⟨limits, h1, h2, h3, h4, h5⟩
    exact ⟨(htext _ _).mp ⟨_, h1⟩, exists_detail_iff.mp ⟨_, h2⟩, exists_detail_iff.mp ⟨_, h3⟩,
      exists_detail_iff.mp ⟨_, h4⟩, exists_detail_iff.mp ⟨_, h5⟩⟩
  · rintro ⟨h1, h2, h3, h4, h5⟩
    obtain ⟨format, hformat⟩ := (htext _ "format").mpr h1
    obtain ⟨minLength, hminLength⟩ := exists_detail_iff.mpr h2
    obtain ⟨maxLength, hmaxLength⟩ := exists_detail_iff.mpr h3
    obtain ⟨minimum, hminimum⟩ := exists_detail_iff.mpr h4
    obtain ⟨maximum, hmaximum⟩ := exists_detail_iff.mpr h5
    exact ⟨⟨format, minLength, maxLength, minimum, maximum⟩, hformat, hminLength, hmaxLength,
      hminimum, hmaximum⟩

theorem exists_requiredNames_iff {names : List Value} (hnames : (Value.list names).isJson = true) :
    (∃ required, requiredNames names = .ok required) ↔ ∀ v ∈ names, IsText v := by
  have hnames := Value.isJson_list.mp hnames
  simp only [requiredNames, Checked.under_eq_ok_iff]
  rw [exists_each_iff]
  exact forall₂_congr fun v hv => isTaken_text_iff (hnames v hv)

end Fields

/-! ## Readings that follow the grammar -/

/-- The place and the defect of the node can be told. -/
def Malformed.IsTold (m : Malformed) : Prop := ∀ obstacle, m.defect ≠ .untold obstacle

/-- A reading at the path succeeds only if what it reads keeps the grammar. It fails only with the
report of a place below the path that is broken. -/
def Follows {α : Type} (path : Path) (reading : Except Malformed α) (kept : Prop)
    (broken : Path → Prop) : Prop :=
  match reading with
  | .ok _ => kept
  | .error m => m.IsTold ∧ ∃ place, m.path = path ++ place ∧ broken place

namespace Follows

variable {α β : Type} {path : Path} {x : Except Malformed α} {first kept : Prop}
  {broken lower : Path → Prop}

theorem bind {f : α → Except Malformed β} (hx : Follows path x first broken)
    (hf : ∀ a, x = .ok a → first → Follows path (f a) kept broken) :
    Follows path (x >>= f) kept broken := by
  cases x with
  | ok a => exact hf a rfl hx
  | error m => exact hx

theorem imp (hx : Follows path x first lower) (hkept : first → kept)
    (hbroken : ∀ place, lower place → broken place) : Follows path x kept broken := by
  cases x with
  | ok a => exact hkept hx
  | error m =>
    obtain ⟨htold, place, hplace, hlower⟩ := hx
    exact ⟨htold, place, hplace, hbroken place hlower⟩

/-- A defect at the path that can be told is that of the whole. -/
theorem here {defect : Defect} (htold : (⟨path, defect⟩ : Malformed).IsTold) (h : broken []) :
    Follows path (.error ⟨path, defect⟩ : Except Malformed α) kept broken :=
  ⟨htold, [], (List.append_nil path).symm, h⟩

/-- A defect at a step from the path that can be told is that of the part there. -/
theorem step {step : PathStep} {defect : Defect}
    (htold : (⟨path ++ [step], defect⟩ : Malformed).IsTold) (h : broken [step]) :
    Follows path (.error ⟨path ++ [step], defect⟩ : Except Malformed α) kept broken :=
  ⟨htold, [step], rfl, h⟩

/-- A place below a part is a place below the whole. -/
theorem below {step : PathStep} (hx : Follows (path ++ [step]) x kept lower)
    (hbroken : ∀ place, lower place → broken (step :: place)) : Follows path x kept broken := by
  cases x with
  | ok a => exact hx
  | error m =>
    obtain ⟨htold, place, hplace, hlower⟩ := hx
    refine ⟨htold, step :: place, ?_, hbroken place hlower⟩
    rw [hplace, List.append_assoc, List.singleton_append]

theorem orMalformed {model : String} {x : Checked α} (hkept : ∀ a, x = .ok a → kept)
    (hbroken : (¬ ∃ a, x = .ok a) → broken []) :
    Follows path (orMalformed path model x) kept broken := by
  cases x with
  | ok a => exact hkept a rfl
  | faulty faults =>
    refine .here (by rintro _ ⟨⟩) (hbroken ?_)
    rintro ⟨a, ha⟩
    cases ha

end Follows

section Parts

variable {path : Path} {entries : Value.Entries} {broken : Path → Prop}

theorem follows_typeName
    (h : (∀ type, Value.getD entries "type" = .string type → type = "") → broken []) :
    Follows path (typeName path entries) True broken := by
  cases htype : typeName path entries with
  | ok type => trivial
  | error m =>
    have hm : m = ⟨path, .noType⟩ := by
      unfold typeName at htype
      split at htype <;> cases htype <;> rfl
    subst hm
    refine .here (by rintro _ ⟨⟩) (h ?_)
    intro type hget
    by_contra hne
    rw [typeName_of_getD hget hne] at htype
    cases htype

theorem follows_checkProperties
    (h : ¬ StatesIfAny entries "properties" IsMapping → broken [.properties]) :
    Follows path (checkProperties path entries) (StatesIfAny entries "properties" IsMapping)
      broken := by
  unfold checkProperties
  unfold StatesIfAny at h ⊢
  generalize Value.getD entries "properties" = v at h ⊢
  by_cases hmapping : IsMapping v
  · obtain ⟨es, rfl⟩ := hmapping
    exact .inr ⟨es, rfl⟩
  · split
    · exact absurd ⟨_, rfl⟩ hmapping
    · split
      · rename_i htruthy
        refine .step (by rintro _ ⟨⟩) (h ?_)
        rintro (hfalse | hmap)
        · rw [htruthy] at hfalse
          cases hfalse
        · exact hmapping hmap
      · rename_i hfalse
        exact .inl (Bool.eq_false_of_not_eq_true hfalse)

theorem follows_requiredList (h : ¬ StatesIfAny entries "required" IsList → broken [.required]) :
    Follows path (requiredList path entries) (StatesIfAny entries "required" IsList) broken := by
  unfold requiredList
  unfold StatesIfAny at h ⊢
  generalize Value.getD entries "required" = v at h ⊢
  cases htruthy : v.truthy with
  | false =>
    simp only [htruthy, Bool.not_false, if_true]
    exact Or.inl trivial
  | true =>
    simp only [htruthy, Bool.not_true, Bool.false_eq_true, if_false]
    split
    · rename_i names
      exact .inr ⟨names, rfl⟩
    · rename_i hlist
      refine .step (by rintro _ ⟨⟩) (h ?_)
      rintro (hfalse | ⟨names, rfl⟩)
      · rw [htruthy] at hfalse
        cases hfalse
      · exact hlist names rfl

theorem statesNested_iff {es : Value.Entries} : StatesNested (.object es) ↔
    ¬ (Value.getD es "type" = .string objectType ∧ ¬ Value.has es "properties") := by
  simp [StatesNested, Value.get?, Value.has, Value.getD_eq_string_iff, Option.isSome_iff_ne_none]

theorem follows_checkItems (hnone : Value.getD entries "items" = .null → broken [])
    (hnested : ∀ v, Value.lookup (.name "items") entries = some v → ¬ StatesNested v →
      broken [.items]) :
    Follows path (checkItems path entries)
      (∃ v, Value.lookup (.name "items") entries = some v ∧ StatesNested v) broken := by
  unfold checkItems
  unfold Value.getD at hnone ⊢
  cases hlookup : Value.lookup (.name "items") entries with
  | none =>
    rw [hlookup] at hnone
    exact .here (by rintro _ ⟨⟩) (hnone rfl)
  | some v =>
    rw [hlookup] at hnone
    rw [Option.getD_some] at hnone ⊢
    cases v with
    | null => exact .here (by rintro _ ⟨⟩) (hnone rfl)
    | object es =>
      dsimp only
      split
      · rename_i hbroken
        refine .step (by rintro _ ⟨⟩) (hnested _ hlookup ?_)
        rw [statesNested_iff]
        exact not_not_intro hbroken
      · rename_i hkept
        exact ⟨_, rfl, statesNested_iff.mpr hkept⟩
    | _ => exact ⟨_, rfl, nofun⟩

/-- The parts of an object are read one after the other, and its fields once they are there. -/
theorem follows_members {α : Type} {kept : Prop}
    (finish : List (Key × Node) → List Value → Except Malformed α)
    (hproperties : ¬ StatesIfAny entries "properties" IsMapping → broken [.properties])
    (hrequired : ¬ StatesIfAny entries "required" IsList → broken [.required])
    (hchildren : Follows path (readChildren path (members entries))
      (∀ e ∈ members entries, IsNode e.2) broken)
    (hfinish : ∀ children, children.map Prod.fst = (members entries).map Prod.fst →
      StatesIfAny entries "properties" IsMapping → StatesIfAny entries "required" IsList →
      (∀ e ∈ members entries, IsNode e.2) →
      Follows path (finish children (statedNames entries)) kept broken) :
    Follows path (do
      checkProperties path entries
      let names ← requiredList path entries
      let children ← readProperties path entries
      finish children names) kept broken := by
  apply (follows_checkProperties hproperties).bind
  intro _ _ hmapping
  apply (follows_requiredList hrequired).bind
  intro names hnames hlist
  rw [requiredList_eq_ok hnames, readProperties_eq_readChildren]
  apply hchildren.bind
  intro children hread hnodes
  have hkeys := (readsAll_of_readChildren _ path children hread).map_fst
  exact hfinish children hkeys hmapping hlist hnodes

end Parts

/-! ## Nodes -/

section Objects

variable {path : Path} {entries : Value.Entries} {children : List (Key × Node)}

theorem exists_namedEntries {α : Type} {es : List (Key × α)}
    (hnames : ∀ key ∈ es.map Prod.fst, ∃ s, key = .name s) :
    ∃ fields, namedEntries es = .ok fields := by
  induction es with
  | nil => exact ⟨[], rfl⟩
  | cons e es ih =>
    obtain ⟨k, a⟩ := e
    rw [List.map_cons, List.forall_mem_cons] at hnames
    obtain ⟨⟨s, hs⟩, hrestNames⟩ := hnames
    dsimp only at hs
    subst hs
    obtain ⟨rest, hrest⟩ := ih hrestNames
    exact ⟨(s, a) :: rest, by rw [namedEntries, hrest]; rfl⟩

theorem isJson_statedNames (hes : (Value.object entries).isJson = true) :
    (Value.list (statedNames entries)).isJson = true := by
  rcases statedNames_eq_nil_or entries with hnil | hlookup
  · rw [hnil]
    rfl
  · exact Value.isJson_of_lookup hes hlookup

theorem isText_statedNames_iff (hlist : StatesIfAny entries "required" IsList) :
    (∀ v ∈ statedNames entries, IsText v) ↔ StatesIfAny entries "required" (IsListOf IsText) := by
  unfold StatesIfAny at hlist ⊢
  unfold statedNames
  generalize Value.getD entries "required" = v at hlist ⊢
  rcases hlist with hfalse | ⟨names, rfl⟩
  · cases v with
    | list names =>
      have hnil : names = [] := by simpa [Value.truthy] using hfalse
      subst hnil
      simp [hfalse]
    | _ => simp [hfalse]
  · constructor
    · intro h
      exact .inr ⟨names, rfl, h⟩
    · rintro (hfalse | ⟨_, heq, hnames⟩)
      · have hnil : names = [] := by simpa [Value.truthy] using hfalse
        subst hnil
        simp
      · cases heq
        exact hnames

/-- What is left of an object's rules once its children are read. -/
structure HasFields (entries : Value.Entries) : Prop where
  about : HasPresentation entries
  required : StatesIfAny entries "required" (IsListOf IsText)
  additional : MayState entries "additionalProperties" (IsTaken Reading.flag)

theorem isBrokenAt_of_not_hasFields
    (htype : Value.getD entries "type" = .string objectType) (h : ¬ HasFields entries) :
    IsBrokenAt (.object entries) [] := by
  apply IsBrokenAt.here
  by_cases habout : HasPresentation entries
  · by_cases hrequired : StatesIfAny entries "required" (IsListOf IsText)
    · exact .additional htype fun hmore => h ⟨habout, hrequired, hmore⟩
    · exact .requiredNames htype hrequired
  · exact .about habout

/-- The fields of an object are read together when each of them keeps its rule. -/
theorem exists_fields_iff (hes : (Value.object entries).isJson = true)
    (hkeys : children.map Prod.fst = (members entries).map Prod.fst)
    (hlist : StatesIfAny entries "required" IsList) :
    (∃ about kids required more, presentation entries = .ok about ∧
      childNames children = .ok kids ∧ requiredNames (statedNames entries) = .ok required ∧
      additional entries = .ok more) ↔ HasFields entries := by
  have hnames := exists_requiredNames_iff (isJson_statedNames hes)
  rw [isText_statedNames_iff hlist] at hnames
  constructor
  · rintro ⟨about, kids, required, more, habout, -, hrequired, hmore⟩
    exact ⟨(exists_presentation_iff hes).mp ⟨about, habout⟩, hnames.mp ⟨required, hrequired⟩,
      exists_detail_iff.mp ⟨more, hmore⟩⟩
  · rintro ⟨habout, hrequired, hmore⟩
    obtain ⟨about, habout⟩ := (exists_presentation_iff hes).mpr habout
    obtain ⟨required, hrequired⟩ := hnames.mpr hrequired
    obtain ⟨more, hmore⟩ := exists_detail_iff.mpr hmore
    have hchildNames : ∀ key ∈ children.map Prod.fst, ∃ s, key = .name s := by
      rw [hkeys]
      intro key hkey
      obtain ⟨e, he, rfl⟩ := List.mem_map.mp hkey
      exact (Value.isJson_object.mp (isJson_members hes) e he).1
    obtain ⟨kids, hkids⟩ := exists_namedEntries hchildNames
    exact ⟨about, kids, required, more, habout, Checked.under_eq_ok_iff.mpr hkids, hrequired,
      hmore⟩

theorem follows_finishPrimitive {kind : Primitive} (hes : (Value.object entries).isJson = true)
    (htype : Value.getD entries "type" = .string kind.name) :
    Follows path (finishPrimitive path kind entries) (IsNode (.object entries))
      (IsBrokenAt (.object entries)) := by
  apply Follows.orMalformed
  · intro node hnode
    simp only [Checked.seq_eq_ok_iff, Checked.map_eq_ok_iff] at hnode
    obtain ⟨_, limits, ⟨about, habout, rfl⟩, hlimits, rfl⟩ := hnode
    exact .primitive htype ((exists_presentation_iff hes).mp ⟨about, habout⟩)
      ((exists_bounds_iff hes).mp ⟨limits, hlimits⟩)
  · intro hnone
    apply IsBrokenAt.here
    by_cases habout : HasPresentation entries
    · apply BreaksRule.bounds htype
      intro hbounds
      obtain ⟨about, habout⟩ := (exists_presentation_iff hes).mpr habout
      obtain ⟨limits, hlimits⟩ := (exists_bounds_iff hes).mpr hbounds
      exact hnone ⟨_, by rw [habout, hlimits]; rfl⟩
    · exact .about habout

theorem follows_finishArray {items : Node} {v : Value}
    (hes : (Value.object entries).isJson = true)
    (htype : Value.getD entries "type" = .string arrayType)
    (hlookup : Value.lookup (.name "items") entries = some v) (hnested : StatesNested v)
    (hitems : IsNode v) :
    Follows path (finishArray path items entries) (IsNode (.object entries))
      (IsBrokenAt (.object entries)) := by
  apply Follows.orMalformed
  · intro node hnode
    obtain ⟨about, habout, -⟩ := Checked.map_eq_ok_iff.mp hnode
    exact .array htype ((exists_presentation_iff hes).mp ⟨about, habout⟩) hlookup hnested hitems
  · intro hnone
    apply IsBrokenAt.here
    apply BreaksRule.about
    intro habout
    obtain ⟨about, habout⟩ := (exists_presentation_iff hes).mpr habout
    exact hnone ⟨_, by rw [habout]; rfl⟩

theorem follows_finishUnknown {type : String} (hes : (Value.object entries).isJson = true)
    (htype : Value.getD entries "type" = .string type) (hempty : type ≠ "")
    (hname : Primitive.ofName? type = none) (harray : type ≠ arrayType)
    (hobject : type ≠ objectType) :
    Follows path (finishUnknown path type entries) (IsNode (.object entries))
      (IsBrokenAt (.object entries)) := by
  apply Follows.orMalformed
  · intro node hnode
    simp only [Checked.seq_eq_ok_iff, Checked.map_eq_ok_iff] at hnode
    obtain ⟨_, _, ⟨about, habout, -⟩, -, -⟩ := hnode
    exact .unknown htype hempty hname harray hobject
      ((exists_presentation_iff hes).mp ⟨about, habout⟩)
  · intro hnone
    apply IsBrokenAt.here
    apply BreaksRule.about
    intro habout
    obtain ⟨about, habout⟩ := (exists_presentation_iff hes).mpr habout
    have hraw := namedEntries_fieldsOf fun e he => (Value.isJson_object.mp hes e he).1
    exact hnone ⟨_, by rw [habout, hraw]; rfl⟩

theorem follows_finishObject (hes : (Value.object entries).isJson = true)
    (htype : Value.getD entries "type" = .string objectType)
    (hkeys : children.map Prod.fst = (members entries).map Prod.fst)
    (hmapping : StatesIfAny entries "properties" IsMapping)
    (hlist : StatesIfAny entries "required" IsList) (hnodes : ∀ e ∈ members entries, IsNode e.2) :
    Follows path (finishObject path children (statedNames entries) entries)
      (IsNode (.object entries)) (IsBrokenAt (.object entries)) := by
  have hfields := exists_fields_iff hes hkeys hlist
  apply Follows.orMalformed
  · intro node hnode
    simp only [Checked.seq_eq_ok_iff, Checked.map_eq_ok_iff] at hnode
    obtain ⟨_, more, ⟨_, required, ⟨_, kids, ⟨about, habout, rfl⟩, hkids, rfl⟩, hrequired, rfl⟩,
      hmore, rfl⟩ := hnode
    have h := hfields.mp ⟨about, kids, required, more, habout, hkids, hrequired, hmore⟩
    exact .object htype h.about ⟨hmapping, h.required, h.additional⟩ hnodes
  · intro hnone
    apply isBrokenAt_of_not_hasFields htype
    intro h
    obtain ⟨about, kids, required, more, habout, hkids, hrequired, hmore⟩ := hfields.mpr h
    exact hnone ⟨_, by rw [habout, hkids, hrequired, hmore]; rfl⟩

theorem follows_finishRoot (hes : (Value.object entries).isJson = true)
    (htype : Value.getD entries "type" = .string objectType)
    (hkeys : children.map Prod.fst = (members entries).map Prod.fst)
    (hmapping : StatesIfAny entries "properties" IsMapping)
    (hlist : StatesIfAny entries "required" IsList) (hnodes : ∀ e ∈ members entries, IsNode e.2) :
    Follows [] (finishRoot children (statedNames entries) entries)
      (IsRoot (.object entries)) (IsRootBrokenAt (.object entries)) := by
  have hfields := exists_fields_iff hes hkeys hlist
  have hdialect := exists_detail_iff_of_kind "$schema" "schema_uri" hes
    fun _ => isTaken_text_iff
  apply Follows.orMalformed
  · intro tree htree
    simp only [Checked.seq_eq_ok_iff, Checked.map_eq_ok_iff] at htree
    obtain ⟨_, dialect, ⟨_, more, ⟨_, required, ⟨_, kids, ⟨about, habout, rfl⟩, hkids, rfl⟩,
      hrequired, rfl⟩, hmore, rfl⟩, hstated, rfl⟩ := htree
    have h := hfields.mp ⟨about, kids, required, more, habout, hkids, hrequired, hmore⟩
    exact .intro htype h.about ⟨hmapping, h.required, h.additional⟩ hnodes
      (hdialect.mp ⟨dialect, hstated⟩)
  · intro hnone
    by_cases h : HasFields entries
    · apply IsRootBrokenAt.dialect
      intro hstated
      obtain ⟨about, kids, required, more, habout, hkids, hrequired, hmore⟩ := hfields.mpr h
      obtain ⟨dialect, hstated⟩ := hdialect.mpr hstated
      exact hnone ⟨_, by rw [habout, hkids, hrequired, hmore, hstated]; rfl⟩
    · exact .node htype (isBrokenAt_of_not_hasFields htype h)

end Objects

theorem readNode_notMapping {path : Path} {v : Value} (h : ¬ IsMapping v) :
    Follows path (readNode path v) (IsNode v) (IsBrokenAt v) := by
  rw [readNode]
  · exact .here (by rintro _ ⟨⟩) (.here (.notObject h))
  · intro entries hv
    exact h ⟨entries, hv⟩

mutual

theorem readNode_follows : (v : Value) → v.isJson = true → (path : Path) →
    Follows path (readNode path v) (IsNode v) (IsBrokenAt v)
  | .object entries, hes, path => by
    rw [readNode]
    apply (follows_typeName fun h => .here (.noType h)).bind
    intro type htype _
    obtain ⟨htype, hempty⟩ := getD_of_typeName htype
    split
    · rename_i kind hname
      rw [← Primitive.name_of_ofName? hname] at htype
      exact follows_finishPrimitive hes htype
    · rename_i hname
      split
      · rename_i harray
        subst harray
        apply (follows_checkItems (fun h => .here (.noItems htype h))
          fun v hlookup h => .here (.noProperties htype hlookup h)).bind
        rintro _ - ⟨v, hlookup, hnested⟩
        rw [readItems_of_lookup hlookup]
        have hsize := sizeOf_lt_of_lookup hlookup
        have hread := readNode_follows v (Value.isJson_of_lookup hes hlookup) (path ++ [.items])
        apply (hread.below fun place h => IsBrokenAt.items htype hlookup h).bind
        intro items _ hitems
        exact follows_finishArray hes htype hlookup hnested hitems
      · rename_i harray
        split
        · rename_i hobject
          subst hobject
          have hsize := sizeOf_members_le entries
          have hchildren := readChildren_follows (members entries) (isJson_members hes) path
          refine follows_members (fun children names => finishObject path children names entries)
            (fun h => .here (.properties htype h)) (fun h => .here (.required htype h))
            (hchildren.imp id ?_) ?_
          · rintro place ⟨name, v, rest, hmem, rfl, h⟩
            exact .child htype hmem h
          · intro children hkeys hmapping hlist hnodes
            exact follows_finishObject hes htype hkeys hmapping hlist hnodes
        · rename_i hobject
          exact follows_finishUnknown hes htype hempty hname harray hobject
  | .null, _, _ | .bool _, _, _ | .number _, _, _ | .string _, _, _ | .list _, _, _ =>
    readNode_notMapping (by rintro ⟨_, h⟩; cases h)
  | .foreign _, hv, _ | .set _, hv, _ | .pair _ _, hv, _ | .enclosing _, hv, _ => by
    simp [Value.isJson] at hv
termination_by v => sizeOf v

/-- Children are read one after the other, and the first broken one is reported. -/
theorem readChildren_follows : (es : Value.Entries) → (Value.object es).isJson = true →
    (path : Path) → Follows path (readChildren path es) (∀ e ∈ es, IsNode e.2) fun place =>
      ∃ name v rest, (.name name, v) ∈ es ∧ place = .child name :: rest ∧ IsBrokenAt v rest
  | [], _, _ => by
    rw [readChildren]
    exact nofun
  | (k, v) :: es, hes, path => by
    have hjson := Value.isJson_object.mp hes
    rw [List.forall_mem_cons] at hjson
    obtain ⟨⟨⟨name, hname⟩, hv⟩, hrest⟩ := hjson
    dsimp only at hname hv
    subst hname
    rw [readChildren]
    have hfirst := readNode_follows v hv (path ++ [.child name])
    apply (hfirst.below fun place h => ⟨name, v, place, List.mem_cons_self, rfl, h⟩).bind
    intro node _ hnode
    have hothers := readChildren_follows es (Value.isJson_object.mpr hrest) path
    apply (hothers.imp id ?_).bind
    · intro rest _ hnodes
      exact List.forall_mem_cons.mpr ⟨hnode, hnodes⟩
    · rintro place ⟨other, w, below, hmem, rfl, h⟩
      exact ⟨other, w, below, List.mem_cons_of_mem _ hmem, rfl, h⟩
termination_by es => sizeOf es

end

/-! ## Trees -/

theorem Tree.ofEntries_follows {entries : Value.Entries}
    (hes : (Value.object entries).isJson = true)
    (htype : Value.getD entries "type" = .string objectType) :
    Follows [] (Tree.ofEntries entries) (IsRoot (.object entries))
      (IsRootBrokenAt (.object entries)) := by
  have hchildren := readChildren_follows (members entries) (isJson_members hes) []
  refine follows_members (fun children names => finishRoot children names entries)
    (fun h => .node htype (.here (.properties htype h)))
    (fun h => .node htype (.here (.required htype h))) (hchildren.imp id ?_) ?_
  · rintro place ⟨name, v, rest, hmem, rfl, h⟩
    exact .node htype (.child htype hmem h)
  · intro children hkeys hmapping hlist hnodes
    exact follows_finishRoot hes htype hkeys hmapping hlist hnodes

/-- The kind of node that the document states for its root can be shown. -/
def ShowsType (d : Value) : Prop := ∀ type, d.get? "type" = some type → type.isShowable = true

theorem Tree.ofValue_of_type_ne {entries : Value.Entries}
    (htype : Value.getD entries "type" ≠ .string objectType) :
    ∃ defect, Tree.ofValue (.object entries) = .error ⟨[], defect⟩ ∧
      (ShowsType (.object entries) → ∀ obstacle, defect ≠ .untold obstacle) := by
  refine ⟨_, if_neg htype, ?_⟩
  intro hshown
  have hshowable : (Value.getD entries "type").isShowable = true := by
    unfold Value.getD
    cases hlookup : Value.lookup (.name "type") entries with
    | none => rfl
    | some type => exact hshown type hlookup
  rw [if_pos hshowable]
  nofun

/-- The reading of a tree stays within the grammar of roots. -/
theorem Tree.ofValue_follows {d : Value} (hd : d.isJson = true) :
    (∀ t, Tree.ofValue d = .ok t → IsRoot d) ∧
      ∀ m, Tree.ofValue d = .error m →
        IsRootBrokenAt d m.path ∧ (ShowsType d → m.IsTold) := by
  by_cases hmapping : IsMapping d
  · obtain ⟨entries, rfl⟩ := hmapping
    by_cases htype : Value.getD entries "type" = .string objectType
    · have heq : Tree.ofValue (.object entries) = Tree.ofEntries entries := if_pos htype
      have hfollows := Tree.ofEntries_follows hd htype
      rw [heq]
      constructor
      · intro t ht
        rw [ht] at hfollows
        exact hfollows
      · intro m hm
        rw [hm] at hfollows
        obtain ⟨htold, place, hplace, hbroken⟩ := hfollows
        rw [hplace, List.nil_append]
        exact ⟨hbroken, fun _ => htold⟩
    · obtain ⟨defect, heq, htold⟩ := Tree.ofValue_of_type_ne htype
      rw [heq]
      constructor
      · intro t ht
        cases ht
      · intro m hm
        cases hm
        exact ⟨.type htype, htold⟩
  · have heq : Tree.ofValue d = .error ⟨[], .rootNotObject⟩ := by
      rw [Tree.ofValue]
      intro entries hentries
      exact hmapping ⟨entries, hentries⟩
    rw [heq]
    constructor
    · intro t ht
      cases ht
    · intro m hm
      cases hm
      exact ⟨.notObject hmapping, by rintro _ _ ⟨⟩⟩

/-- A document of JSON is read as a tree exactly when it is the root of one. Any other is broken at
the place that is reported, and the report is that of a malformed node at this place, unless it
would have to show a type of the root that cannot be shown. -/
theorem Tree.ofValue_follows_grammar {d : Value} (hd : d.isJson = true) :
    ((∃ t, Tree.ofValue d = .ok t) ↔ IsRoot d) ∧
      ∀ m, Tree.ofValue d = .error m →
        IsRootBrokenAt d m.path ∧
          (ShowsType d → m.IsTold ∧
            m.message = s!"Malformed wire node at '{pathText m.path}': " ++ m.defect.message) := by
  obtain ⟨hok, herror⟩ := Tree.ofValue_follows hd
  constructor
  · constructor
    · rintro ⟨t, ht⟩
      exact hok t ht
    · intro hroot
      cases h : Tree.ofValue d with
      | ok t => exact ⟨t, rfl⟩
      | error m => exact absurd hroot (herror m h).1.not_isRoot
  · intro m hm
    obtain ⟨hbroken, htold⟩ := herror m hm
    refine ⟨hbroken, fun hshown => ⟨htold hshown, ?_⟩⟩
    unfold Malformed.message
    split
    · rename_i obstacle hdefect
      exact absurd hdefect (htold hshown obstacle)
    · rfl

/-- A list of objects that does not say which properties they have. -/
def bareLinesDocument : Value :=
  .record [("type", .string "object"), ("properties", .record [("lines", .record
    [("type", .string "array"), ("items", .record [("type", .string "object")])])])]

theorem Tree.ofValue_bareLines :
    bareLinesDocument.isJson = true ∧ ¬ IsRoot bareLinesDocument ∧
      ∃ m, Tree.ofValue bareLinesDocument = .error m ∧
        pathText m.path = "$.properties.lines.items" ∧ IsRootBrokenAt bareLinesDocument m.path := by
  have hjson : bareLinesDocument.isJson = true := by decide
  obtain ⟨hroot, hbroken⟩ := Tree.ofValue_follows_grammar hjson
  have herror : Tree.ofValue bareLinesDocument =
      .error ⟨[.child "lines", .items], .noProperties⟩ := rfl
  refine ⟨hjson, ?_, _, herror, by decide, (hbroken _ herror).1⟩
  rw [← hroot, herror]
  rintro ⟨t, ht⟩
  cases ht

/-- A root whose title is no text. -/
def numberedRoot : Value.Entries := Value.named [("type", .string "object"), ("title", .int 5)]

/-- The least integer that has too many digits to be shown. -/
def overlong : Int := 10 ^ digitLimit

theorem hasTooManyDigits_overlong : hasTooManyDigits overlong = true := by decide +kernel

/-- A root whose type has too many digits to be shown. -/
def overlongDocument : Value := .record [("type", .int overlong)]

/-- A root keeps the rules of presentations too, and the report of a type that cannot be shown is not
that of a malformed node. -/
theorem Tree.ofValue_numbered_and_overlong :
    (Value.getD numberedRoot "type" = .string objectType ∧
      MayState numberedRoot "$schema" IsText ∧ HasMembers numberedRoot ∧
      (∀ e ∈ members numberedRoot, IsNode e.2) ∧
      ∃ m, Tree.ofValue (.object numberedRoot) = .error m ∧ m.IsTold ∧ m.path = []) ∧
    overlongDocument.isJson = true ∧
      ∃ m, Tree.ofValue overlongDocument = .error m ∧ ¬ m.IsTold ∧
        m.message = Obstacle.digits.message := by
  constructor
  · exact ⟨rfl, .inl rfl, ⟨.inl rfl, .inl rfl, .inl rfl⟩, nofun, _, rfl, nofun, rfl⟩
  · have hshown : (Value.int overlong).isShowable = false := by
      rw [Value.isShowable, Number.isShowable, hasTooManyDigits_overlong]
      rfl
    refine ⟨rfl, ⟨[], .untold .digits⟩, ?_, fun htold => htold .digits rfl, rfl⟩
    simp [overlongDocument, Tree.ofValue, Value.record, Value.getD, Value.lookup, hshown]

end ExtractionSchema.Wire
