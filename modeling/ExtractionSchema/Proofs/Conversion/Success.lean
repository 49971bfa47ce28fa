import ExtractionSchema.Proofs.Conversion.ReadOff
import ExtractionSchema.Proofs.Wire.DisplayOrder
import ExtractionSchema.Proofs.Wire.Grammar
import ExtractionSchema.Proofs.Wire.Names

/-!
# Which trees have a property list

A property list is read off a tree exactly when each field of the tree, and each field of the
elements of its lists of objects, has a name, an importance that is known and examples that are
complete; when no list of objects is without fields, and none holds another one. Nothing else that a
node states is in the way: neither its type nor what stands deeper within it.

* `Wire.Tree.IsConvertible` says this of a tree.
* `Conversion.exists_draft_iff`: what the fields of a node must state, whatever its type.
* `Wire.Tree.toProperties_succeeds_iff` tells when the list is read, and for which child each
  property stands.
-/

namespace ExtractionSchema

open Wire

/-! ## What a field must state -/

/-- The entries of an example state a text as input and some output, and what they state as
identifier is a text. -/
structure Wire.IsComplete (e : ExampleEntries) : Prop where
  id : ∀ v ∈ Value.lookup (.name "id") (Value.named e), IsText v
  input : ∃ v ∈ Value.lookup (.name "input") (Value.named e), IsText v
  output : ∃ v, v ∈ Value.lookup (.name "output") (Value.named e)

/-- A node with this presentation can be a field of the name: the name is not empty, the importance
is a known one, and all examples are complete. -/
structure Wire.Presentation.FitsField (about : Presentation) (name : String) : Prop where
  name_ne : name ≠ ""
  importance : ∀ s ∈ about.importance, ∃ level : Importance, s = level.name
  examples : ∀ es ∈ about.examples, ∀ e ∈ es, IsComplete e

/-- Every child can be a field. If it is a list of objects, the elements have children, and each of
these can be a field and is no list of objects itself. -/
def Wire.Tree.IsConvertible (t : Tree) : Prop :=
  ∀ kid ∈ t.properties, kid.2.about.FitsField kid.1 ∧
    ∀ nested ∈ kid.2.elementProperties?, nested ≠ [] ∧
      ∀ child ∈ nested, child.2.about.FitsField child.1 ∧ child.2.elementProperties? = none

/-! ## Readings that succeed -/

theorem exists_forall₂_iff {α β : Type} {R : α → β → Prop} {as : List α} :
    (∃ bs, List.Forall₂ R as bs) ↔ ∀ a ∈ as, ∃ b, R a b := by
  induction as with
  | nil => simp
  | cons a as ih =>
    rw [List.forall_mem_cons, ← ih]
    constructor
    · rintro ⟨_, _ | ⟨hb, hrest⟩⟩
      exact ⟨⟨_, hb⟩, _, hrest⟩
    · rintro ⟨⟨b, hb⟩, bs, hrest⟩
      exact ⟨b :: bs, .cons hb hrest⟩

namespace Checked

variable {α β : Type}

theorem exists_map_iff {f : α → β} {x : Checked α} :
    (∃ b, f <$> x = .ok b) ↔ ∃ a, x = .ok a := by
  simp [map_eq_ok_iff]

/-- Two readings succeed together exactly when each does. -/
theorem exists_seq_iff {f : Checked (α → β)} {x : Checked α} :
    (∃ b, f <*> x = .ok b) ↔ (∃ g, f = .ok g) ∧ ∃ a, x = .ok a := by
  simp [seq_eq_ok_iff]

end Checked

namespace Reading

variable {α : Type} {read : Value → Checked α} {entries : Value.Entries} {name : String}

theorem isTaken_text_iff {v : Value} (hv : v.isJson = true) : IsTaken text v ↔ IsText v := by
  cases v with
  | string s => exact ⟨fun _ => ⟨s, rfl⟩, fun _ => ⟨s, rfl⟩⟩
  | foreign => cases hv
  | _ => simp [IsTaken, IsText, text, Checked.fail]

theorem isTaken_list_iff {vs : List Value} :
    IsTaken (list read) (.list vs) ↔ ∀ v ∈ vs, IsTaken read v := by
  simp only [IsTaken, list, Checked.each_eq_ok_iff]
  exact exists_forall₂_iff

theorem isTaken_optional_orNull_iff {β : Type} {write : β → Value} {o : Option β}
    (hwrite : ∀ b, write b ≠ .null) :
    IsTaken (optional read) (Conversion.orNull write o) ↔ ∀ b ∈ o, IsTaken read (write b) := by
  cases o with
  | none => simp [IsTaken, Conversion.orNull, optional]
  | some b =>
    have hread : optional read (write b) = some <$> read (write b) := by
      unfold optional
      split
      · exact absurd ‹_› (hwrite b)
      · rfl
    simp only [IsTaken, Conversion.orNull, hread, Checked.exists_map_iff, Option.mem_some_iff,
      forall_eq']

theorem exists_required_iff :
    (∃ a, required name read entries = .ok a) ↔
      ∃ v ∈ Value.lookup (.name name) entries, IsTaken read v := by
  simp only [required_eq_ok_iff, IsTaken, Option.mem_def]
  exact ⟨fun ⟨a, v, hv, ha⟩ => ⟨v, hv, a, ha⟩, fun ⟨v, hv, a, ha⟩ => ⟨a, v, hv, ha⟩⟩

theorem exists_field_of_lookup {names : List String} {default : α} {v : Value}
    (hv : Value.lookup (.name name) entries = some v) :
    (∃ a, field (name :: names) default read entries = .ok a) ↔ IsTaken read v := by
  simp [field, find, hv, IsTaken, Checked.under_eq_ok_iff]

theorem exists_field_iff {default : α} :
    (∃ a, field [name] default read entries = .ok a) ↔
      ∀ v ∈ Value.lookup (.name name) entries, IsTaken read v := by
  cases hv : Value.lookup (.name name) entries with
  | none => simp [field, find, hv]
  | some v => simp [exists_field_of_lookup hv]

/-- An example is read exactly when it is complete. -/
theorem isTaken_propertyExample_iff {e : ExampleEntries}
    (he : ∀ entry ∈ e, entry.2.isJson = true) :
    IsTaken propertyExample (.record e) ↔ IsComplete e := by
  have hjson : (Value.record e).isJson = true := by
    refine Value.isJson_object.mpr fun entry hentry => ?_
    obtain ⟨field, hfield, rfl⟩ := List.mem_map.mp hentry
    exact ⟨⟨_, rfl⟩, he field hfield⟩
  have htext : ∀ key, ∀ v ∈ Value.lookup (.name key) (Value.named e),
      (IsTaken text v ↔ IsText v) :=
    fun key v hv => isTaken_text_iff (Value.isJson_of_lookup hjson hv)
  rw [IsTaken, propertyExample, Value.record]
  simp only [entriesOf, Checked.andThen, Checked.exists_seq_iff, Checked.exists_map_iff,
    exists_field_iff, exists_required_iff]
  constructor
  · rintro ⟨⟨hid, input, hinput, htaken⟩, output, houtput, -⟩
    exact ⟨fun v hv => (htext _ v hv).mp (hid v hv), ⟨input, hinput, (htext _ _ hinput).mp htaken⟩,
      output, houtput⟩
  · rintro ⟨hid, ⟨input, hinput, htaken⟩, output, houtput⟩
    exact ⟨⟨fun v hv => (htext _ v hv).mpr (hid v hv), input, hinput,
      (htext _ _ hinput).mpr htaken⟩, output, houtput, output, rfl⟩

theorem isTaken_nonEmptyText_iff {s : String} : IsTaken nonEmptyText (.string s) ↔ s ≠ "" := by
  by_cases hs : s = "" <;> simp [IsTaken, nonEmptyText, text, Checked.andThen, Checked.fail, hs]

theorem choice_eq_ok_iff {choices : List (String × α)} {s : String} {a : α} :
    choice choices (.string s) = .ok a ↔ choices.lookup s = some a := by
  cases h : choices.lookup s <;> simp [choice, saidByText, h, Checked.fail]

theorem isTaken_importance_iff {s : String} :
    IsTaken (choice Importance.names) (.string s) ↔ ∃ level : Importance, s = level.name := by
  constructor
  · rintro ⟨level, hlevel⟩
    obtain ⟨before, after, hnames, -⟩ := List.lookup_eq_some_iff.mp (choice_eq_ok_iff.mp hlevel)
    have hmem : (s, level) ∈ Importance.names := by
      rw [hnames]
      simp
    simp only [Importance.names, List.mem_cons, Prod.mk.injEq, List.not_mem_nil, or_false] at hmem
    rcases hmem with ⟨hs, -⟩ | ⟨hs, -⟩ | ⟨hs, -⟩
    · exact ⟨.high, hs⟩
    · exact ⟨.medium, hs⟩
    · exact ⟨.low, hs⟩
  · rintro ⟨level, rfl⟩
    cases level <;> exact ⟨_, rfl⟩

/-- An importance that may be left out is read exactly when it is known. -/
theorem isTaken_statedImportance_iff {o : Option String} :
    IsTaken (optional (choice Importance.names)) (Conversion.orNull .string o) ↔
      ∀ s ∈ o, ∃ level : Importance, s = level.name := by
  rw [isTaken_optional_orNull_iff (by simp)]
  simp only [isTaken_importance_iff]

/-- Examples that may be left out are read exactly when they are complete. -/
theorem isTaken_statedExamples_iff {o : Option (List ExampleEntries)}
    (hjson : ∀ es ∈ o, ∀ e ∈ es, ∀ entry ∈ e, entry.2.isJson = true) :
    IsTaken (optional (list propertyExample))
        (Conversion.orNull (fun es => .list (es.map Value.record)) o) ↔
      ∀ es ∈ o, ∀ e ∈ es, IsComplete e := by
  rw [isTaken_optional_orNull_iff (by simp)]
  refine forall₂_congr fun es hes => ?_
  rw [isTaken_list_iff, List.forall_mem_map]
  exact forall₂_congr fun e he => isTaken_propertyExample_iff (hjson es hes e he)

end Reading

namespace Conversion

/-- The fields of a node are read exactly when it can be a field of the name, whatever its type and
the type of its elements. -/
theorem exists_draft_iff {ι : Type} {items : List (String × ι)} {name type : String}
    {required : Bool} {node : Node} {item : Option ι} {tail : List (String × Value)}
    {entries : Value.Entries} (hnode : node.about.IsJson)
    (htype : typeFields node = ("type", .string type) :: tail)
    (halias : Value.lookup (.name "extractionInstructions") (Value.named tail) = none)
    (hitem : Reading.field ["itemType", "item_type"] none (Reading.optional (Reading.choice items))
      (Value.named tail) = .ok item)
    (hentries : fields name required node = .object entries) :
    (∃ d, Reading.draft items entries = .ok d) ↔ node.about.FitsField name := by
  simp only [fields, Value.record, htype, Value.object.injEq] at hentries
  have hname : (∃ a, Reading.required "name" Reading.nonEmptyText entries = .ok a) ↔ name ≠ "" := by
    have hlookup : Value.lookup (.name "name") entries = some (.string name) := by
      rw [← hentries]
      rfl
    simp [Reading.exists_required_iff, hlookup, Reading.isTaken_nonEmptyText_iff]
  have himportance : (∃ a, Reading.field ["importance", "priority"] none
      (Reading.optional (Reading.choice Importance.names)) entries = .ok a) ↔
      ∀ s ∈ node.about.importance, ∃ level : Importance, s = level.name := by
    have hlookup : Value.lookup (.name "importance") entries =
        some (orNull .string node.about.importance) := by
      rw [← hentries]
      rfl
    rw [Reading.exists_field_of_lookup hlookup, Reading.isTaken_statedImportance_iff]
  have hexamples : (∃ a, Reading.field ["examples"] none
      (Reading.optional (Reading.list Reading.propertyExample)) entries = .ok a) ↔
      ∀ es ∈ node.about.examples, ∀ e ∈ es, IsComplete e := by
    have hlookup : Value.lookup (.name "examples") entries =
        some (orNull (fun es => .list (es.map Value.record)) node.about.examples) := by
      rw [← hentries]
      rfl
    rw [Reading.exists_field_of_lookup hlookup, Reading.isTaken_statedExamples_iff hnode.examples]
  -- whatever else a node states was read as what it is, so that it is taken
  have hrest : (∃ a, Reading.required "type" Reading.text entries = .ok a) ∧
      (∃ a, Reading.field ["title"] none (Reading.optional Reading.text) entries = .ok a) ∧
      (∃ a, Reading.field ["description"] "" Reading.text entries = .ok a) ∧
      (∃ a, Reading.field ["required"] false Reading.flag entries = .ok a) ∧
      (∃ a, Reading.field ["extractionInstructions", "extraction_instructions"] none
        (Reading.optional Reading.text) entries = .ok a) ∧
      ∃ a, Reading.field ["itemType", "item_type"] none
        (Reading.optional (Reading.choice items)) entries = .ok a := by
    have hskip : Value.lookup (.name "extractionInstructions") entries = none := by
      rw [← hentries]
      exact halias
    rw [Reading.field_skip hskip, ← hentries]
    refine ⟨⟨type, rfl⟩, ⟨_, rfl⟩, ⟨_, rfl⟩, ⟨required, rfl⟩, ?_, ⟨item, hitem⟩⟩
    exact ⟨_, Reading.field_of_lookup rfl (Reading.optional_orNull fun _ _ => ⟨rfl, by simp⟩)⟩
  simp only [Reading.draft, Checked.exists_seq_iff, Checked.exists_map_iff, hname, himportance,
    hexamples, hrest, and_true]
  constructor
  · rintro ⟨⟨hne, hlevel⟩, hcomplete⟩
    exact ⟨hne, hlevel, hcomplete⟩
  · rintro ⟨hne, hlevel, hcomplete⟩
    exact ⟨⟨hne, hlevel⟩, hcomplete⟩

/-! ## Fields that are no lists of objects -/

/-- The field that tells the type of the elements, if one does. -/
def itemFields : Option ScalarItem → List (String × Value)
  | some item => [("item_type", .string item.name)]
  | none => []

/-- A node that is no list of objects tells a type, and a type of elements only with that of lists.
A node of an unknown type may tell the type of lists alone. -/
theorem exists_typeFields {node : Node} (hplain : node.elementProperties? = none) :
    ∃ (type : String) (item : Option ScalarItem),
      typeFields node = ("type", .string type) :: itemFields item ∧
        (type = listType ∨ item = none) := by
  by_cases hlist : node.type = listType
  · refine ⟨listType, none, ?_, .inl rfl⟩
    cases node with
    | unknown about type raw =>
      obtain rfl : type = listType := hlist
      rfl
    | primitive about kind limits => cases kind <;> exact absurd hlist (of_decide_eq_true rfl)
    | array | object => exact absurd hlist (of_decide_eq_true rfl)
  · obtain ⟨shape, hwell, hshape⟩ := exists_simpleShape hplain hlist
    refine ⟨shape.type, shape.item?, ?_, ?_⟩
    · cases shape <;> exact hshape
    · cases shape with
      | plain type => exact .inr rfl
      | list item => exact .inl rfl

section Plain

variable {ι : Type} {items : List (String × ι)} {wrap : ScalarItem → ι} {name : String}
  {required : Bool} {node : Node} {entries : Value.Entries}

theorem field_itemFields
    (hitems : ∀ item : ScalarItem, Reading.choice items (.string item.name) = .ok (wrap item))
    (item : Option ScalarItem) : Reading.field ["itemType", "item_type"] none
      (Reading.optional (Reading.choice items)) (Value.named (itemFields item)) =
        .ok (item.map wrap) := by
  cases item with
  | none => rfl
  | some item =>
    have hread : Reading.optional (Reading.choice items) (.string item.name) =
        .ok (some (wrap item)) := by
      simp [Reading.optional, hitems, Functor.map, Checked.map]
    rw [itemFields, Reading.field_skip rfl]
    exact Reading.field_of_lookup rfl hread

/-- The fields of a node that is no list of objects are read exactly when it can be a field. -/
theorem exists_draft_of_plain_iff
    (hitems : ∀ item : ScalarItem, Reading.choice items (.string item.name) = .ok (wrap item))
    (hnode : node.about.IsJson) (hplain : node.elementProperties? = none)
    (hentries : fields name required node = .object entries) :
    (∃ d, Reading.draft items entries = .ok d) ↔ node.about.FitsField name := by
  obtain ⟨type, item, htype, -⟩ := exists_typeFields hplain
  have halias : Value.lookup (.name "extractionInstructions") (Value.named (itemFields item)) =
      none := by
    cases item <;> rfl
  exact exists_draft_iff hnode htype halias (field_itemFields hitems item) hentries

/-- They state a type of elements only with the type of lists. -/
theorem draft_of_plain_tells {d : Draft ι}
    (hitems : ∀ item : ScalarItem, Reading.choice items (.string item.name) = .ok (wrap item))
    (hplain : node.elementProperties? = none)
    (hentries : fields name required node = .object entries)
    (hdraft : Reading.draft items entries = .ok d) :
    ∃ item : Option ScalarItem, d.item = item.map wrap ∧ (d.type = listType ∨ item = none) := by
  obtain ⟨type, item, htype, hlist⟩ := exists_typeFields hplain
  obtain ⟨-, hstated, hread⟩ := draft_tells htype hentries hdraft
  have hitem := Checked.ok.inj (hread.symm.trans (field_itemFields hitems item))
  rw [hstated]
  exact ⟨item, hitem, hlist⟩

end Plain

/-! ## Nested properties -/

section Nested

variable {path : Path} {name : String} {required : Bool} {node : Node}

/-- A nested property is read off a node exactly when it can be a field and is no list of
objects. -/
theorem exists_nestedProperty_iff (hnode : node.about.IsJson) :
    (∃ p, nestedProperty path name required node = .ok p) ↔
      node.about.FitsField name ∧ node.elementProperties? = none := by
  constructor
  · rintro ⟨p, hp⟩
    obtain ⟨hplain, d, hd, -⟩ := (nestedProperty_eq_ok_iff rfl).mp hp
    have hfits := (exists_draft_of_plain_iff choice_scalarItem hnode hplain rfl).mp ⟨d, hd⟩
    exact ⟨hfits, hplain⟩
  · rintro ⟨hfits, hplain⟩
    obtain ⟨d, hd⟩ := (exists_draft_of_plain_iff choice_scalarItem hnode hplain rfl).mpr hfits
    obtain ⟨item, hitem, hlist⟩ := draft_of_plain_tells choice_scalarItem hplain rfl hd
    have hshape : ∃ shape, d.nestedShape = .ok shape := by
      unfold Draft.nestedShape
      by_cases htype : d.type = listType
      · exact ⟨_, if_pos htype⟩
      · obtain rfl := hlist.resolve_left htype
        rw [if_neg htype, hitem]
        exact ⟨_, rfl⟩
    obtain ⟨shape, hshape⟩ := hshape
    exact ⟨⟨d.info, shape⟩, (nestedProperty_eq_ok_iff rfl).mpr ⟨hplain, d, hd, hshape, rfl⟩⟩

end Nested

/-- A field has the name of the child, and is required if the name is among the required ones. -/
structure IsNamedAs (required : List String) (kid : String × Node) (info : FieldInfo) : Prop where
  name_eq : info.name = kid.1
  required_eq : info.required = required.contains kid.1

/-- The nested properties of the elements of a list of objects are named as its children are. -/
theorem nestedProperties_isNamedAs {path : Path} {required : List String} {kids : Properties}
    {fs : List NestedProperty} (h : nestedProperties path required kids = .ok fs) :
    List.Forall₂ (fun kid f => IsNamedAs required kid f.info) kids fs := by
  refine (nestedProperties_eq_ok_iff.mp h).imp fun kid f hf => ?_
  have hread := nestedProperty_isReadOff hf
  exact ⟨hread.name_eq, hread.required_eq⟩

theorem map_name_nestedProperties {path : Path} {required : List String} {kids : Properties}
    {fs : List NestedProperty} (h : nestedProperties path required kids = .ok fs) :
    fs.map NestedProperty.name = kids.map Prod.fst :=
  (map_eq_map_of_forall₂ (nestedProperties_isNamedAs h) fun hf => hf.name_eq.symm).symm

/-! ## Properties -/

section Properties

variable {name : String} {required : Bool} {node : Node}

theorem exists_property_of_plain_iff (hnode : node.about.IsJson)
    (hplain : node.elementProperties? = none) :
    (∃ p, property name required node = .ok p) ↔ node.about.FitsField name := by
  have hitems := fun item => choice_itemType (.scalar item)
  have hnested : nestedFields [.child name] node = .ok none := by
    unfold nestedFields
    split
    · cases hplain
    · rfl
  rw [← exists_draft_of_plain_iff hitems hnode hplain rfl]
  constructor
  · rintro ⟨p, hp⟩
    obtain ⟨nested, d, -, hd, -⟩ := (property_eq_ok_iff rfl).mp hp
    exact ⟨d, hd⟩
  · rintro ⟨d, hd⟩
    obtain ⟨item, hitem, hlist⟩ := draft_of_plain_tells hitems hplain rfl hd
    have hshape : ∃ shape, d.shape none = .ok shape := by
      unfold Draft.shape
      by_cases htype : d.type = listType
      · rw [if_pos htype, hitem]
        cases item <;> exact ⟨_, rfl⟩
      · obtain rfl := hlist.resolve_left htype
        rw [if_neg htype, hitem]
        exact ⟨_, rfl⟩
    obtain ⟨shape, hshape⟩ := hshape
    exact ⟨⟨d.info, shape⟩, (property_eq_ok_iff rfl).mpr ⟨none, d, hnested, hd, hshape, rfl⟩⟩

end Properties

section Objects

variable {name : String} {required : Bool} {about itemsAbout : Presentation} {kids : Properties}
  {names : List String} {more : Option Bool}

/-- A list of objects is read off a node when its nested properties and its fields are read, and
there are nested properties, of distinct names. -/
theorem property_of_objects_eq_ok_iff {entries : Value.Entries} {p : Property}
    (hentries : fields name required (.array about (.object itemsAbout kids names more)) =
      .object entries) :
    property name required (.array about (.object itemsAbout kids names more)) = .ok p ↔
      ∃ fs d, nestedProperties [.child name] names (orderedProperties kids) = .ok fs ∧
        Reading.draft ItemType.names entries = .ok d ∧ fs ≠ [] ∧
        (fs.map NestedProperty.name).Nodup ∧ p = ⟨d.info, .objects fs⟩ := by
  have hshape : ∀ d fs shape, Reading.draft ItemType.names entries = .ok d →
      (d.shape (some fs) = .ok shape ↔
        fs ≠ [] ∧ (fs.map NestedProperty.name).Nodup ∧ shape = .objects fs) := by
    intro d fs shape hd
    obtain ⟨-, hstated, hitem⟩ := draft_tells rfl hentries hd
    rw [Reading.field_skip rfl] at hitem
    have hobject : d.item = some .object :=
      Checked.ok.inj (hitem.symm.trans (Reading.field_of_lookup rfl rfl))
    rw [← objectsShape_eq_ok_iff (d := d), Draft.shape, if_pos hstated, hobject]
    rfl
  obtain ⟨info, shape⟩ := p
  rw [property_eq_ok_iff hentries]
  simp only [Property.mk.injEq]
  constructor
  · rintro ⟨nested, d, hnested, hd, hp, rfl⟩
    obtain ⟨fs, hfs, rfl⟩ := exists_of_map_eq_ok hnested
    obtain ⟨hne, hnodup, rfl⟩ := (hshape d fs shape hd).mp hp
    exact ⟨fs, d, hfs, hd, hne, hnodup, rfl, rfl⟩
  · rintro ⟨fs, d, hfs, hd, hne, hnodup, rfl, rfl⟩
    refine ⟨some fs, d, ?_, hd, (hshape d fs _ hd).mpr ⟨hne, hnodup, rfl⟩, rfl⟩
    rw [nestedFields, hfs]
    rfl

/-- A list of objects is read off a node exactly when it can be a field, has fields for its
elements, and these can be nested properties. -/
theorem exists_property_of_objects_iff (hnode : about.IsJson)
    (hkids : ∀ kid ∈ kids, kid.2.about.IsJson) (hnames : (kids.map Prod.fst).Nodup) :
    (∃ p, property name required (.array about (.object itemsAbout kids names more)) = .ok p) ↔
      about.FitsField name ∧ kids ≠ [] ∧
        ∀ kid ∈ kids, kid.2.about.FitsField kid.1 ∧ kid.2.elementProperties? = none := by
  have hperm := orderedProperties_perm kids
  have hnested : (∃ fs, nestedProperties [.child name] names (orderedProperties kids) = .ok fs) ↔
      ∀ kid ∈ kids, kid.2.about.FitsField kid.1 ∧ kid.2.elementProperties? = none := by
    simp only [nestedProperties_eq_ok_iff, exists_forall₂_iff, hperm.mem_iff]
    exact forall₂_congr fun kid hkid => exists_nestedProperty_iff (hkids kid hkid)
  have hfacts : ∀ fs, nestedProperties [.child name] names (orderedProperties kids) = .ok fs →
      (fs ≠ [] ↔ kids ≠ []) ∧ (fs.map NestedProperty.name).Nodup := by
    intro fs hfs
    have hmap : (fs.map NestedProperty.name).Perm (kids.map Prod.fst) := by
      rw [map_name_nestedProperties hfs]
      exact hperm.map Prod.fst
    refine ⟨not_congr ?_, hmap.nodup_iff.mpr hnames⟩
    have hlength := hmap.length_eq
    rw [List.length_map, List.length_map] at hlength
    rw [← List.length_eq_zero_iff, hlength, List.length_eq_zero_iff]
  obtain ⟨entries, hentries⟩ : ∃ entries,
      fields name required (.array about (.object itemsAbout kids names more)) = .object entries :=
    ⟨_, rfl⟩
  have hdraft : (∃ d, Reading.draft ItemType.names entries = .ok d) ↔ about.FitsField name := by
    refine exists_draft_iff ?_ rfl rfl rfl hentries
    exact hnode
  simp only [property_of_objects_eq_ok_iff hentries]
  rw [← hnested, ← hdraft]
  constructor
  · rintro ⟨p, fs, d, hfs, hd, hne, -, -⟩
    exact ⟨⟨d, hd⟩, (hfacts fs hfs).1.mp hne, fs, hfs⟩
  · rintro ⟨⟨d, hd⟩, hne, fs, hfs⟩
    obtain ⟨hempty, hnodup⟩ := hfacts fs hfs
    exact ⟨_, fs, d, hfs, hd, hempty.mpr hne, hnodup, rfl⟩

end Objects

end Conversion

open Conversion

/-! ## Property lists -/

/-- A property stands for a child: it is named as the child is. If the child is a list of objects,
so is the property, with a nested property for each child of the elements in display order. -/
structure Property.StandsForChild (required : List String) (kid : String × Node) (p : Property) :
    Prop where
  named : IsNamedAs required kid p.info
  plain : kid.2.elementProperties? = none → p.shape.fields? = none
  objects : ∀ about itemsAbout kids names more,
    kid.2 = .array about (.object itemsAbout kids names more) →
      ∃ fs, p.shape = .objects fs ∧
        List.Forall₂ (fun child f => IsNamedAs names child f.info) (orderedProperties kids) fs

/-- A node with children of its elements is a list of objects. -/
theorem exists_objects {node : Node} {kids : Properties} (h : node.elementProperties? = some kids) :
    ∃ about itemsAbout names more, node = .array about (.object itemsAbout kids names more) := by
  unfold Node.elementProperties? at h
  split at h
  · cases h
    exact ⟨_, _, _, _, rfl⟩
  · cases h

theorem Conversion.standsForChild {required : List String} {kid : String × Node} {p : Property}
    (h : property kid.1 (required.contains kid.1) kid.2 = .ok p) :
    p.StandsForChild required kid := by
  obtain ⟨name, node⟩ := kid
  have hread := property_isReadOff h
  have hnamed : IsNamedAs required (name, node) p.info := ⟨hread.name_eq, hread.required_eq⟩
  obtain ⟨nested, d, hnested, -, hshape, -⟩ := (property_eq_ok_iff rfl).mp h
  rcases nestedFields_eq_ok hnested with
    ⟨hplain, rfl⟩ | ⟨about, itemsAbout, kids, names, more, fs, rfl, -, -⟩
  · refine ⟨hnamed, fun _ => ?_, ?_⟩
    · cases hfields : p.shape.fields? with
      | none => rfl
      | some fs => exact absurd (Draft.fields_of_shape hshape fs hfields) (by simp)
    · rintro about itemsAbout kids names more rfl
      cases hplain
  · obtain ⟨gs, d, hgs, -, -, -, rfl⟩ := (property_of_objects_eq_ok_iff rfl).mp h
    refine ⟨hnamed, nofun, ?_⟩
    rintro _ _ _ _ _ ⟨⟩
    exact ⟨gs, rfl, nestedProperties_isNamedAs hgs⟩

/-- An order form. Of its fields two share a place, one is an object with a list of bare objects
within it, which is no list of objects for the form, and one is of the unknown type `list`. -/
def orderForm : Value :=
  .record [("type", .string "object"), ("required", .strings ["lines"]),
    ("properties", .record [
      ("lines", .record [("type", .string "array"), ("importance", .string "high"),
        ("order", .int 1), ("items", .record [("type", .string "object"),
          ("required", .strings ["quantity"]), ("properties", .record [
            ("quantity", .record [("type", .string "integer")]),
            ("note", .record [("type", .string "list")])])])]),
      ("sender", .record [("type", .string "object"), ("order", .int 1),
        ("properties", .record [("places", .record [("type", .string "array"),
          ("items", .record [("type", .string "object"), ("properties", .record [])])])])]),
      ("tags", .record [("type", .string "list")])])]

/-- The fields of the order form. -/
def orderFields : Properties := [
  ("lines", .array { importance := some "high", order := some 1 }
    (.object {} [("quantity", .primitive {} .integer {}),
      ("note", .unknown {} "list" [("type", .string "list")])] ["quantity"] none)),
  ("sender", .object { order := some 1 }
    [("places", .array {} (.object {} [] [] none))] [] none),
  ("tags", .unknown {} "list" [("type", .string "list")])]

end ExtractionSchema
