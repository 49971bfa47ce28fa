import ExtractionSchema.Proofs.Reading.Items
import ExtractionSchema.Proofs.Value.Entries
import ExtractionSchema.Wire.Reader

/-!
# What a node is read from

A node is read from an object, and each of its parts from a part of that object. `Reads` relates a
value to the node that stands for it, with one case for each kind of node, and
`reads_of_readNode` says that whatever is read stands in it. Later proofs follow its cases and
leave the steps of the reader alone.

* `members` and `statedNames` are the children and the required names that an object states.
* `Tree.reads_of_ofValue`: the root of a tree stands for the document that the tree is read from.
-/

namespace ExtractionSchema.Wire

/-! ## Steps of a reading -/

theorem orMalformed_eq_ok_iff {α : Type} {path : Path} {model : String} {x : Checked α} {a : α} :
    orMalformed path model x = .ok a ↔ x = .ok a := by
  cases x <;> simp [orMalformed]

section Parts

variable {path : Path} {entries : Value.Entries}

/-- A presentation is read exactly when each of its parts is. -/
theorem presentation_eq_ok_iff {about : Presentation} : presentation entries = .ok about ↔
    detail "title" "title" Reading.text entries = .ok about.title ∧
      detail "description" "description" Reading.text entries = .ok about.description ∧
      detail "importance" "importance" Reading.text entries = .ok about.importance ∧
      detail "extractionInstructions" "extraction_instructions" Reading.text entries =
        .ok about.instructions ∧
      detail "displayName" "display_name" Reading.text entries = .ok about.displayName ∧
      detail "examples" "examples" (Reading.list exampleEntries) entries = .ok about.examples ∧
      detail "enum" "enum" (Reading.list .ok) entries = .ok about.enum ∧
      detail "order" "order" Reading.integer entries = .ok about.order := by
  constructor
  · intro h
    simp only [presentation, Checked.seq_eq_ok_iff, Checked.map_eq_ok_iff] at h
    obtain ⟨_, _, ⟨_, _, ⟨_, _, ⟨_, _, ⟨_, _, ⟨_, _, ⟨_, _, ⟨_, h1, rfl⟩, h2, rfl⟩, h3, rfl⟩, h4,
      rfl⟩, h5, rfl⟩, h6, rfl⟩, h7, rfl⟩, h8, rfl⟩ := h
    exact ⟨h1, h2, h3, h4, h5, h6, h7, h8⟩
  · rintro ⟨h1, h2, h3, h4, h5, h6, h7, h8⟩
    simp only [presentation, h1, h2, h3, h4, h5, h6, h7, h8]
    rfl

/-- Constraints are read exactly when each of them is. -/
theorem bounds_eq_ok_iff {limits : Bounds} : bounds entries = .ok limits ↔
    detail "format" "format" Reading.text entries = .ok limits.format ∧
      detail "minLength" "min_length" Reading.integer entries = .ok limits.minLength ∧
      detail "maxLength" "max_length" Reading.integer entries = .ok limits.maxLength ∧
      detail "minimum" "minimum" Reading.number entries = .ok limits.minimum ∧
      detail "maximum" "maximum" Reading.number entries = .ok limits.maximum := by
  constructor
  · intro h
    simp only [bounds, Checked.seq_eq_ok_iff, Checked.map_eq_ok_iff] at h
    obtain ⟨_, _, ⟨_, _, ⟨_, _, ⟨_, _, ⟨_, h1, rfl⟩, h2, rfl⟩, h3, rfl⟩, h4, rfl⟩, h5, rfl⟩ := h
    exact ⟨h1, h2, h3, h4, h5⟩
  · rintro ⟨h1, h2, h3, h4, h5⟩
    simp only [bounds, h1, h2, h3, h4, h5]
    rfl

theorem typeName_of_getD {type : String} (h : Value.getD entries "type" = .string type)
    (hne : type ≠ "") : typeName path entries = .ok type := by
  unfold typeName
  rw [h]
  split
  · simp_all
  · simp_all
  · simp_all

theorem getD_of_typeName {type : String} (h : typeName path entries = .ok type) :
    Value.getD entries "type" = .string type ∧ type ≠ "" := by
  unfold typeName at h
  split at h
  · cases h
  · rename_i stated hne hget
    cases h
    refine ⟨hget, ?_⟩
    rintro rfl
    exact hne rfl
  · cases h

theorem readItems_of_lookup {v : Value} (h : Value.lookup (.name "items") entries = some v) :
    readItems path entries = readNode path v := by
  induction entries with
  | nil => simp [Value.lookup] at h
  | cons e entries ih =>
    obtain ⟨k, w⟩ := e
    by_cases hk : k = .name "items"
    · simp only [Value.lookup, hk, if_true, Option.some.injEq] at h
      rw [readItems, if_pos hk, h]
    · simp only [Value.lookup, hk, if_false] at h
      rw [readItems, if_neg hk, ih h]

theorem exists_lookup_of_readItems {items : Node} (h : readItems path entries = .ok items) :
    ∃ v, Value.lookup (.name "items") entries = some v ∧ readNode path v = .ok items := by
  induction entries with
  | nil => simp [readItems] at h
  | cons e entries ih =>
    obtain ⟨k, w⟩ := e
    rw [readItems] at h
    by_cases hk : k = .name "items"
    · rw [if_pos hk] at h
      exact ⟨w, by simp [Value.lookup, hk], h⟩
    · rw [if_neg hk] at h
      obtain ⟨v, hv, hread⟩ := ih h
      exact ⟨v, by simp [Value.lookup, hk, hv], hread⟩

theorem readProperties_eq : readProperties path entries =
    readMembers path (Value.getD entries "properties") := by
  induction entries with
  | nil => simp [readProperties, readMembers, Value.getD, Value.lookup]
  | cons e entries ih =>
    obtain ⟨k, v⟩ := e
    by_cases hk : k = .name "properties"
    · simp [readProperties, Value.getD, Value.lookup, hk]
    · simpa [readProperties, Value.getD, Value.lookup, hk] using ih

/-- The children that an object states; anything else than an object states none. -/
def members (entries : Value.Entries) : Value.Entries :=
  match Value.getD entries "properties" with
  | .object children => children
  | _ => []

/-- The names that an object states as required; anything else than a list states none. -/
def statedNames (entries : Value.Entries) : List Value :=
  match Value.getD entries "required" with
  | .list names => names
  | _ => []

theorem members_eq_nil_or (entries : Value.Entries) : members entries = [] ∨
    Value.lookup (.name "properties") entries = some (.object (members entries)) := by
  cases hlookup : Value.lookup (.name "properties") entries with
  | none => simp [members, Value.getD, hlookup]
  | some v => cases v <;> simp [members, Value.getD, hlookup]

theorem isJson_members (h : (Value.object entries).isJson = true) :
    (Value.object (members entries)).isJson = true := by
  rcases members_eq_nil_or entries with hnil | hlookup
  · rw [hnil]
    rfl
  · exact Value.isJson_of_lookup h hlookup

theorem readProperties_eq_readChildren :
    readProperties path entries = readChildren path (members entries) := by
  rw [readProperties_eq]
  unfold members
  cases Value.getD entries "properties" with
  | object children => rw [readMembers]
  | _ => simp [readMembers, readChildren]

theorem statedNames_eq_nil_or (entries : Value.Entries) : statedNames entries = [] ∨
    Value.lookup (.name "required") entries = some (.list (statedNames entries)) := by
  cases hlookup : Value.lookup (.name "required") entries with
  | none => simp [statedNames, Value.getD, hlookup]
  | some v => cases v <;> simp [statedNames, Value.getD, hlookup]

theorem requiredList_eq_ok {names : List Value} (h : requiredList path entries = .ok names) :
    names = statedNames entries := by
  unfold requiredList at h
  unfold statedNames
  generalize Value.getD entries "required" = v at h ⊢
  cases v with
  | list items =>
    cases items with
    | nil =>
      cases h
      rfl
    | cons v vs =>
      cases h
      rfl
  | _ =>
    dsimp only at h
    split at h
    · cases h
      rfl
    · cases h

theorem requiredList_of_lookup_none (h : Value.lookup (.name "required") entries = none) :
    requiredList path entries = .ok [] := by
  rw [requiredList, Value.getD, h]
  rfl

end Parts

/-! ## Nodes and the values that they stand for -/

mutual

/-- The node stands for the value. -/
inductive Reads : Value → Node → Prop
  | primitive {entries : Value.Entries} {about : Presentation} {kind : Primitive} {limits : Bounds}
      (htype : Value.getD entries "type" = .string kind.name)
      (habout : presentation entries = .ok about) (hlimits : bounds entries = .ok limits) :
      Reads (.object entries) (.primitive about kind limits)
  | array {entries : Value.Entries} {about : Presentation} {v : Value} {items : Node}
      (htype : Value.getD entries "type" = .string arrayType)
      (habout : presentation entries = .ok about)
      (hlookup : Value.lookup (.name "items") entries = some v) (hitems : Reads v items) :
      Reads (.object entries) (.array about items)
  | object {entries : Value.Entries} {about : Presentation} {children : List (Key × Node)}
      {kids : Properties} {required : List String} {more : Option Bool}
      (htype : Value.getD entries "type" = .string objectType)
      (habout : presentation entries = .ok about)
      (hchildren : ReadsAll (members entries) children) (hkids : childNames children = .ok kids)
      (hrequired : requiredNames (statedNames entries) = .ok required)
      (hmore : additional entries = .ok more) :
      Reads (.object entries) (.object about kids required more)
  | unknown {entries : Value.Entries} {about : Presentation} {type : String}
      {raw : List (String × Value)} (htype : Value.getD entries "type" = .string type)
      (hempty : type ≠ "") (hname : Primitive.ofName? type = none) (harray : type ≠ arrayType)
      (hobject : type ≠ objectType) (habout : presentation entries = .ok about)
      (hraw : namedEntries entries = .ok raw) :
      Reads (.object entries) (.unknown about type raw)

/-- The nodes stand for the values of the entries, under the same keys. -/
inductive ReadsAll : Value.Entries → List (Key × Node) → Prop
  | nil : ReadsAll [] []
  | cons {k : Key} {v : Value} {node : Node} {es : Value.Entries} {children : List (Key × Node)}
      (hfirst : Reads v node) (hrest : ReadsAll es children) :
      ReadsAll ((k, v) :: es) ((k, node) :: children)

end

theorem sizeOf_lt_of_lookup {key : Key} {v : Value} {es : Value.Entries}
    (h : Value.lookup key es = some v) : sizeOf v < sizeOf es := by
  have hmem := List.sizeOf_lt_of_mem (Value.mem_of_lookup h)
  have hpair : sizeOf (key, v) = 1 + sizeOf key + sizeOf v := rfl
  omega

theorem sizeOf_members_le (es : Value.Entries) : sizeOf (members es) ≤ sizeOf es := by
  rcases members_eq_nil_or es with hnil | hlookup
  · rw [hnil]
    cases es <;> simp
    omega
  · have hlt := sizeOf_lt_of_lookup hlookup
    rw [Value.object.sizeOf_spec] at hlt
    omega

mutual

/-- A node that is read stands for the value that it is read from. -/
theorem reads_of_readNode : (v : Value) → (path : Path) → (node : Node) →
    readNode path v = .ok node → Reads v node
  | .object entries, path, node, h => by
    rw [readNode] at h
    obtain ⟨type, htype, h⟩ := bind_eq_ok_iff.mp h
    obtain ⟨htype, hempty⟩ := getD_of_typeName htype
    split at h
    · rename_i kind hname
      simp only [finishPrimitive, orMalformed_eq_ok_iff, Checked.seq_eq_ok_iff,
        Checked.map_eq_ok_iff] at h
      obtain ⟨_, limits, ⟨about, habout, rfl⟩, hlimits, rfl⟩ := h
      rw [← Primitive.name_of_ofName? hname] at htype
      exact .primitive htype habout hlimits
    · rename_i hname
      split at h
      · rename_i harray
        subst harray
        obtain ⟨_, -, h⟩ := bind_eq_ok_iff.mp h
        obtain ⟨items, hitems, h⟩ := bind_eq_ok_iff.mp h
        obtain ⟨v, hlookup, hread⟩ := exists_lookup_of_readItems hitems
        simp only [finishArray, orMalformed_eq_ok_iff, Checked.map_eq_ok_iff] at h
        obtain ⟨about, habout, rfl⟩ := h
        have hsize := sizeOf_lt_of_lookup hlookup
        exact .array htype habout hlookup (reads_of_readNode v _ items hread)
      · rename_i harray
        split at h
        · rename_i hobject
          subst hobject
          obtain ⟨_, -, h⟩ := bind_eq_ok_iff.mp h
          obtain ⟨names, hnames, h⟩ := bind_eq_ok_iff.mp h
          obtain ⟨children, hchildren, h⟩ := bind_eq_ok_iff.mp h
          simp only [finishObject, orMalformed_eq_ok_iff, Checked.seq_eq_ok_iff,
            Checked.map_eq_ok_iff] at h
          obtain ⟨_, more, ⟨_, required, ⟨_, kids, ⟨about, habout, rfl⟩, hkids, rfl⟩, hrequired,
            rfl⟩, hmore, rfl⟩ := h
          rw [requiredList_eq_ok hnames] at hrequired
          rw [readProperties_eq_readChildren] at hchildren
          have hsize := sizeOf_members_le entries
          exact .object htype habout (readsAll_of_readChildren _ path children hchildren) hkids
            hrequired hmore
        · rename_i hobject
          simp only [finishUnknown, orMalformed_eq_ok_iff, Checked.seq_eq_ok_iff,
            Checked.map_eq_ok_iff, Checked.under_eq_ok_iff] at h
          obtain ⟨_, raw, ⟨about, habout, rfl⟩, hraw, rfl⟩ := h
          exact .unknown htype hempty hname harray hobject habout hraw
  | .null, _, _, h | .bool _, _, _, h | .number _, _, _, h | .string _, _, _, h
  | .list _, _, _, h | .foreign _, _, _, h | .set _, _, _, h | .pair _ _, _, _, h
  | .enclosing _, _, _, h => by simp [readNode] at h
termination_by v => sizeOf v

theorem readsAll_of_readChildren : (es : Value.Entries) → (path : Path) →
    (children : List (Key × Node)) → readChildren path es = .ok children → ReadsAll es children
  | [], _, _, h => by
    cases h
    exact .nil
  | (k, v) :: es, path, _, h => by
    rw [readChildren] at h
    split at h
    · cases h
    · obtain ⟨node, hnode, h⟩ := bind_eq_ok_iff.mp h
      obtain ⟨rest, hrest, h⟩ := bind_eq_ok_iff.mp h
      cases h
      exact .cons (reads_of_readNode v _ node hnode) (readsAll_of_readChildren es path rest hrest)
termination_by es => sizeOf es

end

/-- The root of a tree that is read stands for the document that the tree is read from. -/
theorem Tree.reads_of_ofValue {d : Value} {t : Tree} (h : Tree.ofValue d = .ok t) :
    Reads d t.root := by
  cases d with
  | object entries =>
    simp only [Tree.ofValue] at h
    split at h
    · rename_i htype
      unfold Tree.ofEntries at h
      obtain ⟨_, -, h⟩ := bind_eq_ok_iff.mp h
      obtain ⟨names, hnames, h⟩ := bind_eq_ok_iff.mp h
      obtain ⟨children, hchildren, h⟩ := bind_eq_ok_iff.mp h
      simp only [finishRoot, orMalformed_eq_ok_iff, Checked.seq_eq_ok_iff,
        Checked.map_eq_ok_iff] at h
      obtain ⟨_, dialect, ⟨_, more, ⟨_, required, ⟨_, kids, ⟨about, habout, rfl⟩, hkids, rfl⟩,
        hrequired, rfl⟩, hmore, rfl⟩, -, rfl⟩ := h
      rw [requiredList_eq_ok hnames] at hrequired
      rw [readProperties_eq_readChildren] at hchildren
      exact .object htype habout (readsAll_of_readChildren _ [] children hchildren) hkids hrequired
        hmore
    · simp at h
  | _ => simp [Tree.ofValue] at h

/-! ## Children -/

namespace ReadsAll

variable {es : Value.Entries} {children : List (Key × Node)}

theorem exists_of_mem (h : ReadsAll es children) {k : Key} {v : Value} (hmem : (k, v) ∈ es) :
    ∃ node, (k, node) ∈ children ∧ Reads v node := by
  induction es generalizing children with
  | nil => simp at hmem
  | cons e es ih =>
    cases h with
    | cons hfirst hrest =>
      rcases List.mem_cons.mp hmem with heq | hmem
      · cases heq
        exact ⟨_, List.mem_cons_self, hfirst⟩
      · obtain ⟨node, hnode, hread⟩ := ih hrest hmem
        exact ⟨node, List.mem_cons_of_mem _ hnode, hread⟩

theorem exists_reads (h : ReadsAll es children) :
    ∀ child ∈ children, ∃ e ∈ es, Reads e.2 child.2 := by
  induction es generalizing children with
  | nil =>
    cases h
    simp
  | cons e es ih =>
    cases h with
    | cons hfirst hrest =>
      rw [List.forall_mem_cons]
      refine ⟨⟨_, List.mem_cons_self, hfirst⟩, ?_⟩
      intro child hchild
      obtain ⟨e, he, hread⟩ := ih hrest child hchild
      exact ⟨e, List.mem_cons_of_mem _ he, hread⟩

end ReadsAll

theorem exists_of_mem_namedEntries {α : Type} {es : List (Key × α)} {entries : List (String × α)}
    (h : namedEntries es = .ok entries) : ∀ entry ∈ entries, ∃ e ∈ es, e.2 = entry.2 := by
  induction es generalizing entries with
  | nil =>
    cases h
    simp
  | cons e es ih =>
    obtain ⟨k, a⟩ := e
    simp only [namedEntries, Checked.seq_eq_ok_iff, Checked.map_eq_ok_iff] at h
    obtain ⟨_, rest, ⟨name, -, rfl⟩, hrest, rfl⟩ := h
    rw [List.forall_mem_cons]
    refine ⟨⟨_, List.mem_cons_self, rfl⟩, fun entry hentry => ?_⟩
    obtain ⟨e, he, heq⟩ := ih hrest entry hentry
    exact ⟨e, List.mem_cons_of_mem _ he, heq⟩

theorem mem_of_childNames {children : List (Key × Node)} {kids : Properties}
    (h : childNames children = .ok kids) : ∀ kid ∈ kids, ∃ child ∈ children, child.2 = kid.2 := by
  rw [childNames, Checked.under_eq_ok_iff] at h
  exact exists_of_mem_namedEntries h

/-- The children of an object stand for values that the object states as such. -/
theorem Reads.exists_member {es : Value.Entries} {about : Presentation} {kids : Properties}
    {required : List String} {more : Option Bool}
    (h : Reads (.object es) (.object about kids required more)) :
    ∀ kid ∈ kids, ∃ e ∈ members es, Reads e.2 kid.2 := by
  cases h with
  | object _ _ hchildren hkids _ _ =>
    intro kid hkid
    obtain ⟨child, hchild, heq⟩ := mem_of_childNames hkids kid hkid
    rw [← heq]
    exact hchildren.exists_reads child hchild

theorem Reads.exists_of_mem_kids {v : Value} {about : Presentation} {kids : Properties}
    {required : List String} {more : Option Bool} (h : Reads v (.object about kids required more)) :
    ∀ kid ∈ kids, ∃ w, Reads w kid.2 := by
  intro kid hkid
  have hobject : ∃ es, v = .object es := by
    cases h
    exact ⟨_, rfl⟩
  obtain ⟨es, rfl⟩ := hobject
  obtain ⟨e, -, hread⟩ := h.exists_member kid hkid
  exact ⟨e.2, hread⟩

theorem mem_childNames_of_mem {children : List (Key × Node)} {kids : Properties}
    (h : childNames children = .ok kids) {name : String} {node : Node}
    (hmem : (.name name, node) ∈ children) : (name, node) ∈ kids := by
  rw [childNames, Checked.under_eq_ok_iff] at h
  induction children generalizing kids with
  | nil => simp at hmem
  | cons child children ih =>
    obtain ⟨k, first⟩ := child
    simp only [namedEntries, Checked.seq_eq_ok_iff, Checked.map_eq_ok_iff,
      Checked.under_eq_ok_iff] at h
    obtain ⟨_, rest, ⟨other, hother, rfl⟩, hrest, rfl⟩ := h
    rcases List.mem_cons.mp hmem with heq | hmem
    · cases heq
      cases hother
      exact List.mem_cons_self
    · exact List.mem_cons_of_mem _ (ih hrest hmem)

end ExtractionSchema.Wire
