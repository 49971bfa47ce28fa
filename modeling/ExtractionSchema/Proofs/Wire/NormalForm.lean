import ExtractionSchema.Proofs.Wire.Bare
import ExtractionSchema.Proofs.Wire.Reads
import ExtractionSchema.Proofs.Wire.Reread

/-!
# The normal form of a document

A document may state a tree in many ways: texts for numbers, words for truth values, entries that
count as nothing, and nodes of unknown types that say anything. Reading it and writing the tree
gives its normal form. Reading the normal form changes nothing but what the nodes of unknown types
keep, and no use of the tree looks at that.

* `Node.HidesNoObject` says that no node of an unknown type has the type of objects.
* `Reads.hidesNoObject` and `Reads.readable`: this holds of every node that is read, and if it is
  read from JSON, its written form is read again.
* `Tree.normal_form`: the written tree is read, written as itself, and of the same use as the
  document.
-/

namespace ExtractionSchema.Wire

/-! ## Nodes that hide no object -/

mutual

/-- No node of an unknown type within the node has the type of objects. -/
def Node.HidesNoObject : Node → Prop
  | .primitive _ _ _ => True
  | .array _ items => items.HidesNoObject
  | .object _ properties _ _ => AllHideNoObject properties
  | .unknown _ type _ => type ≠ objectType

/-- No node of an unknown type within the children has the type of objects. -/
def AllHideNoObject : Properties → Prop
  | [] => True
  | (_, node) :: rest => node.HidesNoObject ∧ AllHideNoObject rest

end

theorem allHideNoObject_iff {kids : Properties} :
    AllHideNoObject kids ↔ ∀ kid ∈ kids, kid.2.HidesNoObject := by
  induction kids with
  | nil => simp [AllHideNoObject]
  | cons kid kids ih => simp [AllHideNoObject, ih]

theorem Node.HidesNoObject.isObject {node : Node} (h : node.HidesNoObject)
    (htype : node.type = objectType) : node.isObject = true := by
  cases node with
  | object about properties required additional => rfl
  | primitive about kind limits =>
    have hne : kind.name ≠ objectType := by cases kind <;> decide
    exact absurd htype hne
  | array about items =>
    have hne : arrayType ≠ objectType := by decide
    exact absurd htype hne
  | unknown about type raw => exact absurd htype h

/-! ## Reading a written node again -/

mutual

/-- A node that is read again keeps everything but what nodes of unknown types keep. -/
theorem Node.bare_reread : (node : Node) → node.HidesNoObject → node.reread.bare = node.bare
  | .primitive about kind limits, _ => rfl
  | .array about items, h => by
    rw [Node.reread, Node.bare, Node.bare, Node.bare_reread items h]
  | .object about properties required additional, h => by
    rw [Node.reread, Node.bare, Node.bare, bareAll_rereadAll properties h]
  | .unknown about type raw, h => by
    rw [Node.reread, if_neg h, Node.bare, Node.bare]

theorem bareAll_rereadAll : (kids : Properties) → AllHideNoObject kids →
    bareAll (rereadAll kids) = bareAll kids
  | [], _ => rfl
  | (name, node) :: rest, h => by
    rw [rereadAll, bareAll, bareAll, Node.bare_reread node h.1, bareAll_rereadAll rest h.2]

end

mutual

/-- A node that is read again is written as before. -/
theorem Node.toValue_reread : (node : Node) → node.HidesNoObject →
    node.reread.toValue = node.toValue
  | .primitive about kind limits, _ => rfl
  | .array about items, h => by
    rw [Node.reread, Node.toValue, Node.toValue, Node.toValue_reread items h]
  | .object about properties required additional, h => by
    rw [Node.reread, Node.toValue, Node.toValue, childValues_rereadAll properties h]
  | .unknown about type raw, h => by
    have hnames : ∀ e ∈ putAll (("type", .string type) :: about.fields) (Value.named raw),
        ∃ s, e.1 = Key.name s := exists_name_of_mem_putAll (Value.exists_name_of_mem_named raw)
    rw [Node.reread, if_neg h, Node.toValue, Node.toValue, Value.named_fieldsOf hnames,
      putAll_putAll (about.nodup_keys _)]

theorem childValues_rereadAll : (kids : Properties) → AllHideNoObject kids →
    childValues (rereadAll kids) = childValues kids
  | [], _ => rfl
  | (name, node) :: rest, h => by
    rw [rereadAll, childValues, childValues, Node.toValue_reread node h.1,
      childValues_rereadAll rest h.2]

end

section Reread

variable {t : Tree} (h : AllHideNoObject t.properties)

include h

theorem Tree.bare_reread : t.reread.bare = t.bare := by
  rw [Tree.reread, Tree.bare, Tree.bare, bareAll_rereadAll _ h]

theorem Tree.toValue_reread : t.reread.toValue = t.toValue := by
  rw [Tree.reread, Tree.toValue, Tree.toValue, childValues_rereadAll _ h]

theorem Tree.contract_reread : t.reread.contract = t.contract := by
  rw [← Tree.contract_bare, Tree.bare_reread h, Tree.contract_bare]

end Reread

/-! ## Nodes that were read -/

theorem getD_of_detail {α : Type} {key name : String} {read : Value → Checked α}
    {entries : Value.Entries} {o : Option α} (h : detail key name read entries = .ok o)
    (ho : o = none) : Value.getD entries key = .null := by
  subst ho
  rw [detail, Checked.under_eq_ok_iff] at h
  unfold Reading.optional at h
  split at h
  · assumption
  · simp [Checked.map_eq_ok_iff] at h

/-- What a presentation does not state is not there, or `null`. -/
theorem getD_of_presentation {entries : Value.Entries} {about : Presentation}
    (h : presentation entries = .ok about) : ∀ key ∈ presentationKeys,
      Value.lookup (.name key) (Value.named about.fields) = none →
        Value.getD entries key = .null := by
  obtain ⟨h1, h2, h3, h4, h5, h6, h7, h8⟩ := presentation_eq_ok_iff.mp h
  simp only [presentationKeys, List.forall_mem_cons, Presentation.fields, Value.named_append,
    Value.lookup_append, lookup_whenStated]
  simp only [String.reduceEq, if_true, if_false, Option.or_none, Option.none_or,
    Option.map_eq_none_iff]
  exact ⟨getD_of_detail h1, getD_of_detail h2, getD_of_detail h3, getD_of_detail h4,
    getD_of_detail h5, getD_of_detail h6, getD_of_detail h7, getD_of_detail h8, by simp⟩

theorem isJson_of_mem_members {entries : Value.Entries}
    (h : (Value.object entries).isJson = true) : ∀ e ∈ members entries, e.2.isJson = true := by
  rcases members_eq_nil_or entries with hnil | hlookup
  · simp [hnil]
  · intro e he
    exact (Value.isJson_object.mp (Value.isJson_of_lookup h hlookup) e he).2

mutual

theorem Reads.hidesNoObject : {v : Value} → {node : Node} → Reads v node → node.HidesNoObject
  | _, _, .primitive _ _ _ => trivial
  | _, _, .array _ _ _ hitems => hitems.hidesNoObject
  | _, _, .object _ _ hchildren hkids _ _ => by
    refine allHideNoObject_iff.mpr fun kid hkid => ?_
    obtain ⟨child, hchild, heq⟩ := mem_of_childNames hkids kid hkid
    rw [← heq]
    exact hchildren.hideNoObject child hchild
  | _, _, .unknown _ _ _ _ hobject _ _ => hobject

theorem ReadsAll.hideNoObject : {es : Value.Entries} → {children : List (Key × Node)} →
    ReadsAll es children → ∀ child ∈ children, child.2.HidesNoObject
  | _, _, .nil => by simp
  | _, _, .cons hfirst hrest => by
    rw [List.forall_mem_cons]
    exact ⟨hfirst.hidesNoObject, hrest.hideNoObject⟩

end

mutual

/-- What is read from JSON can be written and read again. -/
theorem Reads.readable : {v : Value} → {node : Node} → Reads v node → v.isJson = true →
    node.Readable
  | _, _, .primitive _ _ _, _ => trivial
  | _, _, .array _ _ hlookup hitems, hv =>
    ⟨hitems.readable (Value.isJson_of_lookup hv hlookup), hitems.hidesNoObject.isObject⟩
  | _, _, .object _ _ hchildren hkids _ _, hv => by
    refine allReadable_iff.mpr fun kid hkid => ?_
    obtain ⟨child, hchild, heq⟩ := mem_of_childNames hkids kid hkid
    rw [← heq]
    exact hchildren.readable (isJson_of_mem_members hv) child hchild
  | _, _, .unknown _ hempty hname harray hobject habout hraw, hv => by
    have hnames := fun e he => (Value.isJson_object.mp hv e he).1
    rw [namedEntries_fieldsOf hnames] at hraw
    cases hraw
    refine ⟨hempty, harray, hname, fun htype => absurd htype hobject, fun key hkey hnot => ?_⟩
    rw [Value.named_fieldsOf hnames]
    exact getD_of_presentation habout key hkey (Value.lookup_named_eq_none hnot)

theorem ReadsAll.readable : {es : Value.Entries} → {children : List (Key × Node)} →
    ReadsAll es children → (∀ e ∈ es, e.2.isJson = true) → ∀ child ∈ children, child.2.Readable
  | _, _, .nil, _ => by simp
  | _, _, .cons hfirst hrest, hes => by
    rw [List.forall_mem_cons] at hes ⊢
    exact ⟨hfirst.readable hes.1, hrest.readable hes.2⟩

end

/-! ## The normal form -/

/-- The written form of the tree that is read from a document is its normal form: it is read, it
is written as itself, and whatever is made of a tree is the same for both. -/
theorem Tree.normal_form {d : Value} (hd : d.isJson = true) {t : Tree}
    (h : Tree.ofValue d = .ok t) :
    ∃ t', Tree.ofValue t.toValue = .ok t' ∧ t'.toValue = t.toValue ∧
      t'.contract = t.contract ∧ t'.outline = t.outline ∧
      (∀ guidance, t'.guidance guidance = t.guidance guidance) ∧
      Property.listOfTree t.toValue = Property.listOfTree d ∧
      ∀ settings mode instructions,
        compose settings mode instructions t' = compose settings mode instructions t := by
  have hreads := Tree.reads_of_ofValue h
  have hreadable : AllReadable t.properties := hreads.readable hd
  have hhides : AllHideNoObject t.properties := hreads.hidesNoObject
  have hread := Tree.ofValue_toValue hreadable
  -- both trees forget to the same one, and every use is that of the tree that forgets
  have hbare := Tree.bare_reread hhides
  refine ⟨t.reread, hread, Tree.toValue_reread hhides, Tree.contract_reread hhides, ?_,
    fun guidance => ?_, ?_, fun settings mode instructions => ?_⟩
  · rw [← Tree.outline_bare, hbare, Tree.outline_bare]
  · rw [← Tree.guidance_bare, hbare, Tree.guidance_bare]
  · rw [Property.listOfTree, Property.listOfTree, hread, h]
    dsimp only
    rw [← Tree.toProperties_bare, hbare, Tree.toProperties_bare]
  · rw [← compose_bare, hbare, compose_bare]

/-- A document that states its numbers as texts and truth values and its truth values as words, with
entries that count as nothing and a node of an unknown type. -/
def looseDocument : Value :=
  .record [("title", .null), ("type", .string "object"), ("required", .string ""),
    ("additionalProperties", .string "no"),
    ("properties", .record [
      ("total", .record [("type", .string "number"), ("minimum", .bool true),
        ("order", .string "3")]),
      ("rows", .record [("order", .bool true), ("type", .string "array"),
        ("items", .record [("type", .string "object"), ("properties", .list [])])]),
      ("seal", .record [("title", .null), ("page", .int 2), ("type", .string "signature"),
        ("order", .string "-1")])])]

theorem Tree.normal_form_loose :
    ∃ t t', Tree.ofValue looseDocument = .ok t ∧ t.toValue ≠ looseDocument ∧
      Tree.ofValue t.toValue = .ok t' ∧ t'.toValue = t.toValue ∧ t'.contract = t.contract := by
  have hok : ((Tree.ofValue looseDocument).toOption.any
      fun t => decide (t.toValue ≠ looseDocument)) = true := by decide +kernel
  cases hread : Tree.ofValue looseDocument with
  | error _ => simp [hread, Except.toOption] at hok
  | ok t =>
    rw [hread] at hok
    obtain ⟨t', hread', hvalue, hcontract, -⟩ := Tree.normal_form rfl hread
    exact ⟨t, t', rfl, of_decide_eq_true hok, hread', hvalue, hcontract⟩

end ExtractionSchema.Wire
