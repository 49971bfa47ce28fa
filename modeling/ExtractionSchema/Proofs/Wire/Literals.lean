import ExtractionSchema.Proofs.Reading.Showable
import ExtractionSchema.Proofs.Wire.Contents
import ExtractionSchema.Record.Contract

/-!
# Literals in trees

The allowed values, the examples and the constraints of a node come from its document. Whatever
passes from values of JSON to their parts passes to the allowed values and to what the examples hold.
If every object in the document holds each key once, so it is within the allowed values; if the
document can be shown, so can they and the constraints, and with them the contract of the tree.

* `IsInherited` singles out what passes to parts, and `passes_holds` takes it to the nodes.
* `Tree.hasDistinctKeys_of_ofValue`: every object within the allowed values of a tree holds each key
  once if it is so in the document of the tree.
* `Tree.showable_contract`: the contract of a tree that is read from a document that can be shown
  can be shown.
-/

namespace ExtractionSchema.Wire

/-! ## Values that were read -/

theorem lookup_of_detail {α : Type} {key name : String} {read : Value → Checked α}
    {entries : Value.Entries} {a : α} (h : detail key name read entries = .ok (some a)) :
    ∃ v, Value.lookup (.name key) entries = some v ∧ read v = .ok a := by
  rw [detail, Checked.under_eq_ok_iff, Reading.optional_eq_some_iff] at h
  obtain ⟨hne, hread⟩ := h
  cases hlookup : Value.lookup (.name key) entries with
  | none => simp [Value.getD, hlookup] at hne
  | some v => exact ⟨v, rfl, by simpa [Value.getD, hlookup] using hread⟩

theorem eq_of_each_ok {vs ws : List Value} (h : Checked.each .ok vs = .ok ws) : ws = vs := by
  rw [Checked.each_ok] at h
  exact (Checked.ok.inj h).symm

/-- The items of a list that is read as it stands are those of the list. -/
theorem Reading.forall_of_list_ok {good : Value → Prop} {v : Value} {vs : List Value}
    (hlist : ∀ ws, v = .list ws → ∀ w ∈ ws, good w)
    (hset : ∀ ms, v = .set ms → ∀ m ∈ ms, good m.value)
    (hpair : ∀ a b, v = .pair a b → good a ∧ good b) (h : Reading.list .ok v = .ok vs) :
    ∀ w ∈ vs, good w := by
  unfold Reading.list at h
  split at h
  · rw [eq_of_each_ok h]
    exact hlist _ rfl
  · rw [eq_of_each_ok h, List.forall_mem_map]
    exact hset _ rfl
  · rw [eq_of_each_ok h]
    simpa using hpair _ _ rfl
  · simp [Checked.fail] at h

/-! ## Allowed values that hold each key once -/

/-- Every object within the allowed values holds each key once. -/
def Presentation.HasDistinctKeys (about : Presentation) : Prop :=
  ∀ allowed ∈ about.enum, ∀ v ∈ allowed, v.hasDistinctKeys = true

/-- Every object within the allowed values of the node and its parts holds each key once. -/
def Node.HasDistinctKeys (node : Node) : Prop :=
  node.All Presentation.HasDistinctKeys fun _ => True

theorem passes_hasDistinctKeys :
    Passes (fun v => v.hasDistinctKeys = true) Presentation.HasDistinctKeys fun _ => True where
  parts es hes e he := (Value.hasDistinctKeys_object.mp hes).2 e he
  about es about hes h allowed hallowed := by
    obtain ⟨-, -, -, -, -, -, hdetail, -⟩ := presentation_eq_ok_iff.mp h
    rw [hallowed] at hdetail
    obtain ⟨v, hv, hread⟩ := lookup_of_detail hdetail
    have hkeys := Value.hasDistinctKeys_of_lookup hes hv
    refine Reading.forall_of_list_ok ?_ ?_ ?_ hread
    · rintro ws rfl
      exact Value.hasDistinctKeys_list.mp hkeys
    · rintro ms rfl m -
      exact Value.hasDistinctKeys_value m
    · rintro a b rfl
      exact Value.hasDistinctKeys_pair.mp hkeys
  limits _ _ _ _ := trivial

/-- Every object within the allowed values of a tree holds each key once if it is so in the document
that the tree is read from. -/
theorem Tree.hasDistinctKeys_of_ofValue {d : Value} {t : Tree} (hd : d.hasDistinctKeys = true)
    (h : Tree.ofValue d = .ok t) : t.root.HasDistinctKeys :=
  Tree.all_of_ofValue passes_hasDistinctKeys hd h

/-! ## Literals of JSON -/

/-- All allowed values, and all that the examples hold, are values of JSON. -/
structure Presentation.IsJson (about : Presentation) : Prop where
  enum : ∀ allowed ∈ about.enum, ∀ v ∈ allowed, v.isJson = true
  examples : ∀ es ∈ about.examples, ∀ e ∈ es, ∀ entry ∈ e, entry.2.isJson = true

/-- All allowed values within the node and its parts, and all that their examples hold, are values
of JSON. -/
def Node.IsJson (node : Node) : Prop := node.All Presentation.IsJson fun _ => True

/-- A property of values of JSON that passes to the items of lists and the entries of objects. -/
structure IsInherited (good : Value → Prop) : Prop where
  isJson : ∀ v, good v → v.isJson = true
  items : ∀ vs, good (.list vs) → ∀ v ∈ vs, good v
  entries : ∀ es, good (.object es) → ∀ e ∈ es, good e.2

/-- All allowed values have the property, and all that the examples hold. -/
structure Presentation.Holds (good : Value → Prop) (about : Presentation) : Prop where
  enum : ∀ allowed ∈ about.enum, ∀ v ∈ allowed, good v
  examples : ∀ es ∈ about.examples, ∀ e ∈ es, ∀ entry ∈ e, good entry.2

section Inherited

variable {good : Value → Prop}

theorem isInherited_isJson : IsInherited fun v => v.isJson = true where
  isJson _ h := h
  items _ := Value.isJson_list.mp
  entries _ h e he := (Value.isJson_object.mp h e he).2

/-- Whatever is read from the items of a list is read from values that have the property. -/
theorem exists_of_mem_list (hgood : IsInherited good) {α : Type} {read : Value → Checked α}
    {v : Value} {as : List α} (hv : good v) (h : Reading.list read v = .ok as) :
    ∀ a ∈ as, ∃ w : Value, good w ∧ read w = .ok a := by
  intro a ha
  obtain ⟨items, w, rfl, hw, hread⟩ :=
    Reading.exists_item_of_mem_list (hgood.isJson v hv) h a ha
  exact ⟨w, hgood.items items hv w hw, hread⟩

theorem exampleEntries_holds (hgood : IsInherited good) {v : Value} {e : ExampleEntries}
    (hv : good v) (h : exampleEntries v = .ok e) : ∀ entry ∈ e, good entry.2 := by
  cases v with
  | object entries =>
    intro entry hentry
    obtain ⟨e, he, heq⟩ := exists_of_mem_namedEntries h entry hentry
    rw [← heq]
    exact hgood.entries entries hv e he
  | _ => simp [exampleEntries, Checked.fail] at h

/-- The literals of a node have the properties that its document passes on. -/
theorem passes_holds (hgood : IsInherited good) :
    Passes good (Presentation.Holds good) fun _ => True where
  parts := hgood.entries
  about es about hes h := by
    obtain ⟨-, -, -, -, -, hexamples, henum, -⟩ := presentation_eq_ok_iff.mp h
    constructor
    · intro allowed hallowed v hv
      rw [hallowed] at henum
      obtain ⟨w, hw, hread⟩ := lookup_of_detail henum
      have hlist := hgood.entries es hes _ (Value.mem_of_lookup hw)
      obtain ⟨u, hu, heq⟩ := exists_of_mem_list hgood hlist hread v hv
      cases heq
      exact hu
    · intro examples hstated e he
      rw [hstated] at hexamples
      obtain ⟨w, hw, hread⟩ := lookup_of_detail hexamples
      have hlist := hgood.entries es hes _ (Value.mem_of_lookup hw)
      obtain ⟨u, hu, heq⟩ := exists_of_mem_list hgood hlist hread e he
      exact exampleEntries_holds hgood hu heq
  limits _ _ _ _ := trivial

end Inherited

/-- All literals of a tree that is read from JSON are values of JSON. -/
theorem Tree.isJson_of_ofValue {d : Value} {t : Tree} (hd : d.isJson = true)
    (h : Tree.ofValue d = .ok t) : t.root.IsJson :=
  (Tree.all_of_ofValue (passes_holds isInherited_isJson) hd h).imp
    (fun _ habout => ⟨habout.enum, habout.examples⟩) fun _ _ => trivial

/-! ## Literals that can be shown -/

/-- All allowed values can be shown. -/
def Presentation.IsShowable (about : Presentation) : Prop :=
  ∀ allowed ∈ about.enum, ∀ v ∈ allowed, v.isShowable = true

/-- All limits can be shown. -/
structure Bounds.IsShowable (limits : Bounds) : Prop where
  minLength : ∀ n ∈ limits.minLength, hasTooManyDigits n = false
  maxLength : ∀ n ∈ limits.maxLength, hasTooManyDigits n = false
  minimum : ∀ n ∈ limits.minimum, n.isShowable = true
  maximum : ∀ n ∈ limits.maximum, n.isShowable = true

theorem showable_of_detail {α : Type} {key name : String} {read : Value → Checked α}
    {good : α → Prop} {entries : Value.Entries} {o : Option α}
    (hes : (Value.object entries).isShowable = true)
    (hread : ∀ v a, v.isShowable = true → read v = .ok a → good a)
    (h : detail key name read entries = .ok o) : ∀ a ∈ o, good a := by
  rintro a rfl
  obtain ⟨v, hv, ha⟩ := lookup_of_detail h
  exact hread v a (Value.isShowable_of_lookup hes hv) ha

theorem passes_isShowable :
    Passes (fun v => v.isShowable = true) Presentation.IsShowable Bounds.IsShowable where
  parts es hes e he := (Value.isShowable_object.mp hes e he).2
  about es about hes h := by
    obtain ⟨-, -, -, -, -, -, hdetail, -⟩ := presentation_eq_ok_iff.mp h
    refine showable_of_detail hes (fun v allowed hv hread => ?_) hdetail
    refine Reading.forall_of_list_ok ?_ ?_ ?_ hread
    · rintro ws rfl
      exact Value.isShowable_list.mp hv
    · rintro ms rfl m hm
      have hm' : m.isShowable = true := by
        rw [Value.isShowable, List.all_eq_true] at hv
        exact hv m hm
      cases m <;> simp_all [Key.value, Value.isShowable, Key.isShowable]
    · rintro a b rfl
      simpa [Value.isShowable] using hv
  limits es limits hes h := by
    obtain ⟨-, h1, h2, h3, h4⟩ := bounds_eq_ok_iff.mp h
    exact ⟨showable_of_detail hes (fun _ _ => Reading.showable_of_integer) h1,
      showable_of_detail hes (fun _ _ => Reading.showable_of_integer) h2,
      showable_of_detail hes (fun _ _ => Reading.showable_of_number) h3,
      showable_of_detail hes (fun _ _ => Reading.showable_of_number) h4⟩

/-! ## Contracts that can be shown -/

theorem isShowable_rules {rs : List Rule} (h : ∀ r ∈ rs, r.operand.isShowable = true) :
    (Contract.rules rs).toValue.isShowable = true := by
  rw [Contract.toValue, Value.isShowable_record]
  induction rs with
  | nil => simp [ruleFields]
  | cons r rs ih =>
    rw [List.forall_mem_cons] at h
    rw [ruleFields, List.forall_mem_cons]
    exact ⟨h.1, ih h.2⟩

theorem isShowable_strings (texts : List String) : (Value.strings texts).isShowable = true := by
  rw [Value.strings, Value.isShowable_list, List.forall_mem_map]
  simp [Value.isShowable]

theorem isShowable_kindRule (kind : Kind) (nullable : Bool) :
    (kindRule kind nullable).operand.isShowable = true := by
  rw [kindRule, Rule.operand]
  cases nullable with
  | false => simp [Rule.kindsValue, Value.isShowable]
  | true => exact isShowable_strings _

theorem isShowable_enumRule {about : Presentation} (h : about.IsShowable) (nullable : Bool) :
    ∀ r ∈ enumRule about nullable, r.operand.isShowable = true := by
  unfold enumRule
  split
  · rename_i allowed henum
    rw [List.forall_mem_singleton, Rule.operand, Value.isShowable_list]
    have hall := h allowed henum
    cases nullable with
    | false => exact hall
    | true =>
      intro v hv
      rcases List.mem_append.mp hv with hv | hv
      · exact hall v hv
      · rw [List.mem_singleton.mp hv]
        rfl
  · simp

theorem isShowable_boundRule {α : Type} {rule : α → Rule} {o : Option α}
    (h : ∀ a ∈ o, (rule a).operand.isShowable = true) :
    ∀ r ∈ boundRule rule o, r.operand.isShowable = true := by
  cases o with
  | none => simp [boundRule]
  | some a => simpa [boundRule] using h a rfl

theorem isShowable_boundRules {limits : Bounds} (h : limits.IsShowable) (kind : Primitive) :
    ∀ r ∈ boundRules kind limits, r.operand.isShowable = true := by
  have hdate : ∀ r ∈ (if limits.format = some dateFormat then [Rule.date] else []),
      r.operand.isShowable = true := by
    split
    · simp [Rule.operand, Value.isShowable]
    · simp
  have hleast : ∀ r ∈ boundRule Rule.minLength limits.minLength, r.operand.isShowable = true := by
    refine isShowable_boundRule fun n hn => ?_
    simp [Rule.operand, Value.isShowable, Number.isShowable, h.minLength n hn]
  have hmost : ∀ r ∈ boundRule Rule.maxLength limits.maxLength, r.operand.isShowable = true := by
    refine isShowable_boundRule fun n hn => ?_
    simp [Rule.operand, Value.isShowable, Number.isShowable, h.maxLength n hn]
  have hbelow : ∀ r ∈ boundRule Rule.minimum limits.minimum, r.operand.isShowable = true := by
    refine isShowable_boundRule fun n hn => ?_
    simp [Rule.operand, Value.isShowable, h.minimum n hn]
  have habove : ∀ r ∈ boundRule Rule.maximum limits.maximum, r.operand.isShowable = true := by
    refine isShowable_boundRule fun n hn => ?_
    simp [Rule.operand, Value.isShowable, h.maximum n hn]
  cases kind with
  | string =>
    intro r hr
    rcases List.mem_append.mp hr with hr | hr
    · rcases List.mem_append.mp hr with hr | hr
      · exact hdate r hr
      · exact hleast r hr
    · exact hmost r hr
  | number | integer =>
    intro r hr
    rcases List.mem_append.mp hr with hr | hr
    · exact hbelow r hr
    · exact habove r hr
  | boolean => simp [boundRules]

theorem isShowable_entryRules (names required : List String) (additional : Option Bool) :
    ∀ r ∈ entryRules names required additional, r.operand.isShowable = true := by
  intro r hr
  rw [entryRules, List.mem_append] at hr
  rcases hr with hr | hr
  · split at hr
    · simp at hr
    · rw [List.mem_singleton.mp hr, Rule.operand]
      exact isShowable_strings required
  · split at hr
    · rw [List.mem_singleton.mp hr, Rule.operand]
      rfl
    · simp at hr

mutual

/-- The contract of a node whose literals can be shown can be shown. -/
theorem Node.isShowable_contract : (node : Node) →
    node.All Presentation.IsShowable Bounds.IsShowable → ∀ nullable,
      (node.contract nullable).toValue.isShowable = true
  | .primitive about kind limits, h, nullable => by
    refine isShowable_rules fun r hr => ?_
    rw [List.cons_append, List.mem_cons, List.mem_append] at hr
    rcases hr with rfl | hr | hr
    · exact isShowable_kindRule kind.kind nullable
    · exact isShowable_boundRules h.2 kind r hr
    · exact isShowable_enumRule h.1 nullable r hr
  | .array about items, h, nullable => by
    have hitems := Node.isShowable_contract items h.2 false
    refine isShowable_rules fun r hr => ?_
    rw [List.mem_append, List.mem_cons, List.mem_singleton] at hr
    rcases hr with (rfl | rfl) | hr
    · exact isShowable_kindRule .array nullable
    · rwa [Rule.operand]
    · exact isShowable_enumRule h.1 nullable r hr
  | .object about properties required additional, h, nullable => by
    have hkids := isShowable_childContracts required properties h.2
    refine isShowable_rules fun r hr => ?_
    rw [List.mem_append, List.mem_append, List.mem_cons, List.mem_singleton] at hr
    rcases hr with ((rfl | rfl) | hr) | hr
    · exact isShowable_kindRule .object nullable
    · rwa [Rule.operand, Value.isShowable_record]
    · exact isShowable_entryRules _ _ _ r hr
    · exact isShowable_enumRule h.1 nullable r hr
  | .unknown _ _ _, _, _ => rfl

theorem isShowable_childContracts (required : List String) : (kids : Properties) →
    AllWithin Presentation.IsShowable Bounds.IsShowable kids →
      ∀ field ∈ contractFields (childContracts required kids), field.2.isShowable = true
  | [], _ => by simp [childContracts, contractFields]
  | (name, node) :: rest, h => by
    rw [childContracts, contractFields, List.forall_mem_cons]
    exact ⟨Node.isShowable_contract node h.1 _, isShowable_childContracts required rest h.2⟩

end

/-- The contract of a tree that is read from a document that can be shown can be shown. -/
theorem Tree.showable_contract {d : Value} {t : Tree} (hd : d.isShowable = true)
    (h : Tree.ofValue d = .ok t) : t.contract.toValue.isShowable = true :=
  Node.isShowable_contract t.root (Tree.all_of_ofValue passes_isShowable hd h) false

end ExtractionSchema.Wire
