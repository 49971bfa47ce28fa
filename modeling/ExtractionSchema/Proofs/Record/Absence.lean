import ExtractionSchema.Proofs.Contract.Relaxation
import ExtractionSchema.Proofs.Record.Conformance
import ExtractionSchema.Proofs.Record.Missing

/-!
# Absent fields and `null`

A field that is not required may be left out, and it may be `null` as well: a record is accepted in
the one form exactly when it is accepted in the other, wherever in the record the field stands. The
only thing that can tell the two apart is a list of allowed values further up, which looks at an
object as a whole. A required field of a known type may be neither.

* `Value.changeAt` changes the part of a value at a location.
* `Node.Matches.violations_changeAt_eq_nil_iff`: what makes no difference for a part makes none for
  the record.
* `Tree.null_interchangeable` is the law.
-/

namespace ExtractionSchema

/-! ## Changed parts -/

namespace Value

/-- The value in which the part at a location is changed, if there is one. -/
def changeAt (change : Value → Value) : List Step → Value → Value
  | [], v => change v
  | .name name :: steps, .object entries =>
    match lookup (.name name) entries with
    | some w => .object (put (.name name) (changeAt change steps w) entries)
    | none => .object entries
  | .index (.ofNat i) :: steps, .list items => .list (items.modify i (changeAt change steps))
  | _ :: _, v => v

/-- The object in which an entry is set to `null`. -/
def setNull (name : String) : Value → Value
  | .object entries => .object (put (.name name) .null entries)
  | v => v

theorem changeAt_child (change : Value → Value) {name : String} {entries : Entries} {w : Value}
    (h : lookup (.name name) entries = some w) (steps : List Step) :
    (Value.object entries).changeAt change (.name name :: steps) =
      .object (put (.name name) (w.changeAt change steps) entries) := by
  rw [changeAt, h]

theorem changeAt_item (change : Value → Value) (items : List Value) (i : Nat)
    (steps : List Step) : (Value.list items).changeAt change (.item i :: steps) =
      .list (items.modify i (changeAt change steps)) :=
  rfl

end Value

/-- What all items of a list have, all have when one is changed, if the change makes no
difference. -/
theorem forall_mem_modify_iff {α : Type} {p : α → Prop} {f : α → α} {as : List α} {i : Nat}
    {a : α} (ha : as[i]? = some a) (h : p (f a) ↔ p a) :
    (∀ b ∈ as.modify i f, p b) ↔ ∀ b ∈ as, p b := by
  induction as generalizing i with
  | nil => simp at ha
  | cons b as ih =>
    cases i with
    | zero =>
      obtain rfl : b = a := by simpa using ha
      rw [List.modify_zero_cons, List.forall_mem_cons, List.forall_mem_cons, h]
    | succ i =>
      rw [List.modify_succ_cons, List.forall_mem_cons, List.forall_mem_cons,
        ih (by simpa using ha)]

namespace Wire

/-! ## Nodes and `null` -/

/-- Whether the type of a node is known. -/
def Node.hasKnownType : Node → Bool
  | .unknown _ _ _ => false
  | _ => true

variable {about : Presentation} {kids : Properties} {required : List String} {more : Option Bool}
  {nullable : Bool}

/-- A node that admits `null` lists it among its allowed values. -/
theorem enumRule_null (about : Presentation) :
    ∀ r ∈ enumRule about true, r.violations .null = [] := by
  unfold enumRule
  cases about.enum with
  | none => simp
  | some allowed =>
    simp only [if_true, List.forall_mem_singleton, Rule.enum_eq_nil_iff]
    exact ⟨.null, by simp, rfl⟩

/-- The contract of a node takes `null` where that is admitted, and where nothing is asked. -/
theorem Node.violations_null_eq_nil_iff {node : Node} :
    (node.contract nullable).violations .null = [] ↔
      nullable = true ∨ node.hasKnownType = false := by
  have hkind : ∀ kind : Kind, kind ≠ .null →
      ((kindRule kind nullable).violations .null = [] ↔ nullable = true) := by
    intro kind hne
    rw [kindRule_eq_nil_iff]
    cases kind <;> simp [Kind.admits] at hne ⊢
  -- a node of a known type asks for its kind first, and `null` breaks no other rule
  have hknown : ∀ {kind : Kind} {about : Presentation} {rest : Prop}, kind ≠ .null →
      (nullable = true → rest) →
      ((kindRule kind nullable).violations .null = [] ∧ rest ∧
        (∀ r ∈ enumRule about nullable, r.violations .null = []) ↔ nullable = true) := by
    intro kind about rest hne hrest
    rw [hkind kind hne]
    constructor
    · exact fun h => h.1
    · rintro rfl
      exact ⟨rfl, hrest rfl, enumRule_null about⟩
  cases node with
  | primitive about kind limits =>
    have hlimits : ∀ r ∈ boundRules kind limits, r.violations .null = [] := by
      rw [boundRules_eq_nil_iff]
      cases kind <;> simp [Bounds.Hold]
    rw [Node.contract, Contract.violations_eq_nil_iff, List.cons_append, List.forall_mem_cons,
      List.forall_mem_append, hknown (by cases kind <;> simp [Primitive.kind]) fun _ => hlimits]
    simp [hasKnownType]
  | array about items =>
    have hitems : nullable = true → ∀ vs, Value.null = .list vs →
        ∀ w ∈ vs, (items.contract false).violations w = [] := by
      intro _ vs hvs
      cases hvs
    rw [Node.violations_array_eq_nil_iff, hknown (by simp) hitems]
    simp [hasKnownType]
  | object about kids required more =>
    have hparts : nullable = true → (∀ entries, Value.null = .object entries → ∀ kid ∈ kids, ∀ w,
        Value.lookup (.name kid.1) entries = some w →
          (kid.2.contract (!required.contains kid.1)).violations w = []) ∧
        ∀ r ∈ entryRules (kids.map (·.1)) required more, r.violations .null = [] := by
      intro _
      constructor
      · intro entries hentries
        cases hentries
      · rw [entryRules_eq_nil_iff]
        intro entries hentries
        cases hentries
    rw [Node.violations_object_eq_nil_iff, ← and_assoc (c := ∀ r ∈ enumRule _ _, _),
      hknown (by simp) hparts]
    simp [hasKnownType]
  | unknown about type raw =>
    simp [Node.contract, Contract.violations_eq_nil_iff, hasKnownType]

/-! ## Objects with one more entry or another value -/

/-- For an object without allowed values of its own, an entry makes no difference if the child of
its name takes the new value exactly when it takes the old one. -/
theorem Node.violations_put_eq_nil_iff {entries : Value.Entries} {name : String} {w : Value}
    (henum : about.enum = none) (hdeclared : name ∈ kids.map (·.1))
    (hrequired : name ∈ required → ∃ u, Value.lookup (.name name) entries = some u)
    (hkid : ∀ kid ∈ kids, kid.1 = name →
      ((kid.2.contract (!required.contains name)).violations w = [] ↔
        ∀ u, Value.lookup (.name name) entries = some u →
          (kid.2.contract (!required.contains name)).violations u = [])) :
    ((Node.object about kids required more).contract nullable).violations
        (.object (Value.put (.name name) w entries)) = [] ↔
      ((Node.object about kids required more).contract nullable).violations
        (.object entries) = [] := by
  have hkind : ∀ entries, (kindRule .object nullable).violations (.object entries) = [] := by
    intro entries
    rw [kindRule_eq_nil_iff]
    exact .inl rfl
  have hchildren : (∀ kid ∈ kids, ∀ u,
      Value.lookup (.name kid.1) (Value.put (.name name) w entries) = some u →
        (kid.2.contract (!required.contains kid.1)).violations u = []) ↔
      ∀ kid ∈ kids, ∀ u, Value.lookup (.name kid.1) entries = some u →
        (kid.2.contract (!required.contains kid.1)).violations u = [] := by
    refine forall₂_congr fun kid hmem => ?_
    by_cases hname : kid.1 = name
    · rw [hname, Value.lookup_put_self, ← hkid kid hmem hname]
      simp
    · rw [Value.lookup_put_of_ne fun heq => hname (Key.name.inj heq)]
  have hnames : ∀ other ∈ required,
      ((∃ u, Value.lookup (.name other) (Value.put (.name name) w entries) = some u) ↔
        ∃ u, Value.lookup (.name other) entries = some u) := by
    intro other hother
    by_cases hname : other = name
    · subst hname
      exact iff_of_true ⟨w, Value.lookup_put_self _ _ _⟩ (hrequired hother)
    · rw [Value.lookup_put_of_ne fun heq => hname (Key.name.inj heq)]
  -- the entry is declared, whether or not it was there before
  have hkeys : (∀ e ∈ Value.put (.name name) w entries,
        ∃ declared ∈ kids.map (·.1), e.1 = .name declared) ↔
      ∀ e ∈ entries, ∃ declared ∈ kids.map (·.1), e.1 = .name declared := by
    have hown : ∃ declared ∈ kids.map (·.1), Key.name name = .name declared :=
      ⟨name, hdeclared, rfl⟩
    constructor
    · intro h e he
      have hmem : e.1 ∈ (Value.put (.name name) w entries).map Prod.fst := by
        rw [Value.keys_put]
        exact Value.mem_keysWith (List.mem_map_of_mem he)
      obtain ⟨e', he', heq⟩ := List.mem_map.mp hmem
      rw [← heq]
      exact h e' he'
    · intro h
      exact Value.forall_mem_put hown h
  simp only [Node.violations_object_eq_nil_iff, hkind, enumRule_of_none henum,
    entryRules_eq_nil_iff, Value.object.injEq, forall_eq', hchildren, hkeys, true_and,
    List.not_mem_nil, false_implies, implies_true, and_true]
  rw [forall₂_congr hnames]

/-! ## Records with a changed part -/

/-- No node that is matched on the way to a location has allowed values. -/
def Node.HasNoEnumTo (root : Node) (v : Value) (location : List Step) : Prop :=
  ∀ before, before <+: location → ∀ node w, root.Matches v before node w → node.about.enum = none

namespace Node.HasNoEnumTo

theorem enum {root : Node} {v : Value} {location : List Step} (h : root.HasNoEnumTo v location) :
    root.about.enum = none :=
  h [] List.nil_prefix root v .here

theorem item {items : Node} {vs : List Value} {i : Nat} {w : Value} {location : List Step}
    (h : (Node.array about items).HasNoEnumTo (.list vs) (.item i :: location))
    (hitem : vs[i]? = some w) : items.HasNoEnumTo w location := by
  intro before hbefore node u hmatch
  exact h (.item i :: before) (List.cons_prefix_cons.mpr ⟨rfl, hbefore⟩) node u (.item hitem hmatch)

theorem child {name : String} {kid : Node} {entries : Value.Entries} {w : Value}
    {location : List Step}
    (h : (Node.object about kids required more).HasNoEnumTo (.object entries)
      (.name name :: location)) (hkid : (name, kid) ∈ kids)
    (hlookup : Value.lookup (.name name) entries = some w) : kid.HasNoEnumTo w location := by
  intro before hbefore node u hmatch
  exact h (.name name :: before) (List.cons_prefix_cons.mpr ⟨rfl, hbefore⟩) node u
    (.child hkid hlookup hmatch)

end Node.HasNoEnumTo

section Matching

variable {root node : Node} {v w : Value} {location : List Step}

/-- A node that takes a value takes, with its parts, the parts that they are matched to. -/
theorem Node.Matches.exists_violations_eq_nil (h : root.Matches v location node w)
    (hv : (root.contract nullable).violations v = []) :
    ∃ nullable', (node.contract nullable').violations w = [] := by
  induction h generalizing nullable with
  | here => exact ⟨nullable, hv⟩
  | item hitem _ ih =>
    rw [Node.violations_array_eq_nil_iff] at hv
    exact ih (hv.2.1 _ rfl _ (List.mem_of_getElem? hitem))
  | child hkid hlookup _ ih =>
    rw [Node.violations_object_eq_nil_iff] at hv
    exact ih (hv.2.1 _ rfl _ hkid _ hlookup)

/-- A change that makes no difference for the node that a part is matched to makes none for the
value, if no node on the way has allowed values. -/
theorem Node.Matches.violations_changeAt_eq_nil_iff (h : root.Matches v location node w)
    (hnames : root.hasDistinctNames = true) (henum : root.HasNoEnumTo v location)
    (change : Value → Value)
    (hchange : ∀ nullable, (node.contract nullable).violations (change w) = [] ↔
      (node.contract nullable).violations w = []) (nullable : Bool) :
    (root.contract nullable).violations (v.changeAt change location) = [] ↔
      (root.contract nullable).violations v = [] := by
  induction h generalizing nullable with
  | here => exact hchange nullable
  | @item about items node vs i w v location hitem _ ih =>
    have hpart := ih hnames (henum.item hitem) hchange false
    have hkind : ∀ vs, (kindRule .array nullable).violations (.list vs) = [] := by
      intro vs
      rw [kindRule_eq_nil_iff]
      exact .inl rfl
    have hown : about.enum = none := henum.enum
    simp only [Value.changeAt_item, Node.violations_array_eq_nil_iff, hkind,
      enumRule_of_none hown, Value.list.injEq, forall_eq', List.not_mem_nil, false_implies,
      implies_true, and_true, true_and,
      forall_mem_modify_iff (p := fun w => (items.contract false).violations w = []) hitem hpart]
  | @child about kids required more entries name kid node w v location hkid hlookup _ ih =>
    obtain ⟨hdistinct, hkids⟩ := Node.hasDistinctNames_object.mp hnames
    rw [Value.changeAt_child change hlookup]
    refine Node.violations_put_eq_nil_iff henum.enum (List.mem_map_of_mem hkid)
      (fun _ => ⟨_, hlookup⟩) fun other hother hname => ?_
    -- there is one child of the name only
    obtain rfl : other = (name, kid) := List.inj_on_of_nodup_map hdistinct hother hkid hname
    have hpart := ih (hkids _ hkid) (henum.child hkid hlookup) hchange (!required.contains name)
    rw [hpart]
    simp [hlookup]

end Matching

/-! ## The law -/

/-- Let an object of a record be matched to a node. For a child that is not required and absent it
makes no difference if the record has `null` there, provided that no node on the way has allowed
values; a record in which a required child of a known type is absent or `null` is not accepted. -/
theorem Tree.null_interchangeable {t : Tree} (hnames : t.root.hasDistinctNames = true)
    {record : Value} {location : List Step} {entries : Value.Entries}
    (hmatch : t.root.Matches record location (.object about kids required more) (.object entries))
    {name : String} {kid : Node} (hkid : (name, kid) ∈ kids) :
    (name ∉ required → Value.lookup (.name name) entries = none →
      t.root.HasNoEnumTo record location →
        t.contract.accepts (record.changeAt (Value.setNull name) location) =
            t.contract.accepts record ∧
          (validate t.contract (record.changeAt (Value.setNull name) location) = [] ↔
            validate t.contract record = [])) ∧
    (name ∈ required → kid.hasKnownType = true →
      Value.lookup (.name name) entries = none ∨ Value.lookup (.name name) entries = some .null →
        t.contract.accepts record = false ∧ validate t.contract record ≠ []) := by
  constructor
  · intro hoptional habsent henum
    have hown : (Node.object about kids required more).about.enum = none :=
      henum location List.prefix_rfl _ _ hmatch
    have hiff := hmatch.violations_changeAt_eq_nil_iff hnames henum (Value.setNull name)
      (fun nullable => Node.violations_put_eq_nil_iff hown (List.mem_map_of_mem hkid)
        (fun h => absurd h hoptional) fun other _ _ => by
          simp [habsent, hoptional, Node.violations_null_eq_nil_iff]) false
    have haccepts : t.contract.accepts (record.changeAt (Value.setNull name) location) =
        t.contract.accepts record := by
      rw [Bool.eq_iff_iff, Contract.accepts_iff, Contract.accepts_iff]
      exact hiff
    exact ⟨haccepts, by rw [validate_eq_nil_iff, validate_eq_nil_iff, haccepts]⟩
  · intro hrequired hknown hstated
    have hrejects : ¬ t.contract.accepts record = true := by
      intro haccepts
      rw [Contract.accepts_iff] at haccepts
      obtain ⟨nullable, hnode⟩ := hmatch.exists_violations_eq_nil haccepts
      obtain ⟨-, hchildren, hentries, -⟩ := Node.violations_object_eq_nil_iff.mp hnode
      rcases hstated with habsent | hnull
      · obtain ⟨u, hu⟩ := (entryRules_eq_nil_iff.mp hentries _ rfl).1 name hrequired
        rw [habsent] at hu
        cases hu
      · have hkidNull := hchildren _ rfl _ hkid _ hnull
        rw [Node.violations_null_eq_nil_iff] at hkidNull
        simp [hrequired, hknown] at hkidNull
    exact ⟨Bool.eq_false_iff.mpr hrejects, fun h => hrejects (validate_eq_nil_iff.mp h)⟩

/-- A line of a delivery: the article, which is required, and a remark out of two. -/
def deliveredLine : Properties :=
  [("sku", .primitive {} .string {}),
    ("remark", .primitive { enum := some [.string "late", .string "lost"] } .string
      { minLength := some 1 })]

/-- A tree of a list of delivered lines, which state nothing else. -/
def deliveryTree : Tree :=
  ⟨none, {}, [("lines", .array {} (.object {} deliveredLine ["sku"] (some false)))], ["lines"],
    none⟩

/-- A record of two lines, with a remark on the first. -/
def deliveryRecord : Value :=
  .record [("lines", .list [.record [("sku", .string "x"), ("remark", .string "late")],
    .record [("sku", .string "y")]])]

theorem Tree.null_interchangeable_delivery :
    deliveryTree.root.hasDistinctNames = true ∧
      deliveryTree.contract.accepts deliveryRecord = true ∧
      deliveryTree.contract.accepts (deliveryRecord.changeAt (Value.setNull "remark")
        [.name "lines", .item 1]) = true ∧
      deliveryTree.contract.accepts (deliveryRecord.changeAt (Value.setNull "sku")
        [.name "lines", .item 1]) = false := by
  have hnames : deliveryTree.root.hasDistinctNames = true := by decide
  have haccepts : deliveryTree.contract.accepts deliveryRecord = true := by rfl
  have hline : ∀ entries : Value.Entries, deliveryTree.root.Matches
      (.record [("lines", .list [.record [("sku", .string "x"), ("remark", .string "late")],
        .object entries])]) [.name "lines", .item 1]
      (.object {} deliveredLine ["sku"] (some false)) (.object entries) :=
    fun entries => .child List.mem_cons_self rfl (.item rfl .here)
  have henum : deliveryTree.root.HasNoEnumTo deliveryRecord [.name "lines", .item 1] := by
    intro before hbefore node w h
    cases h with
    | here => rfl
    | child hkid _ h =>
      obtain ⟨-, rfl⟩ := Prod.mk.inj (List.mem_singleton.mp hkid)
      cases h with
      | here => rfl
      | item _ h =>
        have hend := (List.cons_prefix_cons.mp (List.cons_prefix_cons.mp hbefore).2).2
        obtain rfl := List.prefix_nil.mp hend
        cases h
        rfl
  refine ⟨hnames, haccepts, ?_, ?_⟩
  · have hremark := (Tree.null_interchangeable hnames (hline [(.name "sku", .string "y")])
      (List.mem_cons_of_mem _ List.mem_cons_self)).1
    rw [← haccepts]
    exact (hremark (by decide) rfl henum).1
  · exact ((Tree.null_interchangeable hnames (hline [(.name "sku", .null)])
      List.mem_cons_self).2 (by decide) rfl (.inr rfl)).1

end Wire

end ExtractionSchema
