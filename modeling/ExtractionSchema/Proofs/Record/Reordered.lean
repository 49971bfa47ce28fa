import ExtractionSchema.Proofs.Contract.Reordered
import ExtractionSchema.Proofs.Contract.Sorted
import ExtractionSchema.Record.Contract

/-!
# Validation and the order of entries

The properties of an object node can stand in another order, and so can the entries of a record and
of the objects within it. Trees that differ in this find the same violations in a record, one after
the other in another order, and sorting by path and message leaves no trace of it. A record that is
reordered stays valid or stays invalid.

* `Wire.Node.Reordered` relates a node and those that it becomes.
* `Wire.Node.Reordered.violations_perm`: the same violations are found.
* `Wire.Tree.validate_reordered`: the same is told about every record.
-/

namespace ExtractionSchema

/-! ## Violations of the parts of a value -/

/-- Items with the same violations one by one have the same violations. -/
theorem violationsOfItems_perm {check check' : Value → List Violation}
    (h : ∀ v, (check v).Perm (check' v)) (i : Nat) (vs : List Value) :
    (violationsOfItems check i vs).Perm (violationsOfItems check' i vs) := by
  induction vs generalizing i with
  | nil => exact .nil
  | cons v vs ih => exact ((h v).map _).append (ih (i + 1))

/-- The violations of an entry under a declared name, if it is there. -/
def violationsOfChild (entries : Value.Entries) (child : String × Contract) : List Violation :=
  match Value.lookup (.name child.1) entries with
  | some v => (child.2.violations v).map (Violation.under (.name child.1))
  | none => []

theorem violationsOfChildren_eq_flatMap (children : List (String × Contract))
    (entries : Value.Entries) :
    violationsOfChildren children entries = children.flatMap (violationsOfChild entries) := by
  induction children with
  | nil => rfl
  | cons child children ih =>
    rw [violationsOfChildren, ih, List.flatMap_cons]
    rfl

theorem violationsOfChild_perm {name : String} {c c' : Contract}
    (h : ∀ v, (c.violations v).Perm (c'.violations v)) (entries : Value.Entries) :
    (violationsOfChild entries (name, c)).Perm (violationsOfChild entries (name, c')) := by
  unfold violationsOfChild
  cases Value.lookup (.name name) entries with
  | none => exact .nil
  | some v => exact (h v).map _

/-! ## Reordered nodes -/

namespace Wire

mutual

/-- A node becomes another when the properties of object nodes within it are permuted, at any
depth. -/
inductive Node.Reordered : Node → Node → Prop
  | same {node : Node} : Node.Reordered node node
  | array {about : Presentation} {items items' : Node} (change : Node.Reordered items items') :
      Node.Reordered (.array about items) (.array about items')
  | object {about : Presentation} {kids mid kids' : List (String × Node)} {required : List String}
      {more : Option Bool} (each : KidsReordered kids mid) (order : mid.Perm kids') :
      Node.Reordered (.object about kids required more) (.object about kids' required more)

/-- Children under the same names, place by place, which are reordered. -/
inductive KidsReordered : List (String × Node) → List (String × Node) → Prop
  | nil : KidsReordered [] []
  | cons {name : String} {kid kid' : Node} {kids kids' : List (String × Node)}
      (head : Node.Reordered kid kid') (tail : KidsReordered kids kids') :
      KidsReordered ((name, kid) :: kids) ((name, kid') :: kids')

end

theorem KidsReordered.map_fst {kids kids' : Properties} (h : KidsReordered kids kids') :
    kids.map (·.1) = kids'.map (·.1) := by
  induction kids generalizing kids' with
  | nil =>
    cases h
    rfl
  | cons kid kids ih =>
    cases h with
    | cons _ tail => simp only [List.map_cons, ih tail]

/-- The rules on the entries of an object look at the declared names, not at their order. -/
theorem violations_entryRules_of_perm {names names' : List String} (h : names.Perm names')
    (required : List String) (more : Option Bool) (v : Value) :
    violationsOfRules (entryRules names required more) v =
      violationsOfRules (entryRules names' required more) v := by
  have hundeclared : ∀ entries, undeclared names entries = undeclared names' entries := by
    intro entries
    have hcontains : ∀ key, (names.map Key.name).contains key =
        (names'.map Key.name).contains key := by
      intro key
      rw [Bool.eq_iff_iff, List.contains_iff_mem, List.contains_iff_mem]
      exact (h.map Key.name).mem_iff
    simp only [undeclared, hcontains]
  have hclosed : (Rule.closed names).violations v = (Rule.closed names').violations v := by
    cases v <;> simp [Rule.violations, Rule.violationsOfWhole, hundeclared]
  rw [entryRules, entryRules, violationsOfRules_append, violationsOfRules_append]
  split <;> split <;> simp [violationsOfRules, hclosed]

mutual

/-- A reordered node finds the same violations in every value. -/
theorem Node.Reordered.violations_perm : (node : Node) → {node' : Node} → node.Reordered node' →
    (nullable : Bool) → (v : Value) →
      ((node.contract nullable).violations v).Perm ((node'.contract nullable).violations v)
  | .array about items, _, h, nullable, v => by
    cases h with
    | same => exact .refl _
    | @array _ _ items' change =>
      have heach := Node.Reordered.violations_perm items change false
      have hitems : ((Rule.items (items.contract false)).violations v).Perm
          ((Rule.items (items'.contract false)).violations v) := by
        cases v with
        | list vs => exact violationsOfItems_perm heach 0 vs
        | _ => exact .nil
      simp only [Node.contract, Contract.violations, violationsOfRules_append, violationsOfRules,
        List.append_nil]
      exact (hitems.append_left _).append_right _
  | .object about kids required more, _, h, nullable, v => by
    cases h with
    | same => exact .refl _
    | @object _ _ mid kids' _ _ each order =>
      have hkids : ((Rule.fields (childContracts required kids)).violations v).Perm
          ((Rule.fields (childContracts required kids')).violations v) := by
        cases v with
        | object entries =>
          have horder := order.map fun kid => (kid.1, kid.2.contract (!required.contains kid.1))
          rw [← childContracts_eq_map, ← childContracts_eq_map] at horder
          have hmid := KidsReordered.violations_perm kids each required entries
          simp only [Rule.violations, violationsOfChildren_eq_flatMap] at hmid ⊢
          exact hmid.trans (horder.flatMap_right _)
        | _ => exact .nil
      have hnames : (kids.map (·.1)).Perm (kids'.map (·.1)) := by
        rw [each.map_fst]
        exact order.map _
      simp only [Node.contract, Contract.violations, violationsOfRules_append, violationsOfRules,
        List.append_nil, violations_entryRules_of_perm hnames]
      exact ((hkids.append_left _).append_right _).append_right _
  | .primitive _ _ _, _, h, _, _ | .unknown _ _ _, _, h, _, _ => by
    cases h
    exact .refl _

theorem KidsReordered.violations_perm : (kids : List (String × Node)) →
    {kids' : List (String × Node)} → KidsReordered kids kids' → (required : List String) →
      (entries : Value.Entries) →
        (violationsOfChildren (childContracts required kids) entries).Perm
          (violationsOfChildren (childContracts required kids') entries)
  | [], _, h, _, _ => by
    cases h
    exact .refl _
  | (name, kid) :: kids, _, h, required, entries => by
    cases h with
    | cons head tail =>
      have hrest := KidsReordered.violations_perm kids tail required entries
      simp only [violationsOfChildren_eq_flatMap, childContracts, List.flatMap_cons] at hrest ⊢
      exact (violationsOfChild_perm (Node.Reordered.violations_perm kid head _) entries).append
        hrest

end

end Wire

/-! ## Sorted mismatches -/

namespace Mismatch

/-- What is told of a mismatch: its path and its message. -/
def told (m : Mismatch) : String × String := (m.path, m.message)

theorem comesBefore_eq (m n : Mismatch) :
    m.comesBefore n = textsLe [m.path, m.message] [n.path, n.message] := by
  by_cases hpath : m.path = n.path
  · by_cases hmessage : m.message = n.message
    · have hirrefl : ¬ n.message < n.message := String.lt_irrefl _
      simp only [comesBefore, textsLe, hpath, hmessage, if_true, hirrefl, decide_false,
        Bool.not_false]
    · have hlt : ¬ n.message < m.message ↔ m.message < n.message := by
        constructor
        · intro hnot
          by_contra hlt
          exact hmessage (String.le_antisymm hnot hlt)
        · exact String.lt_asymm
      simp only [comesBefore, textsLe, hpath, hmessage, if_true, if_false, ← decide_not, hlt]
  · simp [comesBefore, textsLe, hpath]

/-- The written form of a mismatch, from what is told of it. -/
theorem text_eq (m : Mismatch) :
    m.text = if m.told.1 = "" then m.told.2 else m.told.1 ++ ": " ++ m.told.2 :=
  rfl

end Mismatch

theorem pairwise_validate (c : Contract) (record : Value) :
    (validate c record).Pairwise fun m n => m.comesBefore n = true := by
  apply List.pairwise_mergeSort
  · intro m n o hmn hno
    rw [Mismatch.comesBefore_eq] at hmn hno ⊢
    exact textsLe_trans hmn hno
  · intro m n
    rw [Mismatch.comesBefore_eq, Mismatch.comesBefore_eq]
    exact textsLe_total _ _

/-- Where the same violations are found, the same is told, in the same order. -/
theorem map_told_validate_of_perm {c c' : Contract} {record : Value}
    (h : (c.violations record).Perm (c'.violations record)) :
    (validate c record).map Mismatch.told = (validate c' record).map Mismatch.told := by
  have hperm : (validate c record).Perm (validate c' record) :=
    (List.mergeSort_perm _ _).trans ((h.map _).trans (List.mergeSort_perm _ _).symm)
  have hsorted : ∀ c : Contract, ((validate c record).map Mismatch.told).Pairwise fun x y =>
      textsLe [x.1, x.2] [y.1, y.2] = true := by
    intro c
    rw [List.pairwise_map]
    refine (pairwise_validate c record).imp fun {m n} hmn => ?_
    rwa [Mismatch.comesBefore_eq] at hmn
  refine (hperm.map Mismatch.told).eq_of_pairwise (fun x y _ _ hxy hyx => ?_) (hsorted c)
    (hsorted c')
  have htexts := textsLe_antisymm hxy hyx
  rw [List.cons.injEq, List.cons.injEq] at htexts
  exact Prod.ext htexts.1 htexts.2.1

/-- Where the same is told, the first mismatch has the same written form. -/
theorem map_text_firstMismatch {c c' : Contract} {record : Value}
    (h : (validate c record).map Mismatch.told = (validate c' record).map Mismatch.told) :
    (firstMismatch c record).map Mismatch.text = (firstMismatch c' record).map Mismatch.text := by
  rw [firstMismatch, firstMismatch]
  generalize validate c record = ms, validate c' record = ns at h ⊢
  cases ms with
  | nil =>
    cases ns with
    | nil => rfl
    | cons n ns => cases h
  | cons m ms =>
    cases ns with
    | nil => cases h
    | cons n ns =>
      have htold : m.told = n.told := (List.cons.inj h).1
      simp only [List.head?_cons, Option.map_some, Mismatch.text_eq, htold]

/-! ## The law -/

namespace Wire

variable {t t' : Tree}

/-- Trees whose object nodes have their properties in another order tell the same about every
record, in the same order, and one can be told where the other can. A document that has its entries
in another order, at any depth, is valid where it was valid before. -/
theorem Tree.validate_reordered (h : t.root.Reordered t'.root) (record : Value) :
    (validate t'.contract record).map Mismatch.told =
        (validate t.contract record).map Mismatch.told ∧
      (firstMismatch t'.contract record).map Mismatch.text =
        (firstMismatch t.contract record).map Mismatch.text ∧
      t'.contract.obstacle record = t.contract.obstacle record ∧
      ∀ record', record.isDocument = true → record.Reordered record' →
        (validate t'.contract record' = [] ↔ validate t.contract record = []) := by
  have hperm : (t.contract.violations record).Perm (t'.contract.violations record) :=
    Node.Reordered.violations_perm _ h false record
  have htold := (map_told_validate_of_perm hperm).symm
  refine ⟨htold, map_text_firstMismatch htold, ?_, ?_⟩
  · have hall : (t'.contract.violations record).all Violation.isShowable =
        (t.contract.violations record).all Violation.isShowable := hperm.symm.all_eq
    rw [Contract.obstacle, Contract.obstacle, hall]
  · intro record' hdocument hrecord
    have hmet := Contract.violations_eq_nil_iff_reordered t'.contract hdocument hrecord
    rw [validate_eq_nil_iff, validate_eq_nil_iff, Contract.accepts_iff, Contract.accepts_iff,
      ← hmet]
    constructor
    · intro hnil
      rw [hnil] at hperm
      exact hperm.eq_nil
    · intro hnil
      rw [hnil] at hperm
      exact hperm.symm.eq_nil

/-- A buyer, with the country as one of some objects. -/
def buyerKids : Properties :=
  [("name", .primitive {} .string { minLength := some 1 }),
    ("country", .object
      { enum := some [.record [("code", .string "NL"), ("eu", .bool true)]] } [] [] none)]

/-- A tree of a booking with a buyer. -/
def bookingTree : Tree :=
  ⟨none, {}, [("buyer", .object {} buyerKids ["name"] (some false)),
    ("paid", .primitive {} .boolean {})], ["paid"], none⟩

/-- The tree with its properties, and those of the buyer, in another order. -/
def bookingTreeReordered : Tree :=
  ⟨none, {}, [("paid", .primitive {} .boolean {}),
    ("buyer", .object {} buyerKids.reverse ["name"] (some false))], ["paid"], none⟩

/-- A record of a booking. -/
def bookingRecord : Value :=
  .record [("buyer", .record [("name", .string "x"),
    ("country", .record [("eu", .bool true), ("code", .string "NL")])]), ("paid", .bool true)]

/-- The record with the entries of the country in another order. -/
def bookingRecordReordered : Value :=
  .record [("buyer", .record [("name", .string "x"),
    ("country", .record [("code", .string "NL"), ("eu", .bool true)])]), ("paid", .bool true)]

theorem Tree.validate_reordered_booking :
    bookingTree.root.Reordered bookingTreeReordered.root ∧
      bookingRecord.Reordered bookingRecordReordered ∧
      (∀ record, (validate bookingTreeReordered.contract record).map Mismatch.told =
        (validate bookingTree.contract record).map Mismatch.told) ∧
      validate bookingTreeReordered.contract bookingRecordReordered = [] := by
  have htree : bookingTree.root.Reordered bookingTreeReordered.root :=
    .object (.cons (.object (.cons .same (.cons .same .nil)) (List.reverse_perm _).symm)
      (.cons .same .nil)) (.swap _ _ _)
  have hrecord : bookingRecord.Reordered bookingRecordReordered :=
    .object (.cons (.object (.cons .same (.cons (.object (.cons .same (.cons .same .nil))
      (.swap _ _ _)) .nil)) (.refl _)) (.cons .same .nil)) (.refl _)
  have hvalid : validate bookingTree.contract bookingRecord = [] := by
    rw [validate_eq_nil_iff]
    rfl
  refine ⟨htree, hrecord, fun record => (Tree.validate_reordered htree record).1, ?_⟩
  exact ((Tree.validate_reordered htree bookingRecord).2.2.2 bookingRecordReordered (by decide)
    hrecord).mpr hvalid

end Wire

end ExtractionSchema
