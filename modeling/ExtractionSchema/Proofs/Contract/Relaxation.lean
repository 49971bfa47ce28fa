import ExtractionSchema.Proofs.Contract.Acceptance
import ExtractionSchema.Record.Contract

/-!
# Contracts that ask for no more

A contract entails another one when every value that it accepts is accepted there, too. Rules are
compared one by one: it is enough that each rule of the weaker contract follows from some rule of
the stronger one, so that rules may be left out, and a rule on parts follows from one that asks more
of the parts.

* `Contract.entails_rules` and the lemmas on rules that follow it.
* `Node.entails_object`: the contract of an object may ask less of its children and for fewer of
  them.
-/

namespace ExtractionSchema

/-- Every value that keeps the rule keeps the other one. -/
def Rule.Entails (r r' : Rule) : Prop := ∀ v, r.violations v = [] → r'.violations v = []

/-- Every value that the contract accepts is accepted by the other one. -/
def Contract.Entails (c c' : Contract) : Prop := ∀ v, c.violations v = [] → c'.violations v = []

theorem Rule.Entails.refl (r : Rule) : r.Entails r := fun _ hv => hv

namespace Contract

variable {c c' : Contract}

theorem Entails.validate {record : Value} (h : c.Entails c') (hvalid : validate c record = []) :
    ExtractionSchema.validate c' record = [] := by
  rw [validate_eq_nil_iff, Contract.accepts_iff] at hvalid ⊢
  exact h record hvalid

theorem entails_rules {rs rs' : List Rule} (h : ∀ r' ∈ rs', ∃ r ∈ rs, r.Entails r') :
    (Contract.rules rs).Entails (.rules rs') := by
  intro v hv
  rw [Contract.violations_eq_nil_iff] at hv ⊢
  intro r' hr'
  obtain ⟨r, hr, hentails⟩ := h r' hr'
  exact hentails v (hv r hr)

theorem entails_nil (c : Contract) : c.Entails (.rules []) :=
  fun _ _ => rfl

end Contract

/-! ## Rules -/

namespace Rule

theorem entails_items {c c' : Contract} (h : c.Entails c') :
    (Rule.items c).Entails (.items c') := by
  intro v hv
  rw [Rule.items_eq_nil_iff] at hv ⊢
  intro items heq w hw
  exact h w (hv items heq w hw)

theorem entails_required {names names' : List String} (h : names' ⊆ names) :
    (Rule.required names).Entails (.required names') := by
  intro v hv
  rw [Rule.required_eq_nil_iff] at hv ⊢
  intro entries heq name hname
  exact hv entries heq name (h hname)

theorem entails_fields {children children' : List (String × Contract)}
    (h : ∀ child' ∈ children', ∃ child ∈ children, child.1 = child'.1 ∧
      child.2.Entails child'.2) :
    (Rule.fields children).Entails (.fields children') := by
  intro v hv
  rw [Rule.fields_eq_nil_iff] at hv ⊢
  intro entries heq child' hchild' w hw
  obtain ⟨child, hchild, hname, hentails⟩ := h child' hchild'
  rw [← hname] at hw
  exact hentails w (hv entries heq child hchild w hw)

theorem entails_kinds {ks ks' : List Kind}
    (h : ∀ v, ∀ k ∈ ks, k.admits v = true → ∃ k' ∈ ks', k'.admits v = true) :
    (Rule.kinds ks).Entails (.kinds ks') := by
  intro v hv
  rw [Rule.kinds_eq_nil_iff] at hv ⊢
  obtain ⟨k, hk, hadmits⟩ := hv
  exact h v k hk hadmits

end Rule

/-! ## Nodes -/

namespace Wire

theorem enumRule_of_none {about : Presentation} (h : about.enum = none) (nullable : Bool) :
    enumRule about nullable = [] := by
  rw [enumRule, h]

theorem enumRule_subset_of_none {about about' : Presentation} (h : about'.enum = none)
    (nullable : Bool) : enumRule about' nullable ⊆ enumRule about nullable := by
  rw [enumRule_of_none h]
  exact List.nil_subset _

theorem boundRules_unbounded (kind : Primitive) : boundRules kind {} = [] := by
  cases kind <;> rfl

/-- Without a rule that closes the object, only the one on required names is left. -/
theorem exists_entails_entryRules {names names' required required' : List String}
    {more : Option Bool} (h : required' ⊆ required) {r' : Rule}
    (hr' : r' ∈ entryRules names' required' none) :
    ∃ r ∈ entryRules names required more, r.Entails r' := by
  have hopen : entryRules names' required' none =
      if required'.isEmpty then [] else [.required required'] := by
    simp [entryRules]
  rw [hopen] at hr'
  cases required' with
  | nil => exact absurd hr' List.not_mem_nil
  | cons name rest =>
    have hne : required.isEmpty = false := by
      have hmem := h List.mem_cons_self
      cases required with
      | nil => exact absurd hmem List.not_mem_nil
      | cons _ _ => rfl
    rw [List.mem_singleton.mp hr']
    refine ⟨.required required, ?_, Rule.entails_required h⟩
    simp [entryRules, hne]

theorem exists_entails_childContracts {kids kids' : Properties} {required required' : List String}
    (h : ∀ kid' ∈ kids', ∃ kid ∈ kids, kid.1 = kid'.1 ∧
      (kid.2.contract (!required.contains kid.1)).Entails
        (kid'.2.contract (!required'.contains kid'.1))) :
    ∀ child' ∈ childContracts required' kids', ∃ child ∈ childContracts required kids,
      child.1 = child'.1 ∧ child.2.Entails child'.2 := by
  rw [childContracts_eq_map, childContracts_eq_map, List.forall_mem_map]
  intro kid' hkid'
  obtain ⟨kid, hkid, hname, hentails⟩ := h kid' hkid'
  exact ⟨_, List.mem_map_of_mem hkid, hname, hentails⟩

section Nodes

variable {about about' : Presentation} {nullable : Bool}

theorem entails_kindRule {kind kind' : Kind}
    (h : ∀ v, kind.admits v = true → kind'.admits v = true) (nullable : Bool) :
    (kindRule kind nullable).Entails (kindRule kind' nullable) := by
  apply Rule.entails_kinds
  intro v k hk hadmits
  cases nullable with
  | false =>
    rw [List.mem_singleton.mp hk] at hadmits
    exact ⟨kind', List.mem_singleton_self _, h v hadmits⟩
  | true =>
    rcases List.mem_cons.mp hk with rfl | hnull
    · exact ⟨kind', List.mem_cons_self, h v hadmits⟩
    · rw [List.mem_singleton.mp hnull] at hadmits
      exact ⟨.null, List.mem_cons_of_mem _ List.mem_cons_self, hadmits⟩

/-- The kind may admit more, and constraints and allowed values may be left out. -/
theorem Node.entails_primitive {kind kind' : Primitive} {limits limits' : Bounds}
    (hkind : ∀ v, kind.kind.admits v = true → kind'.kind.admits v = true)
    (hlimits : boundRules kind' limits' ⊆ boundRules kind limits)
    (henum : enumRule about' nullable ⊆ enumRule about nullable) :
    ((Node.primitive about kind limits).contract nullable).Entails
      ((Node.primitive about' kind' limits').contract nullable) := by
  rw [Node.contract, Node.contract]
  apply Contract.entails_rules
  intro r' hr'
  rcases List.mem_append.mp hr' with hown | hallowed
  · rcases List.mem_cons.mp hown with rfl | hbound
    · exact ⟨kindRule kind.kind nullable, by simp, entails_kindRule hkind nullable⟩
    · have hr := List.mem_cons_of_mem (kindRule kind.kind nullable) (hlimits hbound)
      exact ⟨r', List.mem_append_left _ hr, Rule.Entails.refl r'⟩
  · exact ⟨r', List.mem_append_right _ (henum hallowed), Rule.Entails.refl r'⟩

theorem Node.entails_unbounded {kind kind' : Primitive} {limits : Bounds}
    (hkind : ∀ v, kind.kind.admits v = true → kind'.kind.admits v = true)
    (henum : enumRule about' nullable ⊆ enumRule about nullable) :
    ((Node.primitive about kind limits).contract nullable).Entails
      ((Node.primitive about' kind' {}).contract nullable) := by
  refine Node.entails_primitive hkind ?_ henum
  rw [boundRules_unbounded]
  exact List.nil_subset _

/-- Elements and allowed values may ask for less. -/
theorem Node.entails_array {items items' : Node}
    (hitems : (items.contract false).Entails (items'.contract false))
    (henum : enumRule about' nullable ⊆ enumRule about nullable) :
    ((Node.array about items).contract nullable).Entails
      ((Node.array about' items').contract nullable) := by
  rw [Node.contract, Node.contract]
  apply Contract.entails_rules
  intro r' hr'
  rcases List.mem_append.mp hr' with hpart | hallowed
  · rcases List.mem_cons.mp hpart with rfl | hpart
    · exact ⟨_, by simp, Rule.Entails.refl _⟩
    · rw [List.mem_singleton.mp hpart]
      exact ⟨.items (items.contract false), by simp, Rule.entails_items hitems⟩
  · exact ⟨r', List.mem_append_right _ (henum hallowed), Rule.Entails.refl r'⟩

/-- Children and allowed values may ask for less, fewer names may be required, and undeclared
entries may be admitted. -/
theorem Node.entails_object {kids kids' : Properties} {required required' : List String}
    {more : Option Bool}
    (hkids : ∀ kid' ∈ kids', ∃ kid ∈ kids, kid.1 = kid'.1 ∧
      (kid.2.contract (!required.contains kid.1)).Entails
        (kid'.2.contract (!required'.contains kid'.1)))
    (hrequired : required' ⊆ required)
    (henum : enumRule about' nullable ⊆ enumRule about nullable) :
    ((Node.object about kids required more).contract nullable).Entails
      ((Node.object about' kids' required' none).contract nullable) := by
  rw [Node.contract, Node.contract]
  apply Contract.entails_rules
  intro r' hr'
  rcases List.mem_append.mp hr' with hpart | hallowed
  · rcases List.mem_append.mp hpart with hpart | hentry
    · rcases List.mem_cons.mp hpart with rfl | hpart
      · exact ⟨_, by simp, Rule.Entails.refl _⟩
      · rw [List.mem_singleton.mp hpart]
        exact ⟨.fields (childContracts required kids), by simp,
          Rule.entails_fields (exists_entails_childContracts hkids)⟩
    · obtain ⟨r, hr, hentails⟩ := exists_entails_entryRules hrequired hentry
      exact ⟨r, List.mem_append_left _ (List.mem_append_right _ hr), hentails⟩
  · exact ⟨r', List.mem_append_right _ (henum hallowed), Rule.Entails.refl r'⟩

end Nodes

end Wire

end ExtractionSchema
