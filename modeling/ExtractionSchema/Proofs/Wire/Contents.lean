import ExtractionSchema.Proofs.Wire.Reads

/-!
# What the nodes of a tree hold

What a node states is taken from its document. If a property of values passes from a document to
what stands in it, and with it every presentation and all constraints that are read have some
properties of their own, then so do those of every node of the tree.

* `Node.All` says that all presentations and constraints within a node have some properties.
* `Tree.all_of_ofValue` passes them from a document to the tree that is read from it.
-/

namespace ExtractionSchema.Wire

/-! ## Properties of everything within a node -/

mutual

/-- Whether all presentations and constraints within a node have some properties. -/
def Node.All (A : Presentation → Prop) (B : Bounds → Prop) : Node → Prop
  | .primitive about _ limits => A about ∧ B limits
  | .array about items => A about ∧ items.All A B
  | .object about properties _ _ => A about ∧ AllWithin A B properties
  | .unknown about _ _ => A about

/-- Whether all presentations and constraints within children have some properties. -/
def AllWithin (A : Presentation → Prop) (B : Bounds → Prop) : Properties → Prop
  | [] => True
  | (_, node) :: rest => node.All A B ∧ AllWithin A B rest

end

theorem allWithin_iff {A : Presentation → Prop} {B : Bounds → Prop} {kids : Properties} :
    AllWithin A B kids ↔ ∀ kid ∈ kids, kid.2.All A B := by
  induction kids with
  | nil => simp [AllWithin]
  | cons kid kids ih => simp [AllWithin, ih]

mutual

theorem Node.All.imp {A A' : Presentation → Prop} {B B' : Bounds → Prop}
    (hA : ∀ about, A about → A' about) (hB : ∀ limits, B limits → B' limits) :
    (node : Node) → node.All A B → node.All A' B'
  | .primitive about _ limits, h => ⟨hA about h.1, hB limits h.2⟩
  | .array about items, h => ⟨hA about h.1, Node.All.imp hA hB items h.2⟩
  | .object about properties _ _, h => ⟨hA about h.1, AllWithin.imp hA hB properties h.2⟩
  | .unknown about _ _, h => hA about h

theorem AllWithin.imp {A A' : Presentation → Prop} {B B' : Bounds → Prop}
    (hA : ∀ about, A about → A' about) (hB : ∀ limits, B limits → B' limits) :
    (kids : Properties) → AllWithin A B kids → AllWithin A' B' kids
  | [], _ => trivial
  | (_, node) :: rest, h => ⟨Node.All.imp hA hB node h.1, AllWithin.imp hA hB rest h.2⟩

end

theorem Node.All.about {A : Presentation → Prop} {B : Bounds → Prop} {node : Node}
    (h : node.All A B) : A node.about := by
  cases node with
  | primitive | array | object => exact h.1
  | unknown => exact h

/-! ## Properties that pass -/

/-- A property passes from values to what stands in them, and gives their presentations and
constraints properties. -/
structure Passes (good : Value → Prop) (A : Presentation → Prop) (B : Bounds → Prop) : Prop where
  parts : ∀ es : Value.Entries, good (.object es) → ∀ e ∈ es, good e.2
  about : ∀ es about, good (.object es) → presentation es = .ok about → A about
  limits : ∀ es limits, good (.object es) → bounds es = .ok limits → B limits

variable {good : Value → Prop} {A : Presentation → Prop} {B : Bounds → Prop}

theorem Passes.members (hpass : Passes good A B) {es : Value.Entries} (h : good (.object es)) :
    ∀ e ∈ members es, good e.2 := by
  rcases members_eq_nil_or es with hnil | hlookup
  · simp [hnil]
  · exact hpass.parts _ (hpass.parts es h _ (Value.mem_of_lookup hlookup))

mutual

/-- A node has the properties that pass from the value that it stands for. -/
theorem Reads.all (hpass : Passes good A B) :
    {v : Value} → {node : Node} → Reads v node → good v → node.All A B
  | _, _, .primitive _ habout hlimits, hv =>
    ⟨hpass.about _ _ hv habout, hpass.limits _ _ hv hlimits⟩
  | _, _, .array _ habout hlookup hitems, hv =>
    ⟨hpass.about _ _ hv habout,
      hitems.all hpass (hpass.parts _ hv _ (Value.mem_of_lookup hlookup))⟩
  | _, _, .object _ habout hchildren hkids _ _, hv => by
    refine ⟨hpass.about _ _ hv habout, allWithin_iff.mpr fun kid hkid => ?_⟩
    obtain ⟨child, hchild, heq⟩ := mem_of_childNames hkids kid hkid
    rw [← heq]
    exact hchildren.all hpass (hpass.members hv) child hchild
  | _, _, .unknown _ _ _ _ _ habout _, hv => hpass.about _ _ hv habout

theorem ReadsAll.all (hpass : Passes good A B) :
    {es : Value.Entries} → {children : List (Key × Node)} → ReadsAll es children →
      (∀ e ∈ es, good e.2) → ∀ child ∈ children, child.2.All A B
  | _, _, .nil, _ => by simp
  | _, _, .cons hfirst hrest, hes => by
    rw [List.forall_mem_cons] at hes ⊢
    exact ⟨hfirst.all hpass hes.1, hrest.all hpass hes.2⟩

end

/-- What is read from a tree has the properties that pass from its document. -/
theorem Tree.all_of_ofValue (hpass : Passes good A B) {d : Value} {t : Tree} (hd : good d)
    (h : Tree.ofValue d = .ok t) : t.root.All A B :=
  (Tree.reads_of_ofValue h).all hpass hd

end ExtractionSchema.Wire
