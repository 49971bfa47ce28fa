import ExtractionSchema.Proofs.Compilation
import ExtractionSchema.Proofs.Wire.Authored
import ExtractionSchema.Proofs.Wire.NormalForm

/-!
# Compiling the normal form of a definition

A definition can be compiled as it stands, or as the tree that is read from it. The tree is written
in its normal form first, and that is checked and read once more. Values are told by then as what
they stand for, and entries that count as nothing are gone, but nothing that the check accepted has
become anything else. So only the size of the normal form can stand in the way, and whatever is made
of both is the same.

* `Authored.toValue_of_ofValue`: the normal form of a definition that is accepted is accepted, whatever
  its size.
* `compileTree_agrees`: when the tree of a definition compiles, and to what.
-/

namespace ExtractionSchema

open Wire

/-- The normal form of a definition that is accepted is accepted, whatever its size. -/
theorem Authored.toValue_of_ofValue {definition : Value} {t : Tree} (h : Authored definition)
    (hjson : definition.isJson = true) (ht : Tree.ofValue definition = .ok t) :
    Authored t.toValue := by
  obtain ⟨es, rfl, -, hproperties⟩ := h
  rw [Tree.authored_toValue_iff]
  intro kid hkid
  -- the field is read from one that the definition states, and the check looked at that one
  obtain ⟨member, hmember, hread⟩ := (Tree.reads_of_ofValue ht).exists_member kid hkid
  have hmemberJson := isJson_of_mem_members hjson member hmember
  have hguides : ∃ fields, member.2 = .object fields ∧ Guides fields := by
    rcases members_eq_nil_or es with hnil | hlookup
    · simp [hnil] at hmember
    · obtain ⟨children, hchildren, hguided⟩ := hproperties _ hlookup
      cases hchildren
      exact hguided member hmember
  obtain ⟨fields, hfields, hguides⟩ := hguides
  rw [hfields] at hread hmemberJson
  exact hread.guided hmemberJson hguides

/-- Two compiled schemas are the same but for their definitions and trees, and give the same
prompts. -/
structure CompiledSchema.OfSameUse (c c' : CompiledSchema) : Prop where
  contract : c'.contract = c.contract
  cleanView : c'.cleanView = c.cleanView
  outputView : c'.outputView = c.outputView
  truncations : c'.truncations = c.truncations
  agents : c'.agents = c.agents
  name : c'.name = c.name
  instructions : c'.instructions = c.instructions
  prompt : ∀ settings instructions mode,
    c'.prompt settings instructions mode = c.prompt settings instructions mode

/-- What is compiled from two definitions that come with the same is of the same use, if the trees
differ in nothing but what nodes of unknown types keep. -/
theorem Compiled.ofSameUse {settings : Settings} {definition definition' : Value}
    {companions : Companions} {c c' : CompiledSchema}
    (h : Compiled settings definition companions c)
    (h' : Compiled settings definition' companions c') (hbare : c'.tree.bare = c.tree.bare) :
    c.OfSameUse c' := by
  have hviews : (c'.cleanView, c'.truncations) = (c.cleanView, c.truncations) := by
    rw [h'.cleanView, h.cleanView, ← Tree.guidance_bare, hbare, Tree.guidance_bare]
  have hagents : compileAgents settings companions.agents = .ok c.agents := h.agents
  have hinstructions : c'.instructions = c.instructions := by
    rw [h'.instructions, h.instructions]
  constructor
  case contract =>
    rw [h'.contract, h.contract, ← Tree.contract_bare, hbare, Tree.contract_bare]
  case cleanView => exact congrArg Prod.fst hviews
  case outputView =>
    rw [h'.outputView, h.outputView, ← Tree.outline_bare, hbare, Tree.outline_bare]
  case truncations => exact congrArg Prod.snd hviews
  case agents =>
    rw [h'.agents] at hagents
    exact Except.ok.inj hagents
  case name => rw [h'.name, h.name]
  case instructions => exact hinstructions
  case prompt =>
    intro settings instructions mode
    rw [CompiledSchema.prompt, CompiledSchema.prompt, hinstructions, ← compose_bare, hbare,
      compose_bare]

/-- The tree of a definition that is compiled is compiled exactly when its written form is not too
large. That is then the definition of its schema, and everything else is of the same use. -/
theorem compileTree_agrees {settings : Settings} {definition : Value} {companions : Companions}
    {c : CompiledSchema} (hjson : definition.isJson = true)
    (hc : compile settings definition companions = .ok c) :
    ∃ t, Tree.ofValue definition = .ok t ∧
      ((∃ c', compileTree settings t companions = .ok c') ↔
        t.toValue.serializedSize ≤ settings.maxSchemaSize) ∧
      ∀ c', compileTree settings t companions = .ok c' →
        c'.definition = t.toValue ∧ c.OfSameUse c' := by
  have hcompiled := compile_eq_ok_iff.mp hc
  have hreads := Tree.reads_of_ofValue hcompiled.tree
  have hread : Tree.ofValue c.tree.toValue = .ok c.tree.reread :=
    Tree.ofValue_toValue (hreads.readable hjson)
  refine ⟨c.tree, hcompiled.tree, ?_, ?_⟩
  · have hauthored : Authored c.tree.toValue :=
      (checkAuthorSchema_eq_ok_iff.mp hcompiled.checked).1.toValue_of_ofValue hjson hcompiled.tree
    rw [compileTree, exists_compile_iff]
    constructor
    · rintro ⟨-, hsize, -⟩
      exact hsize
    · intro hsize
      exact ⟨hauthored, hsize, ⟨_, hread⟩, _, hcompiled.agents⟩
  · intro c' hc'
    have hcompiled' := compile_eq_ok_iff.mp hc'
    have htree : c'.tree = c.tree.reread := by
      have htree := hcompiled'.tree
      rw [hread] at htree
      exact (Except.ok.inj htree).symm
    have hbare : c'.tree.bare = c.tree.bare := by
      rw [htree, Tree.bare_reread hreads.hidesNoObject]
    exact ⟨hcompiled'.definition_eq, hcompiled.ofSameUse hcompiled' hbare⟩

/-- A definition that is not in its normal form: some entries count as nothing, a place among the
fields is written as a float, and a field of a type of its own states more than a node does. -/
def roughDefinition : Value :=
  .record [("title", .null), ("type", .string "object"), ("required", .string ""),
    ("properties", .record [
      ("total", .record [("type", .string "number"), ("minimum", .bool true),
        ("order", .number (.float (.finite (.ofInt 2))))]),
      ("rows", .record [("type", .string "array"),
        ("items", .record [("type", .string "object"), ("properties", .list [])])]),
      ("seal", .record [("title", .null), ("page", .int 2), ("type", .string "signature"),
        ("importance", .string "low")])])]

/-- A list of one agent. -/
def oneAgent : Value :=
  .list [.record [("name", .string "Checker"), ("prompt", .string "Check."), ("order", .int 1)]]

theorem compileTree_agrees_rough :
    roughDefinition.isJson = true ∧
      ∃ c t c', compile {} roughDefinition { agents := some oneAgent } = .ok c ∧
        c.agents.length = 1 ∧ Tree.ofValue roughDefinition = .ok t ∧
        t.toValue ≠ roughDefinition ∧
        compileTree {} t { agents := some oneAgent } = .ok c' ∧ c'.definition = t.toValue ∧
        c.OfSameUse c' := by
  have hjson : roughDefinition.isJson = true := rfl
  have hok : (match compile {} roughDefinition { agents := some oneAgent },
        Tree.ofValue roughDefinition with
      | .ok c, .ok t => decide (c.agents.length = 1 ∧ t.toValue ≠ roughDefinition ∧
          t.toValue.serializedSize ≤ 100000)
      | _, _ => false) = true := by decide +kernel
  cases hc : compile {} roughDefinition { agents := some oneAgent } with
  | error _ => simp [hc] at hok
  | ok c =>
    obtain ⟨t, ht, hsize, hsame⟩ := compileTree_agrees hjson hc
    rw [hc, ht] at hok
    obtain ⟨hagents, hchanged, hsmall⟩ := of_decide_eq_true hok
    obtain ⟨c', hc'⟩ := hsize.mpr hsmall
    obtain ⟨hdefinition, huse⟩ := hsame c' hc'
    exact ⟨hjson, c, t, c', rfl, hagents, ht, hchanged, hc', hdefinition, huse⟩

end ExtractionSchema
