import ExtractionSchema.Compilation
import ExtractionSchema.Proofs.Contract.Author

/-!
# What compilation returns

A definition is compiled exactly when it passes its check, is read as a tree, and its agents are
read; everything in the compiled schema then comes from the definition, the tree and what came with
the definition.

* `compile_eq_ok_iff` says this, and `exists_compile_iff` when there is a compiled schema at all.
-/

namespace ExtractionSchema

/-- The schema is compiled from a definition and what came with it. -/
structure Compiled (settings : Settings) (definition : Value) (companions : Companions)
    (c : CompiledSchema) : Prop where
  told : authorObstacle definition = none
  checked : checkAuthorSchema settings definition = .ok ()
  definition_eq : c.definition = definition
  tree : Wire.Tree.ofValue definition = .ok c.tree
  contract : c.contract = c.tree.contract
  cleanView : (c.cleanView, c.truncations) =
    c.tree.guidance ⟨settings.instructionLimit, settings.ellipsis⟩
  outputView : c.outputView = c.tree.outline
  agents : compileAgents settings companions.agents = .ok c.agents
  name : c.name = companions.name
  instructions : c.instructions = companions.instructions

theorem compile_eq_ok_iff {settings : Settings} {definition : Value} {companions : Companions}
    {c : CompiledSchema} : compile settings definition companions = .ok c ↔
      Compiled settings definition companions c := by
  constructor
  · intro h
    unfold compile at h
    split at h
    · cases h
    · cases h
    · rename_i told checked
      split at h
      · cases h
      · rename_i tree htree
        split at h
        · cases h
        · rename_i agents hagents
          cases h
          exact ⟨told, checked, rfl, htree, rfl, rfl, rfl, hagents, rfl, rfl⟩
  · intro h
    unfold compile
    rw [h.told, h.checked]
    dsimp only
    rw [h.tree]
    dsimp only
    rw [h.agents]
    dsimp only
    rw [← h.cleanView, ← h.contract, ← h.outputView, ← h.name, ← h.instructions]
    dsimp only
    rw [← h.definition_eq]

/-- A definition that passes the check is told to do so, so nothing but its tree and its agents can
stand in the way. -/
theorem exists_compile_iff {settings : Settings} {definition : Value} {companions : Companions} :
    (∃ c, compile settings definition companions = .ok c) ↔
      Authored definition ∧ definition.serializedSize ≤ settings.maxSchemaSize ∧
        (∃ t, Wire.Tree.ofValue definition = .ok t) ∧
        ∃ agents, compileAgents settings companions.agents = .ok agents := by
  simp only [compile_eq_ok_iff]
  constructor
  · rintro ⟨c, hc⟩
    obtain ⟨hauthored, hsize⟩ := checkAuthorSchema_eq_ok_iff.mp hc.checked
    exact ⟨hauthored, hsize, ⟨c.tree, hc.tree⟩, c.agents, hc.agents⟩
  · rintro ⟨hauthored, hsize, ⟨t, ht⟩, agents, hagents⟩
    have hchecked := checkAuthorSchema_eq_ok_iff.mpr ⟨hauthored, hsize⟩
    have htold := authorObstacle_eq_none hauthored
    obtain ⟨⟨cleanView, truncations⟩, hguidance⟩ :
        ∃ view, view = t.guidance ⟨settings.instructionLimit, settings.ellipsis⟩ := ⟨_, rfl⟩
    exact ⟨⟨definition, t, t.contract, cleanView, t.outline, companions.name,
      companions.instructions, agents, truncations⟩,
      htold, hchecked, rfl, ht, rfl, hguidance, rfl, hagents, rfl, rfl⟩

end ExtractionSchema
