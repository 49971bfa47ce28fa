import ExtractionSchema.Proofs.Compilation
import ExtractionSchema.Proofs.Conversion.Rearranged
import ExtractionSchema.Proofs.Wire.Authored

/-!
# Property lists that compile

The tree of a property list is checked as if an author had written it, and then read. Both look at
the same fields in different ways. The check takes every type and only asks the examples of the
fields at the top for their outputs; the reader takes every example and only asks for types that
tell how to go on. So a property list compiles unless a type is empty or that of arrays, an example
at the top has no output, or the tree is too large.

* `FieldInfo.isAuthored_presentation_iff`: what the check asks of a field.
* `Wire.Tree.exists_ofValue_ofProperties_iff`: what the reader asks of the types.
* `exists_compileProperties_iff` puts both together.
-/

namespace ExtractionSchema

open Wire

/-! ## What the check asks -/

theorem isExample_entries_iff {e : Example} :
    IsExample (exampleValue e.entries) ↔ e.output.isOutput = true := by
  constructor
  · rintro ⟨es, hes, -, w, hw, houtput⟩
    cases hes
    cases hw
    exact houtput
  · intro houtput
    exact ⟨_, rfl, ⟨e.input, rfl⟩, e.output, rfl, houtput⟩

/-- Of what a field says, its examples alone can be refused. -/
theorem FieldInfo.isAuthored_presentation_iff {info : FieldInfo} {order : Nat} :
    (info.presentation order).IsAuthored ↔
      ∀ es ∈ info.examples, ∀ e ∈ es, e.output.isOutput = true := by
  constructor
  · intro h es hes e he
    apply isExample_entries_iff.mp
    apply h.examples (es.map Example.entries)
    · exact Option.mem_map_of_mem _ hes
    · exact List.mem_map_of_mem he
  · intro h
    refine ⟨?_, ?_, ?_⟩
    · intro s hs
      obtain ⟨level, -, rfl⟩ := Option.mem_map.mp hs
      exact ⟨level, rfl⟩
    · intro i hi
      cases hi
      exact Int.natCast_nonneg order
    · intro es hes e he
      obtain ⟨stated, hstated, rfl⟩ := Option.mem_map.mp hes
      obtain ⟨given, hgiven, rfl⟩ := List.mem_map.mp he
      exact isExample_entries_iff.mpr (h stated hstated given hgiven)

/-- The node of a field keeps nothing beside what it states. -/
theorem Shape.kept_node (about : Presentation) (shape : Shape) : (shape.node about).kept = [] := by
  cases shape with
  | objects fields => rfl
  | simple shape =>
    cases shape with
    | list item => rfl
    | plain type =>
      unfold Shape.node SimpleShape.node
      dsimp only
      split
      · rfl
      · split <;> rfl

theorem Value.isOutput_iff {v : Value} (hv : v.isJson = true) : v.isOutput = true ↔ v ≠ .null := by
  cases v with
  | null => simp [isOutput]
  | bool | number | string | list | object => simp [isOutput]
  | foreign | set | pair | enclosing => cases hv

/-- The tree of a property list is accepted exactly when all examples at the top have outputs. -/
theorem Wire.Tree.authored_ofProperties_iff {ps : List Property} :
    Authored (Tree.ofProperties ps).toValue ↔
      ∀ p ∈ ps, ∀ es ∈ p.info.examples, ∀ e ∈ es, e.output.isOutput = true := by
  have hguided : ∀ (p : Property) (i : Nat), (p.shape.node (p.info.presentation i)).Guided ↔
      ∀ es ∈ p.info.examples, ∀ e ∈ es, e.output.isOutput = true := by
    intro p i
    rw [Node.guided_iff_of_kept_eq_nil (p.shape.kept_node _),
      (p.shape.standsFor_node _).about_eq]
    exact FieldInfo.isAuthored_presentation_iff
  rw [Tree.authored_toValue_iff]
  constructor
  · intro h p hp
    obtain ⟨i, hkid⟩ : ∃ i, (p.name, p.shape.node (p.info.presentation i)) ∈
        (Tree.ofProperties ps).properties := exists_mem_childrenFrom hp
    exact (hguided p i).mp (h _ hkid)
  · intro h kid hkid
    obtain ⟨p, hp, i, rfl⟩ := exists_of_mem_childrenFrom hkid
    exact (hguided p i).mpr (h p hp)

/-! ## What the reader asks -/

/-- The tree of a property list is read exactly when all types tell how to go on. -/
theorem Wire.Tree.exists_ofValue_ofProperties_iff {ps : List Property} :
    (∃ t, Tree.ofValue (Tree.ofProperties ps).toValue = .ok t) ↔
      ¬ ∃ p ∈ ps, ∃ type ∈ p.shape.types, Mistyping type := by
  constructor
  · rintro ⟨t, ht⟩ ⟨p, hp, htype⟩
    obtain ⟨m, hm, -⟩ := Tree.ofValue_of_mistyped (Tree.readable_or_mistyped ps)
      (exists_childrenFrom ⟨p, hp, fun about => p.shape.mistypedField_node about htype⟩)
    rw [hm] at ht
    cases ht
  · intro h
    have hreadable : AllReadable (Tree.ofProperties ps).properties := by
      refine allReadable_iff.mpr (forall_childrenFrom ?_)
      intro about p hp
      exact p.shape.readable_node about fun htype => h ⟨p, hp, htype⟩
    exact ⟨_, Tree.ofValue_toValue hreadable⟩

/-! ## Compilation -/

/-- A property list compiles exactly when no type is empty or that of arrays, no example of a field
at the top has `null` for its output, and the tree is within the size limit. -/
theorem exists_compileProperties_iff {settings : Settings} {ps : List Property}
    {name instructions : Option String}
    (houtputs : ∀ p ∈ ps, ∀ es ∈ p.info.examples, ∀ e ∈ es, e.output.isJson = true) :
    (∃ c, compileProperties settings ps { name, instructions } = .ok c) ↔
      (¬ ∃ p ∈ ps, ∃ type ∈ p.shape.types, type = "" ∨ type = arrayType) ∧
      (∀ p ∈ ps, ∀ es ∈ p.info.examples, ∀ e ∈ es, e.output ≠ .null) ∧
      (Tree.ofProperties ps).toValue.serializedSize ≤ settings.maxSchemaSize := by
  have hagents : ∃ agents, compileAgents settings none = .ok agents := ⟨[], rfl⟩
  have hstated : Authored (Tree.ofProperties ps).toValue ↔
      ∀ p ∈ ps, ∀ es ∈ p.info.examples, ∀ e ∈ es, e.output ≠ .null := by
    rw [Tree.authored_ofProperties_iff]
    constructor
    · intro h p hp es hes e he
      exact (Value.isOutput_iff (houtputs p hp es hes e he)).mp (h p hp es hes e he)
    · intro h p hp es hes e he
      exact (Value.isOutput_iff (houtputs p hp es hes e he)).mpr (h p hp es hes e he)
  simp only [compileProperties]
  rw [exists_compile_iff, hstated, Tree.exists_ofValue_ofProperties_iff]
  constructor
  · rintro ⟨hexamples, hsize, htypes, -⟩
    exact ⟨htypes, hexamples, hsize⟩
  · rintro ⟨htypes, hexamples, hsize⟩
    exact ⟨hexamples, hsize, htypes, hagents⟩

/-- A limit that the tree of `sampleProperties` exceeds. -/
def narrowSettings : Settings :=
  { Settings.standard with maxSchemaSize := 100, maxSchemaSize_pos := Nat.le_add_left 1 99 }

theorem exists_compileProperties_iff_sample :
    (∀ p ∈ sampleProperties, ∀ es ∈ p.info.examples, ∀ e ∈ es, e.output.isJson = true) ∧
      (∃ c, compileProperties {} sampleProperties { name := some "bills" } = .ok c) ∧
      ¬ ∃ c, compileProperties narrowSettings sampleProperties {} = .ok c := by
  have houtputs : ∀ p ∈ sampleProperties, ∀ es ∈ p.info.examples, ∀ e ∈ es,
      e.output.isJson = true := by decide
  have htypes : ¬ ∃ p ∈ sampleProperties, ∃ type ∈ p.shape.types, type = "" ∨ type = arrayType := by
    decide
  have hexamples : ∀ p ∈ sampleProperties, ∀ es ∈ p.info.examples, ∀ e ∈ es,
      e.output ≠ .null := by decide
  have hsize : (Tree.ofProperties sampleProperties).toValue.serializedSize ≤ 100000 := by
    decide +kernel
  have hlarge : ¬ (Tree.ofProperties sampleProperties).toValue.serializedSize ≤ 100 := by
    decide +kernel
  refine ⟨houtputs, ?_, ?_⟩
  · exact (exists_compileProperties_iff houtputs).mpr ⟨htypes, hexamples, hsize⟩
  · intro hcompiles
    exact hlarge ((exists_compileProperties_iff houtputs).mp hcompiles).2.2

end ExtractionSchema
