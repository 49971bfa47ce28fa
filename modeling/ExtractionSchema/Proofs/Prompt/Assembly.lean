import ExtractionSchema.Prompt
import ExtractionSchema.Proofs.Value.Entries
import ExtractionSchema.Proofs.Wire.DisplayOrder

/-!
# How a prompt is put together

A prompt is the lines of its three parts, joined by new lines. Whether there is a prompt depends on
the view, which must have a JSON text, and on the sections of the fields; general instructions only
stand before what is there without them.

* `compose_result`: the prompt from its parts.
* `compose_some`: general instructions head the prompt that there is without them.
* `guidanceLines_eq_nil`: without guided fields, the view ends the prompt.
* `guidanceLines_congr`: fields with the same sections, in display order, have the same guidance.
-/

namespace ExtractionSchema

/-! ## Results without their truncations -/

namespace Traced

variable {ε α β : Type}

@[simp] theorem result_pure (a : α) : (pure a : Traced ε α).result = .ok a := rfl

@[simp] theorem result_bind (x : Traced ε α) (f : α → Traced ε β) :
    (x >>= f).result = x.result >>= fun a => (f a).result := by
  obtain ⟨cuts, result⟩ := x
  cases result <;> rfl

@[simp] theorem result_report (r : α × List Truncation) :
    (report r : Traced ε α).result = .ok r.1 := rfl

@[simp] theorem result_ofExcept (x : Except ε α) : (ofExcept x).result = x := rfl

end Traced

variable {settings : Settings} {mode : PromptMode} {t : Wire.Tree}

/-! ## Parts of a prompt -/

/-- The text of a prompt from the text of its view and the lines around it. -/
def promptText (general : List String) (shown : String) (guidance : List String) : String :=
  "\n".intercalate (general ++ viewLines shown ++ guidance)

theorem compose_result (instructions : Option String) :
    (compose settings mode instructions t).result = do
      let shown ← orObstacle (embeddedView settings mode t).1.indentedJson?
      let guidance ← (guidanceLines settings t).result
      return promptText (generalLines settings instructions).1 shown guidance := by
  simp only [compose, promptLines, Traced.result_bind, Traced.result_report,
    Traced.result_ofExcept, Traced.result_pure]
  simp only [bind, Except.bind]
  cases orObstacle (embeddedView settings mode t).1.indentedJson? with
  | error _ => rfl
  | ok shown => cases (guidanceLines settings t).result <;> rfl

theorem compose_eq_ok_iff {instructions : Option String} {p : String} :
    (compose settings mode instructions t).result = .ok p ↔
      (embeddedView settings mode t).1.obstacle = none ∧
        ∃ guidance, (guidanceLines settings t).result = .ok guidance ∧
          p = promptText (generalLines settings instructions).1
            (embeddedView settings mode t).1.indentedJson guidance := by
  rw [compose_result]
  unfold Value.indentedJson?
  cases (embeddedView settings mode t).1.obstacle with
  | some o => simp [orObstacle, bind, Except.bind]
  | none =>
    cases (guidanceLines settings t).result with
    | error _ => simp [orObstacle, bind, Except.bind]
    | ok guidance => simp [orObstacle, bind, Except.bind, pure, Except.pure, eq_comm]

/-! ## General instructions -/

theorem generalLines_none : (generalLines settings none).1 = [] := rfl

theorem generalLines_some {g : String} (hg : g ≠ "") : (generalLines settings (some g)).1 =
    ["# General Instructions", Text.capped settings.generalLimit settings.ellipsis g, ""] := by
  rw [generalLines, Wire.nonEmpty?, if_neg hg]
  rfl

/-- General instructions stand before the prompt that there is without them. -/
theorem promptText_cons (capped shown : String) (guidance : List String) :
    promptText ["# General Instructions", capped, ""] shown guidance =
      "# General Instructions\n" ++ capped ++ "\n\n" ++ promptText [] shown guidance := by
  have hheading : "# General Instructions\n" = "# General Instructions" ++ "\n" := rfl
  have hgap : "\n\n" = "\n" ++ "" ++ "\n" := rfl
  -- the prompt below the instructions starts with a line of its own
  obtain ⟨first, more, hlines⟩ : ∃ first more, viewLines shown ++ guidance = first :: more :=
    ⟨_, _, rfl⟩
  simp only [promptText, List.cons_append, List.nil_append, hlines, String.intercalate_cons_cons]
  rw [hheading, hgap]
  simp only [String.append_assoc]

theorem compose_some {g : String} (hg : g ≠ "") : (compose settings mode (some g) t).result =
    (compose settings mode none t).result.map fun p => "# General Instructions\n" ++
      Text.capped settings.generalLimit settings.ellipsis g ++ "\n\n" ++ p := by
  rw [compose_result, compose_result, generalLines_some hg, generalLines_none]
  cases orObstacle (embeddedView settings mode t).1.indentedJson? with
  | error _ => rfl
  | ok shown =>
    cases (guidanceLines settings t).result with
    | error _ => rfl
    | ok guidance => exact congrArg Except.ok (promptText_cons _ shown guidance)

/-! ## Guidance -/

/-- A heading is made from the name that is shown, the kind of field and its importance. -/
theorem headingLines_congr {R : Wire.Properties → Wire.Properties → Prop} {node node' : Wire.Node}
    (helements : Option.Rel R node.elementProperties? node'.elementProperties?) {name : String}
    (hheading : node.about.heading name = node'.about.heading name)
    (himportance : node.about.importance = node'.about.importance) :
    headingLines name node = headingLines name node' := by
  have hlist : node.elementProperties?.isSome = node'.elementProperties?.isSome := by
    generalize node.elementProperties? = stated, node'.elementProperties? = stated' at helements ⊢
    cases helements <;> rfl
  rw [headingLines, headingLines, hheading, himportance, hlist]

/-- Elements whose children have the same lines, in display order, are described alike. -/
theorem structureLines_congr {R : Wire.Properties → Wire.Properties → Prop}
    {node node' : Wire.Node}
    (helements : Option.Rel R node.elementProperties? node'.elementProperties?)
    (hlines : ∀ kids kids', R kids kids' → List.Forall₂
      (fun kid kid' => structureLine kid.1 kid.2 = structureLine kid'.1 kid'.2)
      (Wire.orderedProperties kids) (Wire.orderedProperties kids')) :
    structureLines node = structureLines node' := by
  unfold structureLines
  generalize node.elementProperties? = stated, node'.elementProperties? = stated' at helements ⊢
  cases helements with
  | none => rfl
  | some hkids =>
    refine (List.append_right_inj _).mpr (map_eq_map_of_forall₂ (hlines _ _ hkids) ?_)
    intro kid kid' hline
    exact hline

/-- Without guided fields there is nothing after the view. -/
theorem guidanceLines_eq_nil (h : ∀ kid ∈ t.properties, kid.2.about.isGuided = false) :
    (guidanceLines settings t).result = .ok [] := by
  have hnone : (Wire.orderedProperties t.properties).filter
      (fun kid => kid.2.about.isGuided) = [] := by
    rw [List.filter_eq_nil_iff]
    intro kid hkid
    have hmem := (Wire.orderedProperties_perm t.properties).mem_iff.mp hkid
    simp [h kid hmem]
  rw [guidanceLines, hnone]
  rfl

/-- Fields that have the same section, or both have none. -/
def SameSection (settings : Settings) (kid kid' : String × Wire.Node) : Prop :=
  kid.2.about.isGuided = kid'.2.about.isGuided ∧
    fieldSection settings kid.1 kid.2 = fieldSection settings kid'.1 kid'.2

theorem fieldSections_congr {kids kids' : Wire.Properties}
    (h : List.Forall₂ (SameSection settings) kids kids') :
    fieldSections settings kids = fieldSections settings kids' := by
  induction h with
  | nil => rfl
  | @cons kid kid' kids kids' hkid hrest ih =>
    obtain ⟨name, node⟩ := kid
    obtain ⟨name', node'⟩ := kid'
    have hsection : fieldSection settings name node = fieldSection settings name' node' := hkid.2
    rw [fieldSections, fieldSections, hsection, ih]

theorem guidanceLines_congr {t t' : Wire.Tree}
    (h : List.Forall₂ (SameSection settings) (Wire.orderedProperties t.properties)
      (Wire.orderedProperties t'.properties)) :
    guidanceLines settings t = guidanceLines settings t' := by
  have hsame : ∀ kid kid', SameSection settings kid kid' →
      (kid.2.about.isGuided = true ↔ kid'.2.about.isGuided = true) :=
    fun kid kid' hkid => by rw [hkid.1]
  have hguided := List.rel_filter (fun kid kid' hkid => hsame kid kid' hkid) h
  unfold guidanceLines
  generalize (Wire.orderedProperties t.properties).filter _ = guided,
    (Wire.orderedProperties t'.properties).filter _ = guided' at hguided ⊢
  cases hguided with
  | nil => rfl
  | cons hfirst hrest =>
    dsimp only
    rw [fieldSections_congr (.cons hfirst hrest)]

end ExtractionSchema
