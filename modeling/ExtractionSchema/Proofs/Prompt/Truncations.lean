import ExtractionSchema.Proofs.Compilation
import ExtractionSchema.Proofs.Prompt.Completion
import ExtractionSchema.Proofs.View.Fields

/-!
# Truncations of prompts

A prompt that is composed tells of every instruction text that was cut, and of nothing else: first
of the general instructions, then of the fields of the guidance view in the order of the tree, and
last of the top-level fields in display order. All that the prompt and the views show of
instructions is within the limits and the ellipsis.

* `expectedCuts` lists what is cut, by the lengths of the texts alone.
* `IsAssembled` says what lines a prompt is put together from, with the instruction texts bounded.
* `truncations_exact`: the truncations of prompts and compiled schemas are the expected ones.
-/

namespace ExtractionSchema

open Wire

/-! ## Truncations in order -/

namespace Traced

variable {ε α β : Type}

@[simp] theorem cuts_pure (a : α) : (pure a : Traced ε α).cuts = [] := rfl

@[simp] theorem cuts_report (r : α × List Truncation) :
    (report r : Traced ε α).cuts = r.2 := rfl

@[simp] theorem cuts_ofExcept (x : Except ε α) : (ofExcept x).cuts = [] := rfl

theorem cuts_bind {x : Traced ε α} {f : α → Traced ε β} {a : α} (h : x.result = .ok a) :
    (x >>= f).cuts = x.cuts ++ (f a).cuts := by
  obtain ⟨cuts, result⟩ := x
  obtain rfl : result = .ok a := h
  rfl

end Traced

variable {settings : Settings}

/-- What is cut from general instructions. -/
def generalCuts (settings : Settings) (instructions : Option String) : List Truncation :=
  (cutBeyond .general settings.generalLimit instructions).toList

/-- What is cut in the section of a top-level field. -/
def sectionCut (settings : Settings) (field : String × Node) : Option Truncation :=
  cutBeyond (.field field.1) settings.instructionLimit field.2.about.instructions

/-- What is cut in the sections of a tree. -/
def sectionCuts (settings : Settings) (t : Tree) : List Truncation :=
  (orderedProperties t.properties).filterMap (sectionCut settings)

/-- What is cut in a prompt. -/
def expectedCuts (settings : Settings) (mode : PromptMode) (instructions : Option String)
    (t : Tree) : List Truncation :=
  generalCuts settings instructions ++
    (if mode = .guidance then t.viewCuts settings.instructionLimit else []) ++
    sectionCuts settings t

theorem cutBeyond_of_nonEmpty {site : CutSite} {limit : Nat} {text : Option String}
    (h : nonEmpty? text = none) : cutBeyond site limit text = none := by
  cases text with
  | none => rfl
  | some s =>
    have hempty : s = "" := by
      by_contra hne
      simp [nonEmpty?, hne] at h
    simp [cutBeyond, hempty]

theorem nonEmpty?_eq_some {text : Option String} {s : String} (h : nonEmpty? text = some s) :
    text = some s := by
  cases text with
  | none => cases h
  | some full =>
    by_cases hempty : full = ""
    · simp [nonEmpty?, hempty] at h
    · simpa [nonEmpty?, hempty] using h

theorem generalLines_cuts (instructions : Option String) :
    (generalLines settings instructions).2 = generalCuts settings instructions := by
  unfold generalLines generalCuts
  cases h : nonEmpty? instructions with
  | none =>
    rw [cutBeyond_of_nonEmpty h]
    rfl
  | some s =>
    rw [nonEmpty?_eq_some h]
    exact cap_cuts _ settings.ellipsis s

theorem instructionLines_cuts (name : String) (node : Node) :
    (instructionLines settings name node).2 = (sectionCut settings (name, node)).toList := by
  unfold instructionLines sectionCut
  cases h : nonEmpty? node.about.instructions with
  | none =>
    rw [cutBeyond_of_nonEmpty h]
    rfl
  | some s =>
    rw [nonEmpty?_eq_some h]
    exact cap_cuts _ settings.ellipsis s

theorem fieldSection_cuts (name : String) (node : Node) :
    (fieldSection settings name node).cuts = (sectionCut settings (name, node)).toList := by
  rw [← instructionLines_cuts, fieldSection, Traced.cuts_bind (Traced.result_report _)]
  cases h : exampleSection name node with
  | error fault => exact List.append_nil _
  | ok examples => exact List.append_nil _

theorem fieldSections_cuts {kids : Properties} {lines : List String}
    (h : (fieldSections settings kids).result = .ok lines) :
    (fieldSections settings kids).cuts = kids.filterMap (sectionCut settings) := by
  induction kids generalizing lines with
  | nil => rfl
  | cons kid kids ih =>
    obtain ⟨name, node⟩ := kid
    rw [fieldSections_cons_result] at h
    obtain ⟨section', hsection, h⟩ := bind_eq_ok_iff.mp h
    obtain ⟨more, hmore, -⟩ := bind_eq_ok_iff.mp h
    rw [fieldSections, Traced.cuts_bind hsection, Traced.cuts_bind hmore, ih hmore,
      fieldSection_cuts, filterMap_cons_toList, Traced.cuts_pure, List.append_nil]

/-- Fields without a section have nothing to cut. -/
theorem sectionCut_of_not_isGuided {field : String × Node}
    (h : field.2.about.isGuided = false) : sectionCut settings field = none := by
  rw [Presentation.isGuided, Bool.or_eq_false_iff, Option.isSome_eq_false_iff,
    Option.isNone_iff_eq_none] at h
  exact cutBeyond_of_nonEmpty h.1

theorem filterMap_guided (kids : Properties) :
    (kids.filter fun kid => kid.2.about.isGuided).filterMap (sectionCut settings) =
      kids.filterMap (sectionCut settings) := by
  rw [List.filterMap_filter]
  congr 1
  funext kid
  cases h : kid.2.about.isGuided with
  | true => rfl
  | false => exact (sectionCut_of_not_isGuided h).symm

theorem guidanceLines_cuts {t : Tree} {lines : List String}
    (h : (guidanceLines settings t).result = .ok lines) :
    (guidanceLines settings t).cuts = sectionCuts settings t := by
  unfold guidanceLines at h ⊢
  rw [sectionCuts, ← filterMap_guided]
  split at h
  · rename_i hnil
    rw [hnil]
    rfl
  · rw [Traced.result_bind] at h
    obtain ⟨sections, hsections, -⟩ := bind_eq_ok_iff.mp h
    rw [Traced.cuts_bind hsections, fieldSections_cuts hsections, Traced.cuts_pure,
      List.append_nil]

theorem embeddedView_cuts (mode : PromptMode) (t : Tree) : (embeddedView settings mode t).2 =
    if mode = .guidance then t.viewCuts settings.instructionLimit else [] := by
  cases mode with
  | outline => rfl
  | guidance => exact t.truncations_guidance

/-- A prompt that is composed tells of all that is cut, in its order. -/
theorem compose_cuts {mode : PromptMode} {instructions : Option String} {t : Tree} {p : String}
    (h : (compose settings mode instructions t).result = .ok p) :
    (compose settings mode instructions t).cuts = expectedCuts settings mode instructions t := by
  rw [compose, Traced.result_bind] at h
  obtain ⟨lines, hlines, -⟩ := bind_eq_ok_iff.mp h
  rw [compose, Traced.cuts_bind hlines, Traced.cuts_pure, List.append_nil]
  simp only [promptLines, Traced.result_bind] at hlines
  obtain ⟨general, hgeneral, hlines⟩ := bind_eq_ok_iff.mp hlines
  obtain ⟨view, hview, hlines⟩ := bind_eq_ok_iff.mp hlines
  obtain ⟨shown, hshown, hlines⟩ := bind_eq_ok_iff.mp hlines
  obtain ⟨guidance, hguidance, -⟩ := bind_eq_ok_iff.mp hlines
  rw [promptLines, Traced.cuts_bind hgeneral, Traced.cuts_bind hview, Traced.cuts_bind hshown,
    Traced.cuts_bind hguidance, Traced.cuts_report, Traced.cuts_report, Traced.cuts_ofExcept,
    Traced.cuts_pure, generalLines_cuts, embeddedView_cuts, guidanceLines_cuts hguidance,
    expectedCuts]
  simp only [List.nil_append, List.append_nil, List.append_assoc]

/-! ## What a prompt is put together from -/

/-- Lines that show a text under a heading, if there is one: the text is within a bound. -/
def ShowsWithin (bound : Nat) (heading : List String) (lines : List String) : Prop :=
  lines = [] ∨ ∃ s : String, lines = heading ++ [s] ∧ s.length ≤ bound

/-- The lines are the section of a field, with instructions within the limit and the ellipsis. -/
def IsSection (settings : Settings) (field : String × Node) (lines : List String) : Prop :=
  ∃ instructions examples,
    ShowsWithin (settings.instructionLimit + settings.ellipsis.length)
      ["", "**Extraction Instructions:**"] instructions ∧
    exampleSection field.1 field.2 = .ok examples ∧
    lines = headingLines field.1 field.2 ++ instructions ++ structureLines field.2 ++ examples

/-- The lines for the fields: their sections, each followed by an empty line. -/
def guidanceOf (sections : List (List String)) : List String :=
  if sections = [] then []
  else ["# Field-Specific Extraction Guidance", ""] ++ sections.flatMap (· ++ [""])

/-- A prompt is put together from general instructions, a view of the tree, and the sections of the
fields that have any, and all of them show instructions within the limits and the ellipsis. -/
structure IsAssembled (settings : Settings) (mode : PromptMode) (t : Tree) (general : List String)
    (sections : List (List String)) (p : String) : Prop where
  text : p = promptText general (embeddedView settings mode t).1.indentedJson (guidanceOf sections)
  general : general = [] ∨ ∃ s : String, general = ["# General Instructions", s, ""] ∧
    s.length ≤ settings.generalLimit + settings.ellipsis.length
  view : InstructionsWithin (settings.instructionLimit + settings.ellipsis.length)
    (embeddedView settings mode t).1
  sections : List.Forall₂ (IsSection settings)
    ((orderedProperties t.properties).filter fun kid => kid.2.about.isGuided) sections

theorem instructionLines_within (name : String) (node : Node) :
    ShowsWithin (settings.instructionLimit + settings.ellipsis.length)
      ["", "**Extraction Instructions:**"] (instructionLines settings name node).1 := by
  unfold instructionLines
  cases nonEmpty? node.about.instructions with
  | none => exact .inl rfl
  | some s => exact .inr ⟨_, rfl, Text.capped_length_le⟩

theorem isSection_of_fieldSection {name : String} {node : Node} {lines : List String}
    (h : (fieldSection settings name node).result = .ok lines) :
    IsSection settings (name, node) lines := by
  rw [fieldSection_result] at h
  obtain ⟨examples, hexamples, h⟩ := bind_eq_ok_iff.mp h
  exact ⟨_, examples, instructionLines_within name node, hexamples, (Except.ok.inj h).symm⟩

theorem exists_sections_of_fieldSections {kids : Properties} {lines : List String}
    (h : (fieldSections settings kids).result = .ok lines) :
    ∃ sections, List.Forall₂
        (fun kid lines => (fieldSection settings kid.1 kid.2).result = .ok lines) kids sections ∧
      lines = sections.flatMap (· ++ [""]) := by
  induction kids generalizing lines with
  | nil => exact ⟨[], .nil, (Except.ok.inj h).symm⟩
  | cons kid kids ih =>
    rw [fieldSections_cons_result] at h
    obtain ⟨first, hfirst, h⟩ := bind_eq_ok_iff.mp h
    obtain ⟨more, hmore, h⟩ := bind_eq_ok_iff.mp h
    obtain ⟨sections, hsections, rfl⟩ := ih hmore
    refine ⟨first :: sections, .cons hfirst hsections, ?_⟩
    rw [List.flatMap_cons]
    exact (Except.ok.inj h).symm

theorem exists_sections_of_guidanceLines {t : Tree} {lines : List String}
    (h : (guidanceLines settings t).result = .ok lines) :
    ∃ sections, List.Forall₂
        (fun kid lines => (fieldSection settings kid.1 kid.2).result = .ok lines)
        ((orderedProperties t.properties).filter fun kid => kid.2.about.isGuided) sections ∧
      lines = guidanceOf sections := by
  unfold guidanceLines at h
  split at h
  · rename_i hnil
    rw [hnil]
    exact ⟨[], .nil, (Except.ok.inj h).symm⟩
  · rename_i hguided
    rw [Traced.result_bind] at h
    obtain ⟨more, hmore, h⟩ := bind_eq_ok_iff.mp h
    obtain ⟨sections, hsections, rfl⟩ := exists_sections_of_fieldSections hmore
    have hne : sections ≠ [] := by
      rintro rfl
      exact hguided (List.forall₂_nil_right_iff.mp hsections)
    refine ⟨sections, hsections, ?_⟩
    rw [guidanceOf, if_neg hne]
    exact (Except.ok.inj h).symm

theorem generalLines_within (instructions : Option String) :
    (generalLines settings instructions).1 = [] ∨ ∃ s : String,
      (generalLines settings instructions).1 = ["# General Instructions", s, ""] ∧
        s.length ≤ settings.generalLimit + settings.ellipsis.length := by
  unfold generalLines
  cases nonEmpty? instructions with
  | none => exact .inl rfl
  | some s => exact .inr ⟨_, rfl, Text.capped_length_le⟩

theorem embeddedView_within (mode : PromptMode) (t : Tree) :
    InstructionsWithin (settings.instructionLimit + settings.ellipsis.length)
      (embeddedView settings mode t).1 := by
  cases mode with
  | guidance => exact t.instructions_guidance _ _
  | outline =>
    intro v hv w hw
    obtain ⟨s, hs, hlength⟩ := t.instructions_outline v hv w hw
    exact ⟨s, hs, by omega⟩

theorem exists_isAssembled {mode : PromptMode} {instructions : Option String} {t : Tree}
    {p : String} (h : (compose settings mode instructions t).result = .ok p) :
    ∃ general sections, IsAssembled settings mode t general sections p := by
  obtain ⟨-, guidance, hguidance, rfl⟩ := compose_eq_ok_iff.mp h
  obtain ⟨sections, hsections, rfl⟩ := exists_sections_of_guidanceLines hguidance
  exact ⟨_, sections, rfl, generalLines_within instructions, embeddedView_within mode t,
    hsections.imp fun _ _ => isSection_of_fieldSection⟩

/-! ## The law -/

theorem Truncation.level_warning (cut : Truncation) : cut.warning.level = .warning := by
  unfold Truncation.warning
  split <;> rfl

/-- A prompt that is composed adds one truncation for each text that is cut to those that were there
before, in the order in which the texts stand in the prompt, and writes one warning for each to the
log. A compiled schema has the truncations of its guidance view. All instructions that are shown,
in prompts and in compiled views, are within their limit and the ellipsis. -/
theorem truncations_exact (settings : Settings) :
    (∀ (mode : PromptMode) (instructions : Option String) (t : Tree) (p : String),
      (compose settings mode instructions t).result = .ok p →
        (∀ before, (compose settings mode instructions t).collected before =
          before ++ expectedCuts settings mode instructions t) ∧
        (compose settings mode instructions t).log =
          (expectedCuts settings mode instructions t).map Truncation.warning ∧
        (∀ record ∈ (compose settings mode instructions t).log, record.level = .warning) ∧
        ∃ general sections, IsAssembled settings mode t general sections p) ∧
    ∀ definition companions c, compile settings definition companions = .ok c →
      c.truncations = c.tree.viewCuts settings.instructionLimit ∧
        InstructionsWithin (settings.instructionLimit + settings.ellipsis.length) c.cleanView ∧
        InstructionsWithin 0 c.outputView := by
  constructor
  · intro mode instructions t p hp
    have hcuts := compose_cuts hp
    have hlog : (compose settings mode instructions t).log =
        (expectedCuts settings mode instructions t).map Truncation.warning := by
      rw [Traced.log, hcuts]
    refine ⟨fun before => ?_, hlog, ?_, exists_isAssembled hp⟩
    · rw [Traced.collected, hcuts]
    · rw [hlog, List.forall_mem_map]
      exact fun cut _ => cut.level_warning
  · intro definition companions c h
    have hc := compile_eq_ok_iff.mp h
    obtain ⟨hview, htruncations⟩ := Prod.mk.inj hc.cleanView
    refine ⟨?_, ?_, ?_⟩
    · rw [htruncations]
      exact c.tree.truncations_guidance
    · rw [hview]
      exact c.tree.instructions_guidance _ _
    · rw [hc.outputView]
      exact c.tree.instructions_outline

/-- A definition with a list of lots, where the lots come first in display order. -/
def auctionDefinition : Value :=
  .record [("type", .string "object"), ("properties", .record
    [("house", .record [("type", .string "string"), ("extractionInstructions", .string "The firm."),
        ("order", .int 2)]),
      ("lots", .record [("type", .string "array"), ("order", .int 1),
        ("extractionInstructions", .string "All lots."),
        ("items", .record [("type", .string "object"), ("properties", .record
          [("bid", .record [("type", .string "number"),
            ("extractionInstructions", .string "In euros.")])])])])])]

/-- The tree of the definition. -/
def auctionTree : Tree :=
  ⟨none, {},
    [("house", .primitive { instructions := some "The firm.", order := some 2 } .string {}),
      ("lots", .array { instructions := some "All lots.", order := some 1 }
        (.object {} [("bid", .primitive { instructions := some "In euros." } .number {})] []
          none))],
    [], none⟩

/-- Settings with short limits. -/
def shortSettings : Settings :=
  { Settings.standard with
    instructionLimit := 8
    generalLimit := 5
    ellipsis := "~"
    instructionLimit_pos := Nat.succ_pos 7
    generalLimit_pos := Nat.succ_pos 4 }

theorem truncations_exact_auction : ∃ c p, compile shortSettings auctionDefinition = .ok c ∧
    c.truncations = [⟨.view "house", 9, 8⟩, ⟨.view "lots", 9, 8⟩, ⟨.view "lots[].bid", 9, 8⟩] ∧
    (compose shortSettings .guidance (some "Read all.") c.tree).result = .ok p ∧
    ∀ before, (compose shortSettings .guidance (some "Read all.") c.tree).collected before =
      before ++ [⟨.general, 9, 5⟩, ⟨.view "house", 9, 8⟩, ⟨.view "lots", 9, 8⟩,
        ⟨.view "lots[].bid", 9, 8⟩, ⟨.field "lots", 9, 8⟩, ⟨.field "house", 9, 8⟩] := by
  have hexact := truncations_exact shortSettings
  have hok : (compile shortSettings auctionDefinition).toBool = true := by decide +kernel
  have hread : Tree.ofValue auctionDefinition = .ok auctionTree := by rfl
  have hordered : orderedProperties auctionTree.properties = auctionTree.properties.reverse := by
    rw [orderedProperties_of_perm (List.reverse_perm _).symm (by decide)]
    exact orderedProperties_of_pairwise (by simp [auctionTree, comesBefore, Node.about])
  have hexpected : expectedCuts shortSettings .guidance (some "Read all.") auctionTree =
      [⟨.general, 9, 5⟩, ⟨.view "house", 9, 8⟩, ⟨.view "lots", 9, 8⟩,
        ⟨.view "lots[].bid", 9, 8⟩, ⟨.field "lots", 9, 8⟩, ⟨.field "house", 9, 8⟩] := by
    rw [expectedCuts, sectionCuts, hordered]
    decide +kernel
  cases hc : compile shortSettings auctionDefinition with
  | error _ => simp [hc, Except.toBool] at hok
  | ok c =>
    have htree : c.tree = auctionTree :=
      Except.ok.inj ((compile_eq_ok_iff.mp hc).tree.symm.trans hread)
    cases hp : (compose shortSettings .guidance (some "Read all.") auctionTree).result with
    | error fault =>
      obtain ⟨name, index, e, i, ⟨node, hnode, he⟩, -⟩ :=
        exists_of_compose_eq_error (by decide +kernel) hp
      have hexamples : ∀ kid ∈ auctionTree.properties, kid.2.about.examples = none := by
        simp [auctionTree, Node.about]
      have hnone : node.about.examples = none := hexamples _ hnode
      simp [hnone] at he
    | ok p =>
      refine ⟨c, p, rfl, ?_, ?_, fun before => ?_⟩
      · rw [(hexact.2 _ _ c hc).1, htree]
        decide +kernel
      · rw [htree, hp]
      · rw [htree, (hexact.1 _ _ _ p hp).1, hexpected]

end ExtractionSchema
