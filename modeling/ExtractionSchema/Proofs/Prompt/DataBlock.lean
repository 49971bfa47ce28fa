import ExtractionSchema.Proofs.Compilation
import ExtractionSchema.Proofs.Prompt.Assembly
import ExtractionSchema.Proofs.Value.Json.Lines
import ExtractionSchema.Proofs.Value.Json.Restored
import ExtractionSchema.Proofs.View.Json

/-!
# The data block of a prompt

A prompt shows the view of a compiled schema in a fenced block. The block is found by its fences
alone, without knowledge of the view: no fence stands before it, and the JSON text in it takes new
lines for its layout only, so that nothing in a title, a name or an allowed value can close it. What
stands between the fences is read as the view.

* `Text.enclosed` takes a text out between two parts.
* `promptText_enclosed`: the block of a prompt is the text of its view.
* `CompiledSchema.prompt_dataBlock`: the block of a prompt is read as the compiled view, and general
  instructions stand before the prompt that there is without them.
-/

namespace ExtractionSchema

namespace Text

/-! ## Texts between two parts -/

/-- What stands before the first occurrence of a part, and what follows it. -/
def splitAtFirst (part : List Char) : List Char → Option (List Char × List Char)
  | [] => if part.isEmpty then some ([], []) else none
  | c :: cs =>
    if part.isPrefixOf (c :: cs) then some ([], (c :: cs).drop part.length)
    else (splitAtFirst part cs).map fun split => (c :: split.1, split.2)

/-- The text between the first occurrence of one part and the next one of another. -/
def enclosed (opening closing s : String) : Option String := do
  let (_, inside) ← splitAtFirst opening.toList s.toList
  let (block, _) ← splitAtFirst closing.toList inside
  return String.ofList block

/-- A part that does not occur earlier splits the characters where it stands. -/
theorem splitAtFirst_append {part before after : List Char} (hpart : part ≠ [])
    (hfirst : ∀ c more, c :: more <:+ before → ¬ part <+: c :: (more ++ (part ++ after))) :
    splitAtFirst part (before ++ (part ++ after)) = some (before, after) := by
  induction before with
  | nil =>
    obtain ⟨c, more, rfl⟩ := List.exists_cons_of_ne_nil hpart
    have hstart : (c :: more).isPrefixOf (c :: more ++ after) = true :=
      List.isPrefixOf_iff_prefix.mpr (List.prefix_append _ _)
    rw [List.nil_append, List.cons_append, splitAtFirst, ← List.cons_append, if_pos hstart,
      List.drop_left]
  | cons c before ih =>
    have hnot := hfirst c before (List.suffix_refl _)
    have hlater := ih fun d more hsuffix => hfirst d more (hsuffix.trans (List.suffix_cons _ _))
    rw [← List.isPrefixOf_iff_prefix] at hnot
    rw [List.cons_append, splitAtFirst, if_neg hnot, hlater]
    rfl

end Text

/-! ## The block of a prompt -/

theorem splitAtFirst_opening {header after : List Char} (hheader : '\x60' ∉ header) :
    Text.splitAtFirst "```json\n".toList (header ++ ("```json\n".toList ++ after)) =
      some (header, after) := by
  apply Text.splitAtFirst_append (by decide)
  intro c more hsuffix hstart
  have hc : c ∈ header := hsuffix.subset List.mem_cons_self
  have hfence : "```json\n".toList = '\x60' :: "``json\n".toList := rfl
  rw [hfence, List.cons_prefix_cons] at hstart
  rw [hstart.1] at hheader
  exact hheader hc

theorem splitAtFirst_closing {block after : List Char} (hblock : Value.HasNoFence block) :
    Text.splitAtFirst "\n```".toList (block ++ ("\n```".toList ++ after)) =
      some (block, after) := by
  apply Text.splitAtFirst_append (by decide)
  intro c more hsuffix hstart
  have hfence : "\n```".toList = '\n' :: '\x60' :: "``".toList := rfl
  rw [hfence, List.cons_prefix_cons] at hstart
  obtain ⟨hc, hstart⟩ := hstart
  cases more with
  | nil =>
    -- the closing fence does not start within itself
    rw [List.nil_append, List.cons_append, List.cons_prefix_cons] at hstart
    exact absurd hstart.1 (by decide)
  | cons next more =>
    have hnext := (List.isChain_cons_cons.mp (hblock.suffix hsuffix)).1
    rw [List.cons_append, List.cons_prefix_cons] at hstart
    exact hnext hc.symm hstart.1.symm

/-- The lines above the block. -/
def blockHeader : String :=
  "# Data Structure" ++ "\n" ++ "Extract data according to the following JSON schema structure:" ++
    "\n"

theorem toList_intercalate (first second opening shown closing next : String)
    (more : List String) :
    ("\n".intercalate (first :: second :: opening :: shown :: closing :: next :: more)).toList =
      (first ++ "\n" ++ second ++ "\n").toList ++ ((opening ++ "\n").toList ++ (shown.toList ++
        (("\n" ++ closing).toList ++ ("\n" ++ "\n".intercalate (next :: more)).toList))) := by
  simp only [String.intercalate_cons_cons, String.toList_append, List.append_assoc]

theorem exists_promptText_eq (shown : String) (guidance : List String) :
    ∃ after, (promptText [] shown guidance).toList = blockHeader.toList ++
      ("```json\n".toList ++ (shown.toList ++ ("\n```".toList ++ after))) := by
  have hopening : "```json\n" = "```json" ++ "\n" := rfl
  have hclosing : "\n```" = "\n" ++ "```" := rfl
  rw [hopening, hclosing]
  exact ⟨_, toList_intercalate _ _ _ shown _ _ guidance⟩

/-- The block of a prompt is the text of its view. -/
theorem promptText_enclosed {shown : String} (hshown : Value.HasNoFence shown.toList)
    (guidance : List String) :
    Text.enclosed "```json\n" "\n```" (promptText [] shown guidance) = some shown := by
  obtain ⟨after, htext⟩ := exists_promptText_eq shown guidance
  have hheader : '\x60' ∉ blockHeader.toList := by decide +kernel
  rw [Text.enclosed, htext, splitAtFirst_opening hheader]
  dsimp only [bind, Option.bind]
  rw [splitAtFirst_closing hshown]
  exact congrArg some String.ofList_toList

/-! ## The view of a compiled schema -/

namespace CompiledSchema

/-- The compiled view that a mode embeds. -/
def view (c : CompiledSchema) : PromptMode → Value
  | .outline => c.outputView
  | .guidance => c.cleanView

variable {settings : Settings} {definition : Value} {companions : Companions} {c : CompiledSchema}

theorem view_eq (h : Compiled settings definition companions c) (mode : PromptMode) :
    c.view mode = (embeddedView settings mode c.tree).1 := by
  cases mode with
  | outline => exact h.outputView
  | guidance => exact congrArg Prod.fst h.cleanView

theorem isFloatFree_view (h : Compiled settings definition companions c)
    (hfree : c.tree.root.IsFloatFree) (hnames : c.tree.root.hasDistinctNames = true)
    (mode : PromptMode) : (c.view mode).IsFloatFree := by
  rw [view_eq h]
  cases mode with
  | outline => exact Wire.Tree.built_outline Value.isBuilt_isFloatFree hfree hnames
  | guidance => exact Wire.Tree.built_guidance Value.isBuilt_isFloatFree _ hfree hnames

/-- Without guided fields, a prompt without instructions is there if its view has a JSON text. -/
theorem prompt_of_unguided (h : Compiled settings definition companions c)
    (hstored : c.instructions = none) (mode : Option PromptMode)
    (hobstacle : (c.view (mode.getD settings.promptMode)).obstacle = none)
    (hunguided : ∀ kid ∈ c.tree.properties, kid.2.about.isGuided = false) :
    (c.prompt settings none mode).result =
      .ok (promptText [] (c.view (mode.getD settings.promptMode)).indentedJson []) := by
  rw [prompt, hstored, Option.or_none, compose_eq_ok_iff, ← view_eq h, generalLines_none]
  exact ⟨hobstacle, [], guidanceLines_eq_nil hunguided, rfl⟩

/-- The tree of a compiled schema is read again from its definition. If the allowed values are JSON
without floating-point numbers, the block of a prompt without instructions is read as the compiled
view of its mode; general instructions, cut to their limit, stand before that prompt. -/
theorem prompt_dataBlock (h : compile settings definition companions = .ok c)
    (hstored : c.instructions = none) (hfree : c.tree.root.IsFloatFree)
    (hnames : c.tree.root.hasDistinctNames = true) :
    Wire.Tree.ofValue c.definition = .ok c.tree ∧ ∀ mode : Option PromptMode,
      (∀ p, (c.prompt settings none mode).result = .ok p →
        ∃ block, Text.enclosed "```json\n" "\n```" p = some block ∧
          Json.read block = .ok (c.view (mode.getD settings.promptMode))) ∧
      ∀ g, g ≠ "" → (c.prompt settings (some g) mode).result =
        (c.prompt settings none mode).result.map fun p => "# General Instructions\n" ++
          Text.capped settings.generalLimit settings.ellipsis g ++ "\n\n" ++ p := by
  have hc := compile_eq_ok_iff.mp h
  refine ⟨?_, fun mode => ⟨?_, ?_⟩⟩
  · rw [hc.definition_eq]
    exact hc.tree
  · intro p hp
    have hview := isFloatFree_view hc hfree hnames (mode.getD settings.promptMode)
    rw [prompt, hstored, Option.or_none, compose_eq_ok_iff, ← view_eq hc, generalLines_none] at hp
    generalize c.view (mode.getD settings.promptMode) = shown at hview hp ⊢
    obtain ⟨hobstacle, guidance, -, rfl⟩ := hp
    have hlines : Value.HasNoFence shown.indentedJson.toList := by
      rw [Value.toList_indentedJson]
      exact hview.keepsLines 0 [] .nil
    exact ⟨_, promptText_enclosed hlines guidance, hview.read_indentedJson hobstacle⟩
  · intro g hg
    rw [prompt, prompt, hstored]
    exact compose_some hg

/-- A field whose texts look like the end of a block. -/
def fencedField : Value :=
  .record [("type", .string "string"), ("title", .string "\\"),
    ("extractionInstructions", .string "\n```"),
    ("enum", .list [.string "\n```\n", .null, .int (-12), .bool true, .list [.string "\t"]])]

/-- A definition with such a field in an object. -/
def fencedDefinition : Value :=
  .record [("type", .string "object"), ("title", .string "a\n```\n\"\x01"),
    ("properties", .record [("rows", .record [("type", .string "object"),
      ("properties", .record [("```json\n", fencedField)])])])]

theorem isFloatFree_fencedDefinition : fencedDefinition.IsFloatFree := by
  have hlist : (Value.list [.string "\t"]).IsFloatFree := .list (by simp [Value.IsFloatFree.string])
  have henum : (Value.list [.string "\n```\n", .null, .int (-12), .bool true,
      .list [.string "\t"]]).IsFloatFree := by
    apply Value.IsFloatFree.list
    simp only [List.forall_mem_cons]
    exact ⟨.string _, .null, .int _, .bool _, hlist, by simp⟩
  have hfield : fencedField.IsFloatFree := by
    apply Value.IsFloatFree.record (by decide)
    simp only [List.forall_mem_cons]
    exact ⟨.string _, .string _, .string _, henum, by simp⟩
  have hrows : (Value.record [("type", .string "object"),
      ("properties", .record [("```json\n", fencedField)])]).IsFloatFree := by
    apply Value.IsFloatFree.record (by decide)
    simp only [List.forall_mem_cons]
    exact ⟨.string _, .record (by decide) (by simpa using hfield), by simp⟩
  apply Value.IsFloatFree.record (by decide)
  simp only [List.forall_mem_cons]
  exact ⟨.string _, .string _, .record (by decide) (by simpa using hrows), by simp⟩

theorem prompt_dataBlock_fenced : ∃ c p block, compile {} fencedDefinition {} = .ok c ∧
    Wire.Tree.ofValue c.definition = .ok c.tree ∧
    (c.prompt {} none (some .guidance)).result = .ok p ∧
    Text.enclosed "```json\n" "\n```" p = some block ∧ Json.read block = .ok c.cleanView ∧
    (c.prompt {} (some "```") (some .guidance)).result =
      .ok ("# General Instructions\n" ++ Text.capped 3000 "..." "```" ++ "\n\n" ++ p) := by
  have hok : (match compile {} fencedDefinition {} with
      | .ok c => decide (c.cleanView.obstacle = none ∧
          ∀ kid ∈ c.tree.properties, kid.2.about.isGuided = false)
      | .error _ => false) = true := by decide +kernel
  cases hc : compile {} fencedDefinition {} with
  | error _ => simp [hc] at hok
  | ok c =>
    rw [hc, decide_eq_true_iff] at hok
    have hcompiled := compile_eq_ok_iff.mp hc
    have hdocument := isFloatFree_fencedDefinition.isDocument
    have hfree := Wire.Tree.isFloatFree_of_ofValue isFloatFree_fencedDefinition hcompiled.tree
    have hnames := Wire.Tree.hasDistinctNames_of_ofValue hdocument hcompiled.tree
    obtain ⟨htree, hprompt⟩ := prompt_dataBlock hc hcompiled.instructions hfree hnames
    obtain ⟨hblock, hgeneral⟩ := hprompt (some .guidance)
    have hp := prompt_of_unguided hcompiled hcompiled.instructions (some .guidance) hok.1 hok.2
    obtain ⟨block, henclosed, hread⟩ := hblock _ hp
    refine ⟨c, _, block, rfl, htree, hp, henclosed, hread, ?_⟩
    rw [hgeneral "```" (by decide), hp]
    rfl

/-- A definition that allows an object whose key is a number. -/
def numberedDefinition : Value :=
  .record [("type", .string "object"),
    ("properties", .record [("a", .record [("type", .string "string"),
      ("enum", .list [.object [(.number (.int 1), .string "a")]])])])]

/-- The JSON text of a key that is a number writes it as a text, and it is read as one. -/
theorem prompt_dataBlock_number_key : ∃ c p block, compile {} numberedDefinition {} = .ok c ∧
    c.instructions = none ∧ c.tree.root.hasDistinctNames = true ∧
    (c.prompt {} none (some .outline)).result = .ok p ∧
    Text.enclosed "```json\n" "\n```" p = some block ∧ Json.read block ≠ .ok c.outputView := by
  have hok : ((compile {} numberedDefinition {}).toOption.any fun c =>
      decide (c.outputView.obstacle = none ∧ c.tree.root.hasDistinctNames = true ∧
        (∀ kid ∈ c.tree.properties, kid.2.about.isGuided = false) ∧
        Value.HasNoFence (Value.write (some 0) c.outputView []) ∧
        (Json.readAll (Value.write (some 0) c.outputView [])).toOption ≠ some c.outputView)) =
      true := by decide +kernel
  cases hc : compile {} numberedDefinition {} with
  | error _ => simp [hc, Except.toOption] at hok
  | ok c =>
    rw [hc] at hok
    obtain ⟨hobstacle, hnames, hunguided, hlines, hread⟩ := of_decide_eq_true hok
    have hcompiled := compile_eq_ok_iff.mp hc
    have hp := prompt_of_unguided hcompiled hcompiled.instructions (some .outline) hobstacle
      hunguided
    rw [← c.outputView.toList_indentedJson] at hlines hread
    refine ⟨c, _, _, rfl, hcompiled.instructions, hnames, hp, promptText_enclosed hlines [], ?_⟩
    intro heq
    rw [Json.read_eq_ok_iff.mp heq] at hread
    exact hread rfl

end CompiledSchema

end ExtractionSchema
