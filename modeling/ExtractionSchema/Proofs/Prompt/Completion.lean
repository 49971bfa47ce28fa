import ExtractionSchema.Proofs.Prompt.Assembly
import ExtractionSchema.Proofs.Value.Json.Decoded
import ExtractionSchema.Proofs.View.Json

/-!
# When a prompt is composed

The output of an example may be a text that writes a list or an object. It is decoded where it is
shown, and a text that is no JSON is shown as it stands. A JSON text with an integer of more digits
than are read is refused in another way, which nothing between the example and the prompt catches.
All else that a prompt shows can be shown, if the document of its tree can.

* `shownOutput_cases`: what can become of an output.
* `Contains` takes the lines of an example up to those of the prompt.
* `compose_outcome`: a prompt is composed except for an output with such an integer, and an output
  that is no JSON stands in it as the text that it is.
-/

namespace ExtractionSchema

/-! ## Texts that start like lists and objects -/

namespace Text

/-- The text, without the blanks around it, starts with a brace or a bracket. -/
def StartsStructure (s : String) : Prop :=
  (trim isBlank s).toList.head? = some '\x7b' ∨ (trim isBlank s).toList.head? = some '['

/-- A text that starts like a list or an object and is not decoded. -/
structure IsUndecodable (s : String) : Prop where
  starts : StartsStructure s
  read_ne : ∀ v, Json.read (trim isBlank s) ≠ .ok v

/-- A text that starts like a list or an object and is not decoded for an integer with so many
digits. -/
structure IsOverlong (s : String) (count : Nat) : Prop where
  starts : StartsStructure s
  read_eq : Json.read (trim isBlank s) = .error (.digits count)

end Text

open Text

theorem shownOutput_of_starts {s : String} (h : StartsStructure s) :
    shownOutput (.string s) = match Json.read (trim isBlank s) with
      | .ok v => .ok v
      | .error (.digits count) => .error (.digits (.digits count))
      | .error (.invalid _ _ _ _) => .ok (.string s) := by
  have hstarts : (decide ((trim isBlank s).toList.head? = some '\x7b') ||
      decide ((trim isBlank s).toList.head? = some '[')) = true := by
    simpa [StartsStructure] using h
  unfold shownOutput
  dsimp only
  refine (if_pos hstarts).trans ?_
  cases Json.read (trim isBlank s) with
  | ok v => rfl
  | error e => cases e <;> rfl

theorem shownOutput_of_isOverlong {s : String} {count : Nat} (h : IsOverlong s count) :
    shownOutput (.string s) = .error (.digits (.digits count)) := by
  rw [shownOutput_of_starts h.starts, h.read_eq]

/-- An output stays, or it is a text and becomes what that writes, or it is refused for an integer
with too many digits. -/
theorem shownOutput_cases (output : Value) :
    shownOutput output = .ok output ∨
    (∃ s v, output = .string s ∧ Json.read (trim isBlank s) = .ok v ∧
      shownOutput output = .ok v) ∨
    ∃ s count, output = .string s ∧ IsOverlong s count ∧
      shownOutput output = .error (.digits (.digits count)) := by
  cases output with
  | string s =>
    by_cases hstarts : StartsStructure s
    · rw [shownOutput_of_starts hstarts]
      cases hread : Json.read (trim isBlank s) with
      | ok v => exact .inr (.inl ⟨s, v, rfl, hread, rfl⟩)
      | error e =>
        cases e with
        | digits count => exact .inr (.inr ⟨s, count, rfl, ⟨hstarts, hread⟩, rfl⟩)
        | invalid problem line column index => exact .inl rfl
    · left
      have hplain : ¬ (decide ((trim isBlank s).toList.head? = some '\x7b') ||
          decide ((trim isBlank s).toList.head? = some '[')) = true := by
        simpa [StartsStructure] using hstarts
      unfold shownOutput
      dsimp only
      rw [if_neg hplain]
  | _ => exact .inl rfl

theorem shownOutput_eq_error_iff {output : Value} {fault : PromptFault} :
    shownOutput output = .error fault ↔
      ∃ s count, output = .string s ∧ IsOverlong s count ∧ fault = .digits (.digits count) := by
  constructor
  · intro h
    obtain hok | ⟨_, _, -, -, hok⟩ | ⟨s, count, hs, hlong, herror⟩ := shownOutput_cases output
    · rw [hok] at h
      cases h
    · rw [hok] at h
      cases h
    · rw [herror] at h
      exact ⟨s, count, hs, hlong, (Except.error.inj h).symm⟩
  · rintro ⟨s, count, rfl, hlong, rfl⟩
    exact shownOutput_of_isOverlong hlong

/-- An output that is shown can be written if it can be written itself. -/
theorem obstacle_of_shownOutput {output shown : Value} (houtput : output.obstacle = none)
    (h : shownOutput output = .ok shown) : shown.obstacle = none := by
  obtain hok | ⟨_, v, -, hread, hok⟩ | ⟨_, _, -, -, herror⟩ := shownOutput_cases output
  · rw [hok] at h
    cases h
    exact houtput
  · rw [hok] at h
    cases h
    exact Json.obstacle_of_read hread
  · rw [herror] at h
    cases h

/-- A text that is not decoded is shown as it is, if it is shown. -/
theorem shownOutput_of_isUndecodable {s : String} {shown : Value} (hs : IsUndecodable s)
    (h : shownOutput (.string s) = .ok shown) : shown = .string s := by
  obtain hok | ⟨_, v, heq, hread, -⟩ | ⟨_, _, -, -, herror⟩ := shownOutput_cases (.string s)
  · rw [hok] at h
    exact (Except.ok.inj h).symm
  · cases heq
    exact absurd hread (hs.read_ne v)
  · rw [herror] at h
    cases h

/-! ## Examples -/

/-- The line that shows the input of an example. -/
def inputLine (index : Nat) (e : Wire.ExampleEntries) : String :=
  let input := (e.lookup "input").getD (.string "")
  s!"{index}. Input: \"{input.plain}\""

/-- The lines that show an output under the name of its field. -/
def underName (name : String) (output : Value) : List String :=
  ["Output:", (Value.record [(name, output)]).indentedJson]

theorem outputLines_eq_ok (name : String) {output : Value} (h : output.obstacle = none) :
    ∃ lines, outputLines name output = .ok lines := by
  have hrecord : (Value.record [(name, output)]).obstacle = none := by
    simpa [Value.obstacle_record_eq_none] using h
  unfold outputLines Value.indentedJson?
  split
  · rw [h]
    exact ⟨_, rfl⟩
  · rw [h]
    exact ⟨_, rfl⟩
  · rw [hrecord]
    exact ⟨_, rfl⟩

theorem outputLines_string (name s : String) :
    outputLines name (.string s) = .ok (underName name (.string s)) := rfl

/-- What an example holds can be shown. -/
structure Wire.ExampleEntries.IsShowable (e : Wire.ExampleEntries) : Prop where
  input : ((e.lookup "input").getD (.string "")).isShowable = true
  output : ((e.lookup "output").getD .null).obstacle = none

section Examples

variable {name : String} {index : Nat} {e : Wire.ExampleEntries}

theorem exampleLines_eq (he : e.IsShowable) : exampleLines name index e = do
    let output ← shownOutput ((e.lookup "output").getD .null)
    let lines ← outputLines name output
    return inputLine index e :: lines := by
  unfold exampleLines
  dsimp only
  rw [he.input]
  rfl

/-- An example is not shown only for an output with too many digits. -/
theorem exampleLines_eq_error_iff (he : e.IsShowable) {fault : PromptFault} :
    exampleLines name index e = .error fault ↔ ∃ s count, e.lookup "output" = some (.string s) ∧
      IsOverlong s count ∧ fault = .digits (.digits count) := by
  have hlookup : ∀ s, (e.lookup "output").getD .null = .string s ↔
      e.lookup "output" = some (.string s) := by
    intro s
    cases e.lookup "output" <;> simp
  have hlines : ∀ output, shownOutput ((e.lookup "output").getD .null) = .ok output →
      ∃ lines, outputLines name output = .ok lines :=
    fun output h => outputLines_eq_ok name (obstacle_of_shownOutput he.output h)
  simp only [← hlookup]
  rw [exampleLines_eq he, bind_eq_error_iff, shownOutput_eq_error_iff]
  refine or_iff_left ?_
  rintro ⟨output, houtput, h⟩
  obtain ⟨lines, hok⟩ := hlines output houtput
  rw [hok] at h
  cases h

/-- An output that is not decoded is shown under the name of its field. -/
theorem exampleLines_of_isUndecodable (he : e.IsShowable) {s : String} {lines : List String}
    (houtput : e.lookup "output" = some (.string s)) (hs : IsUndecodable s)
    (h : exampleLines name index e = .ok lines) :
    lines = inputLine index e :: underName name (.string s) := by
  rw [exampleLines_eq he, houtput, bind_eq_ok_iff] at h
  obtain ⟨output, hshown, h⟩ := h
  rw [shownOutput_of_isUndecodable hs hshown, outputLines_string] at h
  exact (Except.ok.inj h).symm

end Examples

/-! ## From examples to prompts -/

/-- Lines that are composed contain those of a part, which are composed then. -/
def Contains (whole part : Except PromptFault (List String)) : Prop :=
  ∀ lines, whole = .ok lines → ∃ shown, part = .ok shown ∧ shown <:+: lines

theorem Contains.trans {whole middle part : Except PromptFault (List String)}
    (h : Contains whole middle) (hpart : Contains middle part) : Contains whole part := by
  intro lines hlines
  obtain ⟨between, hbetween, hinfix⟩ := h lines hlines
  obtain ⟨shown, hshown, hwithin⟩ := hpart between hbetween
  exact ⟨shown, hshown, hwithin.trans hinfix⟩

/-- Lines around those of a part contain them. -/
theorem contains_bind {part : Except PromptFault (List String)}
    {f : List String → Except PromptFault (List String)}
    (h : ∀ shown lines, f shown = .ok lines → shown <:+: lines) : Contains (part >>= f) part := by
  intro lines hlines
  obtain ⟨shown, hshown, hf⟩ := bind_eq_ok_iff.mp hlines
  exact ⟨shown, hshown, h shown lines hf⟩

/-- What is done before makes no difference for the lines that are contained. -/
theorem contains_after {α : Type} {x : Except PromptFault α}
    {f : α → Except PromptFault (List String)} {part : Except PromptFault (List String)}
    (h : ∀ a, Contains (f a) part) : Contains (x >>= f) part := by
  intro lines hlines
  obtain ⟨a, -, hf⟩ := bind_eq_ok_iff.mp hlines
  exact h a lines hf

section Parts

variable {settings : Settings} {name : String} {node : Wire.Node} {fault : PromptFault}

theorem examplesLines_contains {es : List Wire.ExampleEntries} {start i : Nat}
    {e : Wire.ExampleEntries} (h : es[i]? = some e) :
    Contains (examplesLines name start es) (exampleLines name (start + i) e) := by
  induction es generalizing start i with
  | nil => simp at h
  | cons first es ih =>
    rw [examplesLines]
    cases i with
    | zero =>
      obtain rfl : first = e := by simpa using h
      apply contains_bind
      intro shown lines hlines
      obtain ⟨rest, -, hlines⟩ := bind_eq_ok_iff.mp hlines
      cases hlines
      exact (List.prefix_append _ _).isInfix
    | succ i =>
      have hrest : Contains (examplesLines name (start + 1) es)
          (exampleLines name (start + 1 + i) e) := ih (by simpa using h)
      have hindex : start + (i + 1) = start + 1 + i := by omega
      rw [hindex]
      apply contains_after
      intro lines
      refine (contains_bind ?_).trans hrest
      intro shown all hall
      cases hall
      exact (List.suffix_append _ _).isInfix

theorem exists_of_examplesLines_eq_error {es : List Wire.ExampleEntries} {start : Nat}
    (h : examplesLines name start es = .error fault) :
    ∃ i, ∃ e ∈ es, exampleLines name i e = .error fault := by
  induction es generalizing start with
  | nil => cases h
  | cons first es ih =>
    rw [examplesLines, bind_eq_error_iff] at h
    rcases h with h | ⟨lines, -, h⟩
    · exact ⟨start, first, List.mem_cons_self, h⟩
    · rcases bind_eq_error_iff.mp h with h | ⟨rest, -, h⟩
      · obtain ⟨i, e, he, hfault⟩ := ih h
        exact ⟨i, e, List.mem_cons_of_mem _ he, hfault⟩
      · cases h

theorem exampleSection_contains {i : Nat} {e : Wire.ExampleEntries}
    (h : (node.about.examples.getD [])[i]? = some e) :
    Contains (exampleSection name node) (exampleLines name (1 + i) e) := by
  unfold exampleSection
  split
  · rename_i hnone
    simp [hnone] at h
  · rename_i hnil
    simp [hnil] at h
  · rename_i examples _ hsome
    rw [hsome] at h
    refine Contains.trans (contains_bind ?_) (examplesLines_contains h)
    intro shown lines hlines
    cases hlines
    exact (List.suffix_append _ _).isInfix

theorem exists_of_exampleSection_eq_error (h : exampleSection name node = .error fault) :
    ∃ i, ∃ e ∈ node.about.examples.getD [], exampleLines name i e = .error fault := by
  unfold exampleSection at h
  split at h
  · cases h
  · cases h
  · rename_i examples _ hsome
    rw [hsome]
    rcases bind_eq_error_iff.mp h with h | ⟨lines, -, h⟩
    · exact exists_of_examplesLines_eq_error h
    · cases h

theorem fieldSection_result : (fieldSection settings name node).result =
    exampleSection name node >>= fun examples =>
      return headingLines name node ++ (instructionLines settings name node).1 ++
        structureLines node ++ examples := by
  rw [fieldSection]
  simp only [Traced.result_bind, Traced.result_report, Traced.result_ofExcept, Traced.result_pure]
  rfl

theorem fieldSection_contains :
    Contains (fieldSection settings name node).result (exampleSection name node) := by
  rw [fieldSection_result]
  apply contains_bind
  intro shown lines hlines
  cases hlines
  exact (List.suffix_append _ _).isInfix

theorem exampleSection_of_fieldSection
    (h : (fieldSection settings name node).result = .error fault) :
    exampleSection name node = .error fault := by
  rw [fieldSection_result, bind_eq_error_iff] at h
  rcases h with h | ⟨lines, -, h⟩
  · exact h
  · cases h

theorem fieldSections_cons_result (rest : Wire.Properties) :
    (fieldSections settings ((name, node) :: rest)).result =
      (fieldSection settings name node).result >>= fun lines =>
        (fieldSections settings rest).result >>= fun more => return lines ++ [""] ++ more := by
  rw [fieldSections]
  simp only [Traced.result_bind, Traced.result_pure]
  rfl

theorem fieldSections_contains {kids : Wire.Properties} (h : (name, node) ∈ kids) :
    Contains (fieldSections settings kids).result (fieldSection settings name node).result := by
  induction kids with
  | nil => simp at h
  | cons kid kids ih =>
    rw [fieldSections_cons_result]
    rcases List.mem_cons.mp h with rfl | h
    · apply contains_bind
      intro shown lines hlines
      obtain ⟨more, -, hlines⟩ := bind_eq_ok_iff.mp hlines
      cases hlines
      rw [List.append_assoc]
      exact (List.prefix_append _ _).isInfix
    · apply contains_after
      intro lines
      refine (contains_bind ?_).trans (ih h)
      intro shown all hall
      cases hall
      exact (List.suffix_append _ _).isInfix

theorem exists_of_fieldSections_eq_error {kids : Wire.Properties}
    (h : (fieldSections settings kids).result = .error fault) :
    ∃ kid ∈ kids, (fieldSection settings kid.1 kid.2).result = .error fault := by
  induction kids with
  | nil => cases h
  | cons kid kids ih =>
    rw [fieldSections_cons_result, bind_eq_error_iff] at h
    rcases h with h | ⟨lines, -, h⟩
    · exact ⟨kid, List.mem_cons_self, h⟩
    · rcases bind_eq_error_iff.mp h with h | ⟨more, -, h⟩
      · obtain ⟨kid, hkid, hfault⟩ := ih h
        exact ⟨kid, List.mem_cons_of_mem _ hkid, hfault⟩
      · cases h

theorem guidanceLines_contains {t : Wire.Tree} (h : (name, node) ∈ t.properties)
    (hguided : node.about.isGuided = true) :
    Contains (guidanceLines settings t).result (fieldSection settings name node).result := by
  have hmem : (name, node) ∈ (Wire.orderedProperties t.properties).filter
      fun kid => kid.2.about.isGuided := by
    rw [List.mem_filter]
    exact ⟨(Wire.orderedProperties_perm t.properties).mem_iff.mpr h, hguided⟩
  unfold guidanceLines
  split
  · rename_i hnil
    rw [hnil] at hmem
    cases hmem
  · rw [Traced.result_bind]
    refine (contains_bind ?_).trans (fieldSections_contains hmem)
    intro shown lines hlines
    cases hlines
    exact (List.suffix_append _ _).isInfix

theorem exists_of_guidanceLines_eq_error {t : Wire.Tree}
    (h : (guidanceLines settings t).result = .error fault) :
    ∃ kid ∈ t.properties, (fieldSection settings kid.1 kid.2).result = .error fault := by
  unfold guidanceLines at h
  split at h
  · cases h
  · rw [Traced.result_bind, bind_eq_error_iff] at h
    rcases h with h | ⟨lines, -, h⟩
    · obtain ⟨kid, hkid, hfault⟩ := exists_of_fieldSections_eq_error h
      have hordered := (List.mem_filter.mp hkid).1
      exact ⟨kid, (Wire.orderedProperties_perm t.properties).mem_iff.mp hordered, hfault⟩
    · cases h

end Parts

/-! ## Trees of documents that can be shown -/

namespace Wire

theorem isInherited_showable :
    IsInherited fun v => v.isJson = true ∧ v.isShowable = true where
  isJson _ h := h.1
  items _ h v hv := ⟨Value.isJson_list.mp h.1 v hv, Value.isShowable_list.mp h.2 v hv⟩
  entries _ h e he := ⟨(Value.isJson_object.mp h.1 e he).2, (Value.isShowable_object.mp h.2 e he).2⟩

/-- An example of a field of the tree, with its index among the examples of the field. -/
def Tree.HasExample (t : Tree) (name : String) (index : Nat) (e : ExampleEntries) : Prop :=
  ∃ node, (name, node) ∈ t.properties ∧ (node.about.examples.getD [])[index]? = some e

/-- A text is the output of an example of some field of the tree. -/
def Tree.HasOutput (t : Tree) (s : String) : Prop :=
  ∃ name index e, t.HasExample name index e ∧ e.lookup "output" = some (.string s)

variable {d : Value} {t : Tree}

theorem Tree.holds_of_ofValue (hd : d.isDocument = true) (hshown : d.isShowable = true)
    (ht : Tree.ofValue d = .ok t) : t.root.All
      (Presentation.Holds fun v => v.isJson = true ∧ v.isShowable = true) fun _ => True :=
  Tree.all_of_ofValue (passes_holds isInherited_showable)
    ⟨Value.isJson_of_isDocument d hd, hshown⟩ ht

theorem Tree.obstacle_embeddedView (hd : d.isDocument = true) (hshown : d.isShowable = true)
    (ht : Tree.ofValue d = .ok t) (settings : Settings) (mode : PromptMode) :
    (embeddedView settings mode t).1.obstacle = none := by
  have hallows : t.root.All (Presentation.Allows fun v => v.obstacle = none) fun _ => True := by
    refine (Tree.holds_of_ofValue hd hshown ht).imp ?_ fun _ _ => trivial
    intro about habout allowed hallowed v hv
    obtain ⟨hjson, hshowable⟩ := habout.enum allowed hallowed v hv
    exact Value.obstacle_eq_none v hjson hshowable
  have hnames := Tree.hasDistinctNames_of_ofValue hd ht
  cases mode with
  | outline => exact Tree.built_outline Value.isBuilt_unobstructed hallows hnames
  | guidance => exact Tree.built_guidance Value.isBuilt_unobstructed _ hallows hnames

theorem Tree.isShowable_of_hasExample (hd : d.isDocument = true) (hshown : d.isShowable = true)
    (ht : Tree.ofValue d = .ok t) {name : String} {index : Nat} {e : ExampleEntries}
    (he : t.HasExample name index e) : e.IsShowable := by
  obtain ⟨node, hnode, hindex⟩ := he
  have habout := (allWithin_iff.mp (Tree.holds_of_ofValue hd hshown ht).2 _ hnode).about
  have hentry : ∀ key v, e.lookup key = some v → v.isJson = true ∧ v.isShowable = true := by
    intro key v hlookup
    have hmem : (key, v) ∈ e := by
      obtain ⟨before, after, rfl, -⟩ := List.lookup_eq_some_iff.mp hlookup
      simp
    cases hexamples : node.about.examples with
    | none => simp [hexamples] at hindex
    | some es =>
      rw [hexamples] at hindex
      exact habout.examples es hexamples e (List.mem_of_getElem? hindex) _ hmem
  constructor
  · cases hinput : e.lookup "input" with
    | none => rfl
    | some v => exact (hentry _ v hinput).2
  · cases houtput : e.lookup "output" with
    | none => rfl
    | some v => exact Value.obstacle_eq_none v (hentry _ v houtput).1 (hentry _ v houtput).2

end Wire

/-! ## Prompts -/

section Prompts

variable {settings : Settings} {mode : PromptMode} {instructions : Option String} {t : Wire.Tree}
  {name : String} {index : Nat} {e : Wire.ExampleEntries}

theorem guidanceLines_contains_example (he : t.HasExample name index e) :
    Contains (guidanceLines settings t).result (exampleLines name (1 + index) e) := by
  obtain ⟨node, hnode, hindex⟩ := he
  have hguided : node.about.isGuided = true := by
    cases hexamples : node.about.examples.getD [] with
    | nil => simp [hexamples] at hindex
    | cons e es => simp [Wire.Presentation.isGuided, hexamples]
  have hsection : Contains (fieldSection settings name node).result
      (exampleLines name (1 + index) e) :=
    fieldSection_contains.trans (exampleSection_contains hindex)
  exact (guidanceLines_contains hnode hguided).trans hsection

/-- The lines of an example stand in a prompt that is composed. -/
theorem exists_lines_of_compose (he : t.HasExample name index e) {p : String}
    (h : (compose settings mode instructions t).result = .ok p) :
    ∃ shown before after, exampleLines name (1 + index) e = .ok shown ∧
      p = "\n".intercalate (before ++ shown ++ after) := by
  obtain ⟨-, guidance, hguidance, rfl⟩ := compose_eq_ok_iff.mp h
  obtain ⟨shown, hshown, before, after, rfl⟩ := guidanceLines_contains_example he _ hguidance
  refine ⟨shown, (generalLines settings instructions).1 ++
    viewLines (embeddedView settings mode t).1.indentedJson ++ before, after, hshown, ?_⟩
  simp only [promptText, List.append_assoc]

/-- No prompt is composed when an output writes an integer with too many digits. -/
theorem compose_ne_ok (he : t.HasExample name index e) (hshowable : e.IsShowable) {s : String}
    {count : Nat} (hs : e.lookup "output" = some (.string s)) (hlong : IsOverlong s count)
    (p : String) : (compose settings mode instructions t).result ≠ .ok p := by
  intro hp
  obtain ⟨shown, -, -, hok, -⟩ := exists_lines_of_compose he hp
  have herror : exampleLines name (1 + index) e = .error (.digits (.digits count)) :=
    (exampleLines_eq_error_iff hshowable).mpr ⟨s, count, hs, hlong, rfl⟩
  rw [hok] at herror
  cases herror

/-- If the view can be shown, a fault is one of an example. -/
theorem exists_of_compose_eq_error (hview : (embeddedView settings mode t).1.obstacle = none)
    {fault : PromptFault} (h : (compose settings mode instructions t).result = .error fault) :
    ∃ name index e i, t.HasExample name index e ∧ exampleLines name i e = .error fault := by
  have hguidance : (guidanceLines settings t).result = .error fault := by
    rw [compose_result, Value.indentedJson?, hview] at h
    cases hlines : (guidanceLines settings t).result with
    | ok guidance =>
      rw [hlines] at h
      cases h
    | error _ =>
      rw [hlines] at h
      cases h
      rfl
  obtain ⟨⟨name, node⟩, hnode, hsection⟩ := exists_of_guidanceLines_eq_error hguidance
  obtain ⟨i, e, he, hfault⟩ :=
    exists_of_exampleSection_eq_error (exampleSection_of_fieldSection hsection)
  obtain ⟨index, hindex⟩ := List.mem_iff_getElem?.mp he
  exact ⟨name, index, e, i, ⟨node, hnode, hindex⟩, hfault⟩

end Prompts

/-- For the tree of a document that can be shown, a prompt is composed, whatever the settings, the
mode and the instructions, unless the output of an example is a text that starts like a list or an
object and writes an integer with too many digits; nothing else is the fault. In a prompt that is
composed, an output that is not decoded stands under the name of its field as the text it is. -/
theorem compose_outcome {d : Value} {t : Wire.Tree} (hd : d.isDocument = true)
    (hshown : d.isShowable = true) (ht : Wire.Tree.ofValue d = .ok t) (settings : Settings)
    (mode : Option PromptMode) (instructions : Option String) :
    ((∃ p, (compose settings (mode.getD settings.promptMode) instructions t).result = .ok p) ↔
      ∀ s count, t.HasOutput s → ¬ IsOverlong s count) ∧
    (∀ fault,
      (compose settings (mode.getD settings.promptMode) instructions t).result = .error fault →
        ∃ s count, t.HasOutput s ∧ IsOverlong s count ∧ fault = .digits (.digits count)) ∧
    ∀ p, (compose settings (mode.getD settings.promptMode) instructions t).result = .ok p →
      ∀ name index e s, t.HasExample name index e → e.lookup "output" = some (.string s) →
        IsUndecodable s → ∃ before after, p = "\n".intercalate
          (before ++ inputLine (1 + index) e :: underName name (.string s) ++ after) := by
  have hview :=
    Wire.Tree.obstacle_embeddedView hd hshown ht settings (mode.getD settings.promptMode)
  generalize mode.getD settings.promptMode = mode at hview ⊢
  have hfault : ∀ fault, (compose settings mode instructions t).result = .error fault →
      ∃ s count, t.HasOutput s ∧ IsOverlong s count ∧ fault = .digits (.digits count) := by
    intro fault h
    obtain ⟨name, index, e, i, he, hlines⟩ := exists_of_compose_eq_error hview h
    have hshowable := Wire.Tree.isShowable_of_hasExample hd hshown ht he
    obtain ⟨s, count, hs, hlong, rfl⟩ := (exampleLines_eq_error_iff hshowable).mp hlines
    exact ⟨s, count, ⟨name, index, e, he, hs⟩, hlong, rfl⟩
  refine ⟨⟨?_, ?_⟩, hfault, ?_⟩
  · rintro ⟨p, hp⟩ s count ⟨name, index, e, he, hs⟩ hlong
    have hshowable := Wire.Tree.isShowable_of_hasExample hd hshown ht he
    exact compose_ne_ok he hshowable hs hlong p hp
  · intro hnone
    cases h : (compose settings mode instructions t).result with
    | ok p => exact ⟨p, rfl⟩
    | error fault =>
      obtain ⟨s, count, hs, hlong, -⟩ := hfault fault h
      exact absurd hlong (hnone s count hs)
  · intro p hp name index e s he hs hundecodable
    have hshowable := Wire.Tree.isShowable_of_hasExample hd hshown ht he
    obtain ⟨shown, before, after, hok, rfl⟩ := exists_lines_of_compose he hp
    refine ⟨before, after, ?_⟩
    rw [exampleLines_of_isUndecodable hshowable hs hundecodable hok]

/-! ## An output with too many digits -/

/-- A document with one field, and one example for it. -/
def exampleForm (output : String) : Value :=
  .record [("type", .string "object"), ("properties", .record [
    ("total", .record [("type", .string "string"), ("examples", .list [
      .record [("input", .string "In all: 12"), ("output", .string output)]])])])]

/-- The tree of such a document. -/
def exampleTree (output : String) : Wire.Tree :=
  ⟨none, {}, [("total", .primitive { examples := some [[("input", .string "In all: 12"),
    ("output", .string output)]] } .string {})], [], none⟩

theorem ofValue_exampleForm (output : String) :
    Wire.Tree.ofValue (exampleForm output) = .ok (exampleTree output) := rfl

theorem isDocument_exampleForm (output : String) : (exampleForm output).isDocument = true := by
  rfl

theorem isShowable_exampleForm (output : String) : (exampleForm output).isShowable = true := rfl

theorem exampleTree_hasExample (output : String) : (exampleTree output).HasExample "total" 0
    [("input", .string "In all: 12"), ("output", .string output)] :=
  ⟨_, List.mem_singleton_self _, rfl⟩

theorem eq_of_exampleTree_hasOutput {output s : String} (h : (exampleTree output).HasOutput s) :
    s = output := by
  obtain ⟨name, index, e, ⟨node, hnode, hindex⟩, hs⟩ := h
  obtain ⟨rfl, rfl⟩ := Prod.mk.inj (List.mem_singleton.mp hnode)
  have he := List.mem_singleton.mp (List.mem_of_getElem? hindex)
  rw [he] at hs
  cases hs
  rfl

/-- A prompt is composed for an output that is no JSON, and shows it. -/
theorem compose_outcome_unfinished : (exampleForm "[12").isDocument = true ∧
    (exampleForm "[12").isShowable = true ∧
    Wire.Tree.ofValue (exampleForm "[12") = .ok (exampleTree "[12") ∧
    ∃ p before after, (compose .standard .outline none (exampleTree "[12")).result = .ok p ∧
      p = "\n".intercalate (before ++ ["1. Input: \"In all: 12\"", "Output:",
        (Value.record [("total", .string "[12")]).indentedJson] ++ after) := by
  have hd := isDocument_exampleForm "[12"
  have hshown := isShowable_exampleForm "[12"
  have ht := ofValue_exampleForm "[12"
  have hread : Json.read (trim isBlank "[12") = .error (.invalid .comma 1 4 3) := by rfl
  obtain ⟨hiff, -, hexamples⟩ := compose_outcome hd hshown ht .standard none none
  have hundecodable : IsUndecodable "[12" := by
    refine ⟨.inr rfl, fun v hv => ?_⟩
    rw [hread] at hv
    cases hv
  obtain ⟨p, hp⟩ := hiff.mpr fun s count hs hlong => by
    rw [eq_of_exampleTree_hasOutput hs] at hlong
    have heq := hlong.read_eq
    rw [hread] at heq
    cases heq
  obtain ⟨before, after, hshows⟩ :=
    hexamples p hp _ _ _ _ (exampleTree_hasExample "[12") rfl hundecodable
  exact ⟨hd, hshown, ht, p, before, after, hp, hshows⟩

/-- A text that lists a number. -/
def listing (n : Nat) : String := String.ofList ('[' :: (Nat.toDigits 10 n ++ [']']))

theorem trim_listing (n : Nat) : trim isBlank (listing n) = listing n := by
  have hopening : isBlank '[' = false := by decide
  have hclosing : isBlank ']' = false := by decide
  simp [trim, trimChars, listing, hopening, hclosing]

theorem isOverlong_listing {n : Nat} (h : digitLimit < (Nat.toDigits 10 n).length) :
    IsOverlong (listing n) (Nat.toDigits 10 n).length := by
  have htext : (listing n).toList = '[' :: (Nat.toDigits 10 n ++ [']']) := String.toList_ofList
  constructor
  · rw [Text.StartsStructure, trim_listing, htext]
    exact .inr rfl
  · rw [trim_listing, Json.read, htext, Json.readAll_listing h]
    rfl

/-- No prompt is composed for an output that lists a number with one digit more than are read,
though the output is a text like any other. -/
theorem compose_of_listing : (exampleForm (listing (10 ^ digitLimit))).isDocument = true ∧
    (exampleForm (listing (10 ^ digitLimit))).isShowable = true ∧
    Wire.Tree.ofValue (exampleForm (listing (10 ^ digitLimit))) =
      .ok (exampleTree (listing (10 ^ digitLimit))) ∧
    ∀ settings mode instructions p, (compose settings mode instructions
      (exampleTree (listing (10 ^ digitLimit)))).result ≠ .ok p := by
  have hlength : digitLimit < (Nat.toDigits 10 (10 ^ digitLimit)).length := by
    rw [← Nat.not_le, Nat.length_toDigits_le_iff (by decide) (by decide)]
    exact Nat.lt_irrefl _
  have hlong := isOverlong_listing hlength
  generalize listing (10 ^ digitLimit) = output at hlong ⊢
  have hd := isDocument_exampleForm output
  have hshown := isShowable_exampleForm output
  have ht := ofValue_exampleForm output
  have he := exampleTree_hasExample output
  refine ⟨hd, hshown, ht, fun settings mode instructions p => ?_⟩
  exact compose_ne_ok he (Wire.Tree.isShowable_of_hasExample hd hshown ht he) rfl hlong p

end ExtractionSchema
