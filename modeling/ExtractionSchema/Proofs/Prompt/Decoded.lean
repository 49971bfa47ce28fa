import ExtractionSchema.Proofs.Prompt.Completion
import ExtractionSchema.Proofs.Value.Json.Plain
import ExtractionSchema.Proofs.Value.Json.Size
import ExtractionSchema.Proofs.View.Separation

/-!
# Structures and the texts that write them

The output of an example may be a list or an object, or a text that writes one, with blanks around
it. A prompt shows the latter as what it writes, so it does not matter which of the two a tree
holds, for any number of examples at any depth.

* `Wire.Node.Restated` relates nodes of which some outputs are texts that write those of the other.
* `shownOutput_of_isTextOf`: the text of a structure is shown as the structure.
* `compose_restated`: trees that are related so have the same prompt, with the same truncations.
-/

namespace ExtractionSchema

open Text (isBlank trim trimChars)

/-! ## Texts between blanks -/

namespace Text

/-- Of a text that starts and ends with other characters, trimming takes what stands around it. -/
theorem trimChars_append {p : Char → Bool} {before after inside : List Char} {first last : Char}
    (hbefore : ∀ c ∈ before, p c = true) (hafter : ∀ c ∈ after, p c = true)
    (hfirst : p first = false) (hlast : p last = false) :
    trimChars p (before ++ (first :: (inside ++ [last])) ++ after) =
      first :: (inside ++ [last]) := by
  have hreverse : ∀ c ∈ after.reverse, p c = true := fun c hc => hafter c (List.mem_reverse.mp hc)
  rw [trimChars, List.append_assoc, List.dropWhile_append_of_pos hbefore, List.cons_append,
    List.dropWhile_cons, if_neg (by simp [hfirst]), ← List.cons_append, List.reverse_append,
    List.dropWhile_append_of_pos hreverse]
  simp [hlast]

end Text

/-! ## Texts of structures -/

namespace Value

theorem exists_writeItems (level : Option Nat) (vs : List Value) :
    ∃ inside, writeItems level vs [] = inside ++ [']'] := by
  induction vs with
  | nil => exact ⟨_, rfl⟩
  | cons v vs ih =>
    obtain ⟨inside, hinside⟩ := ih
    rw [writeItems, write_append, hinside, ← List.append_assoc, ← List.append_assoc]
    exact ⟨_, rfl⟩

theorem exists_writeEntries (level : Option Nat) (es : Entries) :
    ∃ inside, writeEntries level es [] = inside ++ ['\x7d'] := by
  induction es with
  | nil => exact ⟨_, rfl⟩
  | cons e es ih =>
    obtain ⟨k, v⟩ := e
    obtain ⟨inside, hinside⟩ := ih
    rw [writeEntries, write_append, hinside, writeString_append]
    refine ⟨(layout level).between ++ (writeString (keyName k) [] ++
      ':' :: ' ' :: (write (inner level) v [] ++ inside)), ?_⟩
    simp

/-- A list or an object stands between brackets or braces. -/
theorem exists_write_structure {v : Value} (h : Wire.IsList v ∨ Wire.IsMapping v)
    (level : Option Nat) : ∃ first inside last, write level v [] = first :: (inside ++ [last]) ∧
      (first = '\x7b' ∨ first = '[') ∧ isBlank first = false ∧ isBlank last = false := by
  have hbrackets : isBlank '[' = false ∧ isBlank ']' = false := by decide
  have hbraces : isBlank '\x7b' = false ∧ isBlank '\x7d' = false := by decide
  rcases h with ⟨vs, rfl⟩ | ⟨es, rfl⟩
  · cases vs with
    | nil => exact ⟨'[', [], ']', rfl, .inr rfl, hbrackets⟩
    | cons v vs =>
      obtain ⟨inside, hinside⟩ := exists_writeItems level vs
      rw [write, write_append, hinside, ← List.append_assoc, ← List.append_assoc]
      exact ⟨'[', _, ']', rfl, .inr rfl, hbrackets⟩
  · cases es with
    | nil => exact ⟨'\x7b', [], '\x7d', rfl, .inl rfl, hbraces⟩
    | cons e es =>
      obtain ⟨k, v⟩ := e
      obtain ⟨inside, hinside⟩ := exists_writeEntries level es
      rw [write, write_append, hinside, writeString_append]
      refine ⟨'\x7b', (layout level).opening ++ (writeString (keyName k) [] ++
        ':' :: ' ' :: (write (inner level) v [] ++ inside)), '\x7d', ?_, .inl rfl, hbraces⟩
      simp

end Value

/-- The text that writes a list or an object on one line, with blanks around it. -/
inductive IsTextOf (v : Value) : String → Prop
  | intro {before after : String} (hplain : v.IsPlain)
      (hstructure : Wire.IsList v ∨ Wire.IsMapping v)
      (hbefore : ∀ c ∈ before.toList, isBlank c = true)
      (hafter : ∀ c ∈ after.toList, isBlank c = true) :
      IsTextOf v (before ++ v.json ++ after)

theorem IsTextOf.trim_eq {v : Value} {s : String} (h : IsTextOf v s) :
    trim isBlank s = v.json ∧ Text.StartsStructure s := by
  cases h with
  | @intro before after _ hstructure hbefore hafter =>
    obtain ⟨first, inside, last, hwrite, hfirst, hopening, hclosing⟩ :=
      Value.exists_write_structure hstructure none
    have htrim : trim isBlank (before ++ v.json ++ after) = v.json := by
      rw [trim, String.toList_append, String.toList_append, Value.toList_json, hwrite,
        Text.trimChars_append hbefore hafter hopening hclosing, Value.json, hwrite]
    refine ⟨htrim, ?_⟩
    rw [Text.StartsStructure, htrim, Value.toList_json, hwrite]
    simpa using hfirst

/-- The text of a structure is shown as the structure is. -/
theorem shownOutput_of_isTextOf {v : Value} {s : String} (h : IsTextOf v s) :
    shownOutput (.string s) = shownOutput v := by
  obtain ⟨htrim, hstarts⟩ := h.trim_eq
  rw [shownOutput_of_starts hstarts, htrim]
  cases h with
  | intro hplain hstructure _ _ =>
    rw [hplain.isFloatFree.read_json hplain.obstacle_eq]
    rcases hstructure with ⟨vs, rfl⟩ | ⟨es, rfl⟩ <;> rfl

/-! ## Trees of which outputs are restated -/

namespace Wire

/-- An entry of an example stays, or it is the output and becomes a text that writes it. -/
inductive EntryRestated : String × Value → String × Value → Prop
  | same (entry : String × Value) : EntryRestated entry entry
  | output {v : Value} {s : String} (h : IsTextOf v s) :
      EntryRestated ("output", v) ("output", .string s)

/-- Presentations that differ in outputs of examples only, some of which are restated. -/
structure Presentation.Restated (about about' : Presentation) : Prop where
  examples : Option.Rel (List.Forall₂ (List.Forall₂ EntryRestated)) about.examples about'.examples
  rest : about' = { about with examples := about'.examples }

mutual

/-- Nodes of which some outputs, at any depth, are restated. What a node of an unknown type keeps of
its document may differ. -/
inductive Node.Restated : Node → Node → Prop
  | primitive {about about' : Presentation} {kind : Primitive} {limits : Bounds}
      (habout : about.Restated about') :
      Node.Restated (.primitive about kind limits) (.primitive about' kind limits)
  | array {about about' : Presentation} {items items' : Node} (habout : about.Restated about')
      (hitems : Node.Restated items items') :
      Node.Restated (.array about items) (.array about' items')
  | object {about about' : Presentation} {kids kids' : List (String × Node)}
      {required : List String} {more : Option Bool} (habout : about.Restated about')
      (hkids : KidsRestated kids kids') :
      Node.Restated (.object about kids required more) (.object about' kids' required more)
  | unknown {about about' : Presentation} {type : String} {raw raw' : List (String × Value)}
      (habout : about.Restated about') :
      Node.Restated (.unknown about type raw) (.unknown about' type raw')

/-- Children under the same names, one by one, of which some outputs are restated. -/
inductive KidsRestated : List (String × Node) → List (String × Node) → Prop
  | nil : KidsRestated [] []
  | cons {name : String} {kid kid' : Node} {kids kids' : List (String × Node)}
      (hfirst : Node.Restated kid kid') (hrest : KidsRestated kids kids') :
      KidsRestated ((name, kid) :: kids) ((name, kid') :: kids')

end

theorem Presentation.Restated.agreeApart {about about' : Presentation}
    (h : about.Restated about') : about.AgreeApart ["examples"] about' where
  title _ := by rw [h.rest]
  description _ := by rw [h.rest]
  importance _ := by rw [h.rest]
  instructions _ := by rw [h.rest]
  displayName _ := by rw [h.rest]
  examples hkey := absurd (List.mem_singleton_self _) hkey
  enum _ := by rw [h.rest]
  order _ := by rw [h.rest]

theorem Bounds.AgreeApart.refl (keys : List String) (limits : Bounds) :
    limits.AgreeApart keys limits :=
  ⟨fun _ => rfl, fun _ => rfl, fun _ => rfl, fun _ => rfl, fun _ => rfl⟩

mutual

/-- Restated nodes agree apart from the examples. -/
theorem Node.Restated.agreeApart : {node node' : Node} → node.Restated node' →
    node.AgreeApart ["examples"] node'
  | _, _, .primitive habout => .primitive habout.agreeApart (.refl _ _)
  | _, _, .array habout hitems => .array habout.agreeApart hitems.agreeApart
  | _, _, .object habout hkids => .object habout.agreeApart hkids.agreeApart fun _ => rfl
  | _, _, .unknown habout => .unknown habout.agreeApart

theorem KidsRestated.agreeApart : {kids kids' : Properties} → KidsRestated kids kids' →
    KidsAgreeApart ["examples"] kids kids'
  | _, _, .nil => .nil
  | _, _, .cons hfirst hrest => .cons hfirst.agreeApart hrest.agreeApart

end

theorem KidsRestated.forall₂ {kids kids' : Properties} (h : KidsRestated kids kids') :
    List.Forall₂ (fun kid kid' => kid.1 = kid'.1 ∧ kid.2.Restated kid'.2) kids kids' := by
  induction kids generalizing kids' with
  | nil =>
    cases h
    exact .nil
  | cons kid kids ih =>
    cases h with
    | cons hfirst hrest => exact .cons ⟨rfl, hfirst⟩ (ih hrest)

theorem Node.Restated.about {node node' : Node} (h : node.Restated node') :
    node.about.Restated node'.about := by
  cases h <;> assumption

end Wire

open Wire

/-! ## Sections of trees that agree -/

section Agreeing

variable {keys : List String} {node node' : Node}

/-- The keys that the section of a field looks at beside its examples. -/
def sectionKeys : List String :=
  ["title", "description", "importance", "extractionInstructions", "displayName", "order", "format"]

theorem Wire.KidsAgreeApart.forall₂ {kids kids' : Properties} (h : KidsAgreeApart keys kids kids') :
    List.Forall₂ (fun kid kid' => kid.1 = kid'.1 ∧ kid.2.AgreeApart keys kid'.2) kids kids' := by
  induction kids generalizing kids' with
  | nil =>
    cases h
    exact .nil
  | cons kid kids ih =>
    cases h with
    | cons hfirst hrest => exact .cons ⟨rfl, hfirst⟩ (ih hrest)

namespace Wire.Node.AgreeApart

theorem about (h : node.AgreeApart keys node') : node.about.AgreeApart keys node'.about := by
  cases h <;> assumption

theorem type_eq (h : node.AgreeApart keys node') : node.type = node'.type := by
  cases h <;> rfl

theorem isDate_eq (hkey : "format" ∉ keys) (h : node.AgreeApart keys node') :
    node.isDate = node'.isDate := by
  cases h with
  | @primitive _ _ kind _ _ _ hlimits =>
    cases kind with
    | string => rw [isDate, isDate, hlimits.format hkey]
    | number | integer | boolean => rfl
  | array | object | unknown => rfl

/-- Lists of objects agree with lists of objects, and so do the children of their elements. -/
theorem elementProperties? (h : node.AgreeApart keys node') :
    Option.Rel (KidsAgreeApart keys) node.elementProperties? node'.elementProperties? := by
  cases h with
  | array _ hitems =>
    cases hitems with
    | object _ hkids => exact .some hkids
    | primitive | array | unknown => exact .none
  | primitive | object | unknown => exact .none

theorem headingLines_eq (hkeys : ∀ key ∈ sectionKeys, key ∉ keys) (h : node.AgreeApart keys node')
    (name : String) : headingLines name node = headingLines name node' := by
  apply headingLines_congr h.elementProperties?
  · rw [Presentation.heading, Presentation.heading, h.about.displayName (hkeys _ (by decide)),
      h.about.title (hkeys _ (by decide))]
  · exact h.about.importance (hkeys _ (by decide))

theorem structureLines_eq (hkeys : ∀ key ∈ sectionKeys, key ∉ keys)
    (h : node.AgreeApart keys node') : structureLines node = structureLines node' := by
  apply structureLines_congr h.elementProperties?
  intro kids kids' hkids
  have hordered := forall₂_orderedProperties hkids.forall₂ fun kid kid' hkid =>
    hkid.2.about.order (hkeys _ (by decide))
  refine hordered.imp ?_
  rintro kid kid' ⟨hname, hagree⟩
  rw [structureLine, structureLine, hname, hagree.isDate_eq (hkeys _ (by decide)),
    hagree.type_eq, hagree.about.description (hkeys _ (by decide))]

end Wire.Node.AgreeApart

end Agreeing

/-! ## Prompts -/

section Restated

variable {node node' : Node}

theorem lookup_of_forall₂_entryRestated {e e' : ExampleEntries}
    (h : List.Forall₂ EntryRestated e e') :
    e.lookup "input" = e'.lookup "input" ∧
      shownOutput ((e.lookup "output").getD .null) =
        shownOutput ((e'.lookup "output").getD .null) := by
  induction h with
  | nil => exact ⟨rfl, rfl⟩
  | @cons entry entry' e e' hentry hrest ih =>
    cases hentry with
    | same =>
      obtain ⟨key, v⟩ := entry
      constructor
      · simp only [List.lookup_cons, ih.1]
      · rw [List.lookup_cons, List.lookup_cons]
        cases "output" == key with
        | true => rfl
        | false => exact ih.2
    | output htext =>
      refine ⟨?_, (shownOutput_of_isTextOf htext).symm⟩
      simpa [List.lookup_cons] using ih.1

/-- An example has the same lines as before. -/
theorem exampleLines_restated {e e' : ExampleEntries} (h : List.Forall₂ EntryRestated e e')
    (name : String) (index : Nat) : exampleLines name index e = exampleLines name index e' := by
  obtain ⟨hinput, houtput⟩ := lookup_of_forall₂_entryRestated h
  rw [exampleLines, exampleLines, hinput, houtput]

theorem examplesLines_restated {es es' : List ExampleEntries}
    (h : List.Forall₂ (List.Forall₂ EntryRestated) es es') (name : String) (index : Nat) :
    examplesLines name index es = examplesLines name index es' := by
  induction h generalizing index with
  | nil => rfl
  | cons hfirst hrest ih =>
    rw [examplesLines, examplesLines, exampleLines_restated hfirst, ih]

theorem exampleSection_restated (h : node.Restated node') (name : String) :
    exampleSection name node = exampleSection name node' := by
  have hexamples := h.about.examples
  unfold exampleSection
  generalize node.about.examples = stated, node'.about.examples = stated' at hexamples ⊢
  cases hexamples with
  | none => rfl
  | @some es es' hes =>
    cases hes with
    | nil => rfl
    | cons hfirst hrest =>
      dsimp only
      rw [examplesLines_restated (.cons hfirst hrest)]

/-- A field has the same section as before. -/
theorem fieldSection_restated (h : node.Restated node') (settings : Settings) (name : String) :
    fieldSection settings name node = fieldSection settings name node' := by
  have hagree := h.agreeApart
  have hkeys : ∀ key ∈ sectionKeys, key ∉ ["examples"] := by decide
  have hinstructions : instructionLines settings name node =
      instructionLines settings name node' := by
    rw [instructionLines, instructionLines, hagree.about.instructions (by decide)]
  rw [fieldSection, fieldSection, hinstructions, exampleSection_restated h,
    hagree.headingLines_eq hkeys, hagree.structureLines_eq hkeys]

theorem isGuided_restated (h : node.Restated node') :
    node.about.isGuided = node'.about.isGuided := by
  have hexamples : (node.about.examples.getD []).isEmpty =
      (node'.about.examples.getD []).isEmpty := by
    have hrel := h.about.examples
    generalize node.about.examples = stated, node'.about.examples = stated' at hrel ⊢
    cases hrel with
    | none => rfl
    | some hes => cases hes <;> rfl
  rw [Presentation.isGuided, Presentation.isGuided, hexamples,
    h.agreeApart.about.instructions (by decide)]

variable {t t' : Tree}

theorem guidanceLines_restated (h : KidsRestated t.properties t'.properties)
    (settings : Settings) : guidanceLines settings t = guidanceLines settings t' := by
  have hordered := forall₂_orderedProperties h.forall₂ fun kid kid' hkid =>
    hkid.2.agreeApart.about.order (by decide)
  refine guidanceLines_congr (hordered.imp ?_)
  rintro ⟨name, node⟩ ⟨name', node'⟩ ⟨hname, hnode⟩
  obtain rfl : name = name' := hname
  exact ⟨isGuided_restated hnode, fieldSection_restated hnode settings name⟩

theorem embeddedView_restated (h : t.root.Restated t'.root) (settings : Settings)
    (mode : PromptMode) : embeddedView settings mode t = embeddedView settings mode t' := by
  have hview : ∀ guidance, t.root.view guidance "" = t'.root.view guidance "" := by
    intro guidance
    have hkeys : ∀ key ∈ viewedKeys guidance, key ∉ ["examples"] := by
      cases guidance <;> simp [viewedKeys]
    exact h.agreeApart.view_eq hkeys _ ""
  cases mode with
  | guidance => exact hview _
  | outline => rw [embeddedView, embeddedView, Tree.outline, Tree.outline, hview]

end Restated

/-- Trees of which some outputs are lists and objects in the one and texts that write them, with
blanks around them, in the other have the same prompt, or the same fault, with the same
truncations. -/
theorem compose_restated {t t' : Tree} (h : t.root.Restated t'.root) (settings : Settings)
    (mode : PromptMode) (instructions : Option String) :
    compose settings mode instructions t = compose settings mode instructions t' := by
  have hkids : KidsRestated t.properties t'.properties := by
    obtain ⟨dialect, about, properties, required, more⟩ := t
    obtain ⟨dialect', about', properties', required', more'⟩ := t'
    cases h
    assumption
  rw [compose, compose, promptLines, promptLines, embeddedView_restated h,
    guidanceLines_restated hkids]

/-- A list with an object in it, and an empty one. -/
def pricedOutput : Value :=
  .list [.record [("price", .string "5 €\n"), ("net", .bool true)], .record []]

/-- The text of the list, with blanks around it. -/
def pricedText : String :=
  "\u2003\n[\x7b\"price\": \"5 €\\n\", \"net\": true\x7d, \x7b\x7d]\x1c"

/-- A list of objects with an example, and a field of the objects with another. -/
def pricedTree (output : Value) : Tree :=
  let given : ExampleEntries := [("input", .string "5 €"), ("output", output)]
  ⟨none, {}, [("rows", .array { examples := some [given, [("output", .string "[")]] }
    (.object {} [("price", .primitive { examples := some [given], order := some 1 } .string {})]
      [] none))], [], none⟩

theorem isTextOf_pricedText : IsTextOf pricedOutput pricedText := by
  have hplain : pricedOutput.IsPlain := by
    have hinner : (Value.record [("price", .string "5 €\n"), ("net", .bool true)]).IsPlain := by
      rw [Value.isPlain_record (by decide)]
      simp [Value.isPlain_string, Value.isPlain_bool]
    have hempty : (Value.record []).IsPlain := by
      rw [Value.isPlain_record (by decide)]
      simp
    rw [pricedOutput, Value.isPlain_list]
    simp [hinner, hempty]
  have htext : pricedText = "\u2003\n" ++ pricedOutput.json ++ "\x1c" := by
    cbv
  rw [htext]
  exact .intro hplain (.inl ⟨_, rfl⟩) (List.all_eq_true.mp (by decide))
    (List.all_eq_true.mp (by decide))

theorem compose_restated_priced :
    (pricedTree pricedOutput).root.Restated (pricedTree (.string pricedText)).root ∧
      compose .standard .guidance none (pricedTree pricedOutput) =
        compose .standard .guidance none (pricedTree (.string pricedText)) := by
  have hentries : List.Forall₂ EntryRestated [("input", .string "5 €"), ("output", pricedOutput)]
      [("input", .string "5 €"), ("output", .string pricedText)] :=
    .cons (.same _) (.cons (.output isTextOf_pricedText) .nil)
  have hother : List.Forall₂ EntryRestated [("output", .string "[")] [("output", .string "[")] :=
    .cons (.same _) .nil
  have hplain : ({} : Presentation).Restated {} := ⟨.none, rfl⟩
  have hroot : (pricedTree pricedOutput).root.Restated (pricedTree (.string pricedText)).root := by
    refine .object hplain (.cons ?_ .nil)
    refine .array ⟨.some (.cons hentries (.cons hother .nil)), rfl⟩ ?_
    exact .object hplain (.cons (.primitive ⟨.some (.cons hentries .nil), rfl⟩) .nil)
  exact ⟨hroot, compose_restated hroot .standard .guidance none⟩

end ExtractionSchema
