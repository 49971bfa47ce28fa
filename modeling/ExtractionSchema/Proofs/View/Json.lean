import ExtractionSchema.Proofs.Value.Json.Written
import ExtractionSchema.Proofs.View.Shown
import ExtractionSchema.Proofs.Wire.Literals
import ExtractionSchema.Proofs.Wire.Names

/-!
# Views as JSON

What a view says of its own is names and texts, each under a key of its own; only the allowed values
are taken over as they are. So a property of texts that lists and objects have when their parts do
is one of the view if it is one of the allowed values. Two such properties are to be JSON without
floating-point numbers, and to have a JSON text.

* `Value.IsBuilt` singles these properties out.
* `Tree.built_outline` and `Tree.built_guidance` say this of both views.
* `Tree.isFloatFree_of_ofValue`: the allowed values have no floating-point numbers if the whole
  document has none.
-/

namespace ExtractionSchema

/-- Texts have the property, lists of values that have it, and objects of distinct names whose
values have it. -/
structure Value.IsBuilt (good : Value → Prop) : Prop where
  string : ∀ s, good (.string s)
  list : ∀ vs, (∀ v ∈ vs, good v) → good (.list vs)
  record : ∀ fields, (fields.map Prod.fst).Nodup → (∀ field ∈ fields, good field.2) →
    good (.record fields)

theorem Value.isBuilt_isFloatFree : Value.IsBuilt Value.IsFloatFree where
  string := .string
  list _ := .list
  record _ := .record

theorem Value.isBuilt_unobstructed : Value.IsBuilt fun v => v.obstacle = none where
  string _ := rfl
  list _ := obstacle_list_eq_none.mpr
  record _ _ := obstacle_record_eq_none.mpr

namespace Wire

/-- All allowed values are values of JSON without floating-point numbers. -/
def Presentation.IsFloatFree (about : Presentation) : Prop :=
  ∀ allowed ∈ about.enum, ∀ v ∈ allowed, v.IsFloatFree

/-- All allowed values within the node and its parts are values of JSON without floating-point
numbers. -/
def Node.IsFloatFree (node : Node) : Prop := node.All Presentation.IsFloatFree fun _ => True

/-- All allowed values have the property. -/
def Presentation.Allows (good : Value → Prop) (about : Presentation) : Prop :=
  ∀ allowed ∈ about.enum, ∀ v ∈ allowed, good v

theorem Presentation.Allows.shown {good : Value → Prop} {about : Presentation}
    (h : about.Allows good) (guidance : Option Guidance) (isField : Bool) :
    (about.shown guidance isField).Allows good := by
  cases isField with
  | false => nofun
  | true => exact h

/-! ## Allowed values that were read -/

theorem passes_isFloatFree :
    Passes Value.IsFloatFree Presentation.IsFloatFree fun _ => True where
  parts _ hes := hes.of_mem_entries
  about es about hes h allowed hallowed := by
    obtain ⟨-, -, -, -, -, -, hdetail, -⟩ := presentation_eq_ok_iff.mp h
    rw [hallowed] at hdetail
    obtain ⟨v, hv, hread⟩ := lookup_of_detail hdetail
    have hfree := hes.of_mem_entries _ (Value.mem_of_lookup hv)
    refine Reading.forall_of_list_ok ?_ ?_ ?_ hread
    · rintro ws rfl
      exact hfree.of_mem_list
    · rintro ms rfl
      cases hfree
    · rintro a b rfl
      cases hfree
  limits _ _ _ _ := trivial

/-- The allowed values of a tree that is read from JSON without floating-point numbers have none. -/
theorem Tree.isFloatFree_of_ofValue {d : Value} {t : Tree} (hd : d.IsFloatFree)
    (h : Tree.ofValue d = .ok t) : t.root.IsFloatFree :=
  Tree.all_of_ofValue passes_isFloatFree hd h

/-! ## Fields of a view -/

/-- The keys that a view can have around those of the parts of its node. -/
def viewKeys (keys : List String) : List String :=
  ["type", "title"] ++ ["extractionInstructions"] ++ keys ++ ["enum"]

theorem Presentation.nodup_viewFields (about : Presentation) (type : String)
    {parts : List (String × Value)} (hkeys : (viewKeys (parts.map Prod.fst)).Nodup) :
    ((about.viewFields type parts).map Prod.fst).Nodup := by
  have hhead : List.Sublist ((viewHead type about).map Prod.fst) ["type", "title"] := by
    rw [viewHead, List.map_cons]
    exact (sublist_keys_whenStated _ _ _).cons_cons _
  have hinstructions := sublist_keys_whenStated "extractionInstructions" Value.string
    about.instructions
  have henum := sublist_keys_whenStated "enum" Value.list about.enum
  have hall := ((hhead.append hinstructions).append (List.Sublist.refl (parts.map Prod.fst))).append
    henum
  simp only [Presentation.viewFields, List.map_append]
  exact hall.nodup hkeys

section Built

variable {good : Value → Prop}

theorem built_whenStated {α : Type} (key : String) {write : α → Value} {o : Option α}
    (h : ∀ a ∈ o, good (write a)) : ∀ field ∈ whenStated key write o, good field.2 := by
  cases o with
  | none => simp [whenStated]
  | some a => simpa [whenStated] using h a rfl

theorem built_strings (hgood : Value.IsBuilt good) (texts : List String) :
    good (Value.strings texts) := by
  apply hgood.list
  rw [List.forall_mem_map]
  exact fun s _ => hgood.string s

theorem Presentation.built_viewFields (hgood : Value.IsBuilt good) {about : Presentation}
    (h : about.Allows good) (type : String) {parts : List (String × Value)}
    (hkeys : (viewKeys (parts.map Prod.fst)).Nodup) (hparts : ∀ part ∈ parts, good part.2) :
    good (Value.record (about.viewFields type parts)) := by
  have htitle : ∀ field ∈ whenStated "title" Value.string about.title, good field.2 :=
    built_whenStated _ fun s _ => hgood.string s
  have hinstructions : ∀ field ∈ whenStated "extractionInstructions" Value.string
      about.instructions, good field.2 :=
    built_whenStated _ fun s _ => hgood.string s
  have henum : ∀ field ∈ whenStated "enum" Value.list about.enum, good field.2 :=
    built_whenStated _ fun allowed hallowed => hgood.list _ (h allowed hallowed)
  apply hgood.record _ (about.nodup_viewFields type hkeys)
  intro field hfield
  simp only [Presentation.viewFields, viewHead, viewEnum, List.mem_append, List.mem_cons] at hfield
  rcases hfield with (((rfl | hfield) | hfield) | hfield) | hfield
  · exact hgood.string type
  · exact htitle field hfield
  · exact hinstructions field hfield
  · exact hparts field hfield
  · exact henum field hfield

/-! ## Views -/

mutual

/-- The view of a node has the property if its allowed values have it. -/
theorem Node.built_viewForm (hgood : Value.IsBuilt good) (guidance : Option Guidance) :
    (node : Node) → (isField : Bool) →
      node.All (Presentation.Allows good) (fun _ => True) → node.hasDistinctNames = true →
        good (node.shown guidance isField).viewForm
  | .primitive about kind limits, isField, h, _ => by
    have habout := h.1.shown guidance isField
    rw [Node.shown, Node.viewForm]
    exact Presentation.built_viewFields hgood habout _ (by decide) (by simp)
  | .array about items, isField, h, hnames => by
    have habout := h.1.shown guidance isField
    have hitems := Node.built_viewForm hgood guidance items false h.2 hnames
    have hkeys : (viewKeys ["items"]).Nodup := by decide
    rw [Node.shown, Node.viewForm]
    exact Presentation.built_viewFields hgood habout _ hkeys (by simpa using hitems)
  | .object about properties required more, isField, h, hnames => by
    obtain ⟨hkeys, hkids⟩ := Node.hasDistinctNames_object.mp hnames
    have habout := h.1.shown guidance isField
    have hchildren := built_viewForms hgood guidance properties h.2 hkids
    have hrecord : good (Value.record (viewForms (shownAll guidance properties))) := by
      refine hgood.record _ ?_ hchildren
      rwa [map_fst_viewForms, map_fst_shownAll]
    have hmembers : (viewKeys ["required", "properties"]).Nodup := by decide
    rw [Node.shown, Node.viewForm]
    refine Presentation.built_viewFields hgood habout _ hmembers ?_
    intro part hpart
    simp only [viewMembers, List.mem_cons, List.not_mem_nil, or_false] at hpart
    rcases hpart with rfl | rfl
    · exact built_strings hgood required
    · exact hrecord
  | .unknown about type raw, isField, h, _ => by
    have habout := Presentation.Allows.shown h guidance isField
    rw [Node.shown, Node.viewForm]
    exact Presentation.built_viewFields hgood habout _ (by decide) (by simp)

theorem built_viewForms (hgood : Value.IsBuilt good) (guidance : Option Guidance) :
    (kids : Properties) → AllWithin (Presentation.Allows good) (fun _ => True) kids →
      (∀ kid ∈ kids, kid.2.hasDistinctNames = true) →
        ∀ field ∈ viewForms (shownAll guidance kids), good field.2
  | [], _, _ => by simp [shownAll, viewForms]
  | (name, node) :: rest, h, hnames => by
    rw [List.forall_mem_cons] at hnames
    have hnode := Node.built_viewForm hgood guidance node true h.1 hnames.1
    have hrest := built_viewForms hgood guidance rest h.2 hnames.2
    rw [shownAll, viewForms, List.forall_mem_cons]
    exact ⟨hnode, hrest⟩

end

theorem Tree.built_outline (hgood : Value.IsBuilt good) {t : Tree}
    (h : t.root.All (Presentation.Allows good) fun _ => True)
    (hnames : t.root.hasDistinctNames = true) : good t.outline := by
  rw [Tree.outline_eq]
  exact Node.built_viewForm hgood none t.root false h hnames

theorem Tree.built_guidance (hgood : Value.IsBuilt good) {t : Tree} (guidance : Guidance)
    (h : t.root.All (Presentation.Allows good) fun _ => True)
    (hnames : t.root.hasDistinctNames = true) : good (t.guidance guidance).1 := by
  rw [Tree.guidance_eq]
  exact Node.built_viewForm hgood (some guidance) t.root false h hnames

end Built

end Wire

end ExtractionSchema
