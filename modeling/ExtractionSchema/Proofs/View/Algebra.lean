import ExtractionSchema.Proofs.View.Shown

/-!
# Views of views

A view is read again, and viewing it once more shows nothing new: the guidance view of a guidance
view is that view, and every other combination of the two views is the outline. What remains of the
instructions is decided by `shownText` alone: each law says how instructions are `ShownTwice`, and
`Node.shown_shown` carries it through the tree.

* `Text.capped_capped`: a text that was capped is not capped any further, even where it is longer
  than the limit by the ellipsis.
* `Tree.views_of_views`: the four laws.
-/

namespace ExtractionSchema

namespace Text

theorem takeLimit_of_nonneg {limit : Int} (hlimit : 0 ≤ limit) (cs : List Char) :
    takeLimit limit cs = cs.take limit.toNat :=
  if_pos hlimit

/-- A text that is capped within a limit stays as it is under that limit. -/
theorem capped_capped {limit : Int} (hlimit : 0 ≤ limit) (ellipsis s : String) :
    capped limit ellipsis (capped limit ellipsis s) = capped limit ellipsis s := by
  by_cases hlong : exceeds limit s = true
  · have hcut : capped limit ellipsis s =
        String.ofList (s.toList.take limit.toNat) ++ ellipsis := by
      rw [capped, if_pos hlong, takeLimit_of_nonneg hlimit]
    have hlength : (s.toList.take limit.toNat).length = limit.toNat := by
      have hlt : limit < s.length := of_decide_eq_true hlong
      rw [List.length_take, String.length_toList]
      omega
    -- The cut keeps the first characters, whether or not the ellipsis makes the text too long.
    have hfirst : takeLimit limit (capped limit ellipsis s).toList =
        s.toList.take limit.toNat := by
      rw [hcut, takeLimit_of_nonneg hlimit, String.toList_append, String.toList_ofList]
      exact List.take_left' hlength
    by_cases hagain : exceeds limit (capped limit ellipsis s) = true
    · rw [capped, if_pos hagain, hfirst, hcut]
    · exact capped_of_not_exceeds (Bool.eq_false_iff.mpr hagain)
  · rw [capped_of_not_exceeds (Bool.eq_false_iff.mpr hlong),
      capped_of_not_exceeds (Bool.eq_false_iff.mpr hlong)]

theorem capped_ne_empty {limit : Int} (hlimit : 1 ≤ limit) (ellipsis : String) {s : String}
    (hs : s ≠ "") : capped limit ellipsis s ≠ "" := by
  by_cases hlong : exceeds limit s = true
  · have hlt : limit < s.length := of_decide_eq_true hlong
    have hpos : 0 < (capped limit ellipsis s).length := by
      rw [capped, if_pos hlong, takeLimit_of_nonneg (by omega), String.length_append,
        String.length_ofList, List.length_take, String.length_toList]
      omega
    intro hempty
    rw [hempty] at hpos
    exact absurd hpos (by decide)
  · rwa [capped_of_not_exceeds (Bool.eq_false_iff.mpr hlong)]

end Text

namespace Wire

/-! ## Instructions shown twice -/

/-- Showing instructions in the first way and what that shows in the second is showing them in the
third. -/
def ShownTwice (first second both : Option Guidance) : Prop :=
  ∀ instructions, shownText second (shownText first instructions) = shownText both instructions

theorem shownTwice_guidance {g : Guidance} (hlimit : 1 ≤ g.limit) :
    ShownTwice (some g) (some g) (some g) := by
  intro instructions
  cases instructions with
  | none => rfl
  | some s =>
    by_cases hempty : s = ""
    · simp [shownText, hempty]
    · have hcapped := Text.capped_ne_empty hlimit g.ellipsis hempty
      have hnonneg : 0 ≤ g.limit := by omega
      simp [shownText, hempty, hcapped, Text.capped_capped hnonneg]

theorem shownTwice_then_none (first : Option Guidance) : ShownTwice first none none :=
  fun _ => rfl

theorem shownTwice_none_then (second : Option Guidance) : ShownTwice none second none := by
  intro instructions
  cases second <;> rfl

/-! ## Nodes shown twice -/

section Composition

variable {first second both : Option Guidance}

theorem Presentation.shown_shown (htext : ShownTwice first second both) (isField : Bool)
    (about : Presentation) :
    (about.shown first isField).shown second isField = about.shown both isField := by
  cases isField
  · rfl
  · simp only [Presentation.shown, if_true, htext about.instructions]

mutual

/-- What is shown of a node is shown as the instructions are. -/
theorem Node.shown_shown (htext : ShownTwice first second both) : (node : Node) →
    (isField : Bool) → (node.shown first isField).shown second isField = node.shown both isField
  | .primitive about kind limits, isField => by
    simp only [Node.shown, about.shown_shown htext]
  | .array about items, isField => by
    have hitems := Node.shown_shown htext items false
    simp only [Node.shown, about.shown_shown htext, hitems]
  | .object about properties required more, isField => by
    have hkids := shownAll_shownAll htext properties
    simp only [Node.shown, about.shown_shown htext, hkids]
  | .unknown about type raw, isField => by
    simp only [Node.shown, about.shown_shown htext]

theorem shownAll_shownAll (htext : ShownTwice first second both) : (kids : Properties) →
    shownAll second (shownAll first kids) = shownAll both kids
  | [] => rfl
  | (name, node) :: rest => by
    have hnode := Node.shown_shown htext node true
    have hrest := shownAll_shownAll htext rest
    simp only [shownAll, hnode, hrest]

end

theorem Tree.shown_shown (htext : ShownTwice first second both) (t : Tree) :
    (t.shown first).root.shown second false = t.root.shown both false := by
  rw [Tree.root_shown]
  exact Node.shown_shown htext t.root false

end Composition

/-! ## The laws -/

/-- Both views are read again. Viewed once more, each view stays what it is under the view that it
comes from, and the other two combinations give the outline. -/
theorem Tree.views_of_views {d : Value} {t : Tree} (h : Tree.ofValue d = .ok t) {g : Guidance}
    (hlimit : 1 ≤ g.limit) :
    ∃ guided outlined : Tree, Tree.ofValue (t.guidance g).1 = .ok guided ∧
      Tree.ofValue t.outline = .ok outlined ∧
      (guided.guidance g).1 = (t.guidance g).1 ∧ outlined.outline = t.outline ∧
      guided.outline = t.outline ∧ (outlined.guidance g).1 = t.outline := by
  refine ⟨t.shown (some g), t.shown none, ?_, ?_, ?_, ?_, ?_, ?_⟩
  · rw [t.guidance_eq g]
    exact Tree.ofValue_viewForm h (some g)
  · rw [t.outline_eq]
    exact Tree.ofValue_viewForm h none
  · rw [Tree.guidance_eq, Tree.shown_shown (shownTwice_guidance hlimit), t.guidance_eq g]
  · rw [Tree.outline_eq, Tree.shown_shown (shownTwice_then_none none), t.outline_eq]
  · rw [Tree.outline_eq, Tree.shown_shown (shownTwice_then_none (some g)), t.outline_eq]
  · rw [Tree.guidance_eq, Tree.shown_shown (shownTwice_none_then (some g)), t.outline_eq]

/-- A document with instructions that are too long for `tightGuidance`, one of them on a field of
the elements of an array. -/
def wordyDocument : Value :=
  .record [("type", .string "object"), ("extractionInstructions", .string "not a field"),
    ("properties", .record [
      ("total", .record [("type", .string "number"),
        ("extractionInstructions", .string "Take the last one.")]),
      ("rows", .record [("type", .string "array"), ("items",
        .record [("type", .string "object"), ("properties", .record [
          ("seal", .record [("type", .string "signature"), ("enum", .list [.null]),
            ("extractionInstructions", .string "Any")])])])])])]

/-- A limit that is shorter than the ellipsis. -/
def tightGuidance : Guidance := ⟨2, " [more]"⟩

theorem Tree.views_of_views_wordy :
    ∃ t guided outlined : Tree, Tree.ofValue wordyDocument = .ok t ∧
      (t.guidance tightGuidance).1 ≠ t.outline ∧
      Tree.ofValue (t.guidance tightGuidance).1 = .ok guided ∧
      Tree.ofValue t.outline = .ok outlined ∧
      (guided.guidance tightGuidance).1 = (t.guidance tightGuidance).1 ∧
      (outlined.guidance tightGuidance).1 = t.outline := by
  have hok : ((Tree.ofValue wordyDocument).toOption.any
      fun t => decide ((t.guidance tightGuidance).1 ≠ t.outline)) = true := by decide +kernel
  cases hread : Tree.ofValue wordyDocument with
  | error _ => simp [hread, Except.toOption] at hok
  | ok t =>
    rw [hread] at hok
    obtain ⟨guided, outlined, hguided, houtlined, hsame, -, -, hless⟩ :=
      Tree.views_of_views hread (show 1 ≤ tightGuidance.limit by decide)
    exact ⟨t, guided, outlined, rfl, of_decide_eq_true hok, hguided, houtlined, hsame, hless⟩

end Wire

end ExtractionSchema
