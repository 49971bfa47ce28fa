import ExtractionSchema.Proofs.Contract.Showable
import ExtractionSchema.Proofs.Location
import ExtractionSchema.Proofs.Record.Missing
import ExtractionSchema.Wire.Printer

/-!
# Reports on missing fields

Among the mismatches of a record, those that expect a required field are the reports of what the
record misses, each once. A report finds its name by its message, so it can tell that of another
missing field: one that is required before it, and whose quoted form occurs in its own.

* `Wire.Tree.missing_reported_once` says which reports there are, and when their paths are right.
-/

namespace ExtractionSchema

/-! ## Names that reports tell -/

theorem find?_eq_some_iff_takeWhile {α : Type} [DecidableEq α] {p : α → Bool} {a : α} {l : List α}
    (hmem : a ∈ l) (ha : p a = true) :
    l.find? p = some a ↔ ∀ b ∈ l.takeWhile fun b => b ≠ a, p b = false := by
  induction l with
  | nil => simp at hmem
  | cons b l ih =>
    by_cases hb : b = a
    · subst hb
      simp [ha]
    · have hrest := ih ((List.mem_cons.mp hmem).resolve_left (Ne.symm hb))
      rw [List.takeWhile_cons_of_pos (by simpa using hb), List.forall_mem_cons, List.find?_cons]
      cases hp : p b with
      | true => simp [hb]
      | false => simpa using hrest

namespace MissingField

variable {f : MissingField}

/-- Another missing name is required before the field's own, and its quoted form occurs in that of
the field. -/
def IsShadowed (f : MissingField) : Prop :=
  ∃ name ∈ f.node.required.takeWhile fun name => name ≠ f.name,
    Value.lookup (.name name) f.entries = none ∧
      Text.isWithin (Text.quoted name) (Text.quoted f.name) = true

theorem seems_iff {name : String} : f.seems name = true ↔
    Value.lookup (.name name) f.entries = none ∧
      Text.isWithin (Text.quoted name) (Text.quoted f.name) = true := by
  rw [seems, Bool.and_eq_true, Value.has]
  simp

/-- The path of a report names the field unless an earlier missing name hides it. -/
theorem path_report_iff {root : Wire.Node} {record : Value} (h : f.IsOf root record) :
    f.report.path = formatPath (f.location ++ [.name f.name]) ↔ ¬ f.IsShadowed := by
  have hmem : f.name ∈ f.node.required := List.mem_of_getElem? h.required
  have hown : f.seems f.name = true := seems_iff.mpr ⟨h.absent, Text.isWithin_self _⟩
  have hfound : f.told.isSome = true := List.find?_isSome.mpr ⟨f.name, hmem, hown⟩
  obtain ⟨name, htold⟩ := Option.isSome_iff_exists.mp hfound
  have hreport : f.report.path = formatPath (f.location ++ [.name name]) := by
    simp only [report, htold, Option.map_some, Option.toList_some]
  have hshadowed : f.told = some f.name ↔ ¬ f.IsShadowed := by
    rw [told, find?_eq_some_iff_takeWhile hmem hown]
    unfold IsShadowed
    push Not
    refine forall₂_congr fun other _ => ?_
    rw [← Bool.not_eq_true, seems_iff, not_and]
  rw [← hshadowed, hreport, htold, formatPath_concat, formatPath_concat, extendPath_name_inj,
    Option.some.injEq]

/-- The mismatch that a missing field becomes is its report. -/
theorem mismatch_violation (f : MissingField) : f.violation.mismatch = f.report := by
  have hmessage : f.violation.message = Text.quoted f.name ++ " is a required property" := rfl
  have hnamed : namedMissing f.node.required (.object f.entries) f.violation.message = f.told := by
    unfold namedMissing told
    congr 1
    funext name
    rw [seems]
    have hwithin : Text.isWithin (Text.quoted name) (Text.quoted f.name ++ " is a required property")
        = true ↔ Text.isWithin (Text.quoted name) (Text.quoted f.name) = true :=
      Text.isWithin_quoted_append_iff (by decide) (by decide)
    rw [hmessage, Bool.eq_iff_iff.mpr hwithin]
    simp [Value.get?, Value.has]
  have hmismatch : f.violation.mismatch = ⟨formatPath (f.location ++ ((namedMissing f.node.required
    (.object f.entries) f.violation.message).map Step.name).toList), f.violation.message, "required",
    .null⟩ := rfl
  rw [hmismatch, hnamed, hmessage]
  rfl

end MissingField

theorem keyword_ne_required (keyword text : String) : keyword ++ ": " ++ text ≠ "required" := by
  intro h
  have hcolon : ':' ∈ (keyword ++ ": " ++ text).toList := by simp
  rw [h] at hcolon
  exact absurd hcolon (by decide)

theorem Violation.expected_mismatch_iff (x : Violation) :
    x.mismatch.expected = "required" ↔ x.isMissing = true := by
  obtain ⟨location, breach, actual⟩ := x
  cases breach with
  | missing name required => exact iff_of_true rfl rfl
  | _ => exact iff_of_false (keyword_ne_required _ _) nofun

/-- The mismatches that expect a required field are the violations of missing fields. -/
theorem filter_required_validate_perm (c : Contract) (record : Value) :
    ((validate c record).filter fun m => m.expected = "required").Perm
      (((c.violations record).filter Violation.isMissing).map Violation.mismatch) := by
  have hcomp : (fun m : Mismatch => decide (m.expected = "required")) ∘ Violation.mismatch =
      Violation.isMissing := by
    funext x
    rw [Function.comp_apply, Bool.eq_iff_iff, decide_eq_true_iff]
    exact x.expected_mismatch_iff
  rw [← hcomp, ← List.filter_map]
  exact (List.mergeSort_perm _ _).filter _

namespace Wire

/-- The mismatches that expect a required field are the reports of the missing fields, one for each
required name that an object of the record lacks. The path of a report is that of the missing field
unless the field is shadowed. -/
theorem Tree.missing_reported_once {d record : Value} {t : Tree} (hd : d.isDocument = true)
    (h : Tree.ofValue d = .ok t) :
    ∃ fields : List MissingField, (fields.map MissingField.key).Nodup ∧
      (∀ f, f ∈ fields ↔ f.IsOf t.root record) ∧
      ((validate t.contract record).filter fun m => m.expected = "required").Perm
        (fields.map MissingField.report) ∧
      (∀ f ∈ fields,
        f.report.path = formatPath (f.location ++ [.name f.name]) ↔ ¬ f.IsShadowed) ∧
      (d.isShowable = true → record.isShowable = true → record.hasShortLists = true →
        t.contract.obstacle record = none) := by
  have hmem := t.root.mem_missing_iff record
  refine ⟨t.root.missing record, ?_, hmem, ?_, ?_, ?_⟩
  · exact t.root.nodup_missing (Tree.hasDistinctNames_of_ofValue hd h) record
  · have hperm := filter_required_validate_perm t.contract record
    rw [Tree.contract, t.root.filter_isMissing_violations false record, List.map_map] at hperm
    have hcomp : Violation.mismatch ∘ MissingField.violation = MissingField.report :=
      funext MissingField.mismatch_violation
    rw [hcomp] at hperm
    exact hperm
  · intro f hf
    exact MissingField.path_report_iff ((hmem f).mp hf)
  · intro hshow hrecordShow hlists
    exact Contract.obstacle_eq_none (Tree.showable_contract hshow h) hrecordShow hlists

/-- A line of an order, which requires an article and a quantity. -/
def lineNode : Node :=
  .object {} [("sku", .primitive {} .string {})] ["sku", "qty"] none

/-- A tree of a list of lines. -/
def linesTree : Tree := ⟨none, {}, [("lines", .array {} lineNode)], ["lines"], none⟩

/-- A record of two lines, the second of which states nothing. -/
def linesRecord : Value :=
  .record [("lines", .list [.record [("sku", .string "x"), ("qty", .int 1)], .object []])]

/-- The quantity of the second line. -/
def missingQuantity : MissingField := ⟨[.name "lines", .item 1], [], lineNode, 1, "qty"⟩

theorem Tree.missing_reported_once_lines :
    linesTree.toValue.isDocument = true ∧ Tree.ofValue linesTree.toValue = .ok linesTree ∧
      ∃ m ∈ validate linesTree.contract linesRecord,
        m.expected = "required" ∧ m.path = "lines[1].qty" := by
  have hd : linesTree.toValue.isDocument = true := by decide
  have hread : Tree.ofValue linesTree.toValue = .ok linesTree := rfl
  obtain ⟨fields, -, hmem, hperm, hpaths, -⟩ :=
    @Tree.missing_reported_once _ linesRecord _ hd hread
  have hfield : missingQuantity ∈ fields := by
    have hmatched : linesTree.root.Matches linesRecord [.name "lines", .item 1] lineNode
        (.object []) := .child List.mem_cons_self rfl (.item rfl .here)
    exact (hmem _).mpr ⟨hmatched, rfl, rfl⟩
  have hshadowed : ¬ missingQuantity.IsShadowed := by
    unfold MissingField.IsShadowed
    decide
  have hreport := hperm.mem_iff.mpr (List.mem_map_of_mem hfield)
  refine ⟨hd, hread, missingQuantity.report, (List.mem_filter.mp hreport).1, rfl, ?_⟩
  exact (hpaths _ hfield).mpr hshadowed

/-- A tree that requires a name and another one whose quoted form holds that of the first. -/
def quotingTree : Value :=
  .record [("type", .string "object"), ("required", .strings ["a", "x'a'y"])]

/-- Of two missing names the second is reported at the path of the first. -/
theorem Tree.missing_reported_elsewhere :
    ∃ t, Tree.ofValue quotingTree = .ok t ∧
      (∃ f : MissingField, f.IsOf t.root (.object []) ∧
        formatPath (f.location ++ [.name f.name]) = "x'a'y") ∧
      ∀ m ∈ validate t.contract (.object []), m.path = "a" := by
  refine ⟨_, rfl, ⟨⟨[], [], _, 1, "x'a'y"⟩, ⟨.here, rfl, rfl⟩, rfl⟩, ?_⟩
  intro m hm
  rw [validate, List.mem_mergeSort] at hm
  revert m
  decide

end Wire

end ExtractionSchema
