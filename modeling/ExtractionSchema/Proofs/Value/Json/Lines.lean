import ExtractionSchema.Proofs.Value.Json.Written
import Mathlib.Data.List.Chain

/-!
# The lines of JSON text

Written over several lines, a value takes new lines only for its layout: a new line within a text is
written as an escape. A line therefore starts with blanks and a part of the value, and never with a
backtick, whatever the texts within the value hold.

* `Value.IsFloatFree.keepsLines`: the written text never closes a fenced block.
-/

namespace ExtractionSchema.Value

/-- No new line is followed by a backtick. -/
abbrev HasNoFence (cs : List Char) : Prop :=
  List.IsChain (fun c next => c = '\n' → next ≠ '\x60') cs

variable {rest : List Char}

theorem hasNoFence_append {cs : List Char} (hcs : '\n' ∉ cs) (hrest : HasNoFence rest) :
    HasNoFence (cs ++ rest) := by
  induction cs with
  | nil => exact hrest
  | cons c cs ih =>
    rw [List.mem_cons, not_or] at hcs
    exact (ih hcs.2).cons fun _ _ hc => absurd hc.symm hcs.1

theorem hasNoFence_cons {c : Char} (hc : c ≠ '\n') (hrest : HasNoFence rest) :
    HasNoFence (c :: rest) :=
  hasNoFence_append (List.mem_singleton.not.mpr hc.symm) hrest

theorem hasNoFence_newLine (n : Nat) (hhead : rest.head? ≠ some '\x60') (hrest : HasNoFence rest) :
    HasNoFence (newLine n ++ rest) := by
  have hblanks : '\n' ∉ List.replicate (2 * n) ' ' := by
    simp
  refine (hasNoFence_append hblanks hrest).cons fun next hnext _ => ?_
  -- the first character of the line is a blank, if there are any
  cases hcount : 2 * n with
  | zero =>
    rw [hcount, List.replicate_zero, List.nil_append] at hnext
    rintro rfl
    exact hhead hnext
  | succ k =>
    rw [hcount] at hnext
    cases hnext
    decide

theorem newLine_not_mem_jsonChar (c : Char) : '\n' ∉ jsonChar c := by
  have hdigits : ∀ n < 0x20, '\n' ∉ '\\' :: 'u' :: Text.hexDigits 4 n := by decide
  unfold jsonChar
  iterate 7
    split
    · decide
  split
  · rename_i hcontrol
    exact hdigits _ hcontrol
  · rename_i hnewLine _ _ _ _ _
    exact List.mem_singleton.not.mpr (Ne.symm hnewLine)

theorem hasNoFence_writeString (s : String) (hrest : HasNoFence rest) :
    HasNoFence (writeString s rest) := by
  have hcs : '\n' ∉ s.toList.flatMap jsonChar := by
    rw [List.mem_flatMap]
    rintro ⟨c, -, hc⟩
    exact newLine_not_mem_jsonChar c hc
  exact hasNoFence_cons (by decide) (hasNoFence_append hcs (hasNoFence_cons (by decide) hrest))

theorem newLine_not_mem_numberText (i : Int) : '\n' ∉ (numberText (.int i)).toList := by
  rw [toList_numberText_int, List.mem_append, not_or]
  constructor
  · split <;> decide
  · intro hmem
    exact absurd (isDigit_of_mem_toDigits hmem) (by decide)

theorem IsFloatFree.head?_write_ne {v : Value} (h : v.IsFloatFree) (level : Option Nat)
    (rest : List Char) : (write level v rest).head? ≠ some '\x60' := by
  obtain ⟨c, more, hcons, -, -, -, hc⟩ := h.startsValue level rest
  rw [hcons]
  simpa using hc

/-- The value is written over several lines without a fence at the start of one. -/
def KeepsLines (v : Value) : Prop :=
  ∀ (level : Nat) (rest : List Char), HasNoFence rest → HasNoFence (write (some level) v rest)

theorem hasNoFence_writeItems {vs : List Value}
    (hvs : ∀ v ∈ vs, v.IsFloatFree ∧ v.KeepsLines) (level : Nat) (hrest : HasNoFence rest) :
    HasNoFence (writeItems (some level) vs rest) := by
  induction vs with
  | nil => exact hasNoFence_newLine level (by simp) (hasNoFence_cons (by decide) hrest)
  | cons v vs ih =>
    rw [List.forall_mem_cons] at hvs
    obtain ⟨⟨hfree, hlines⟩, hvs⟩ := hvs
    have hv := hlines (level + 1) _ (ih hvs)
    exact hasNoFence_cons (by decide)
      (hasNoFence_newLine (level + 1) (hfree.head?_write_ne _ _) hv)

theorem hasNoFence_entry {v : Value} (hlines : v.KeepsLines) (name : String) (level : Nat)
    (hrest : HasNoFence rest) : HasNoFence (newLine level ++ writeString name
      (':' :: ' ' :: write (some level) v rest)) := by
  have hv := hasNoFence_cons (show ' ' ≠ '\n' by decide) (hlines level rest hrest)
  exact hasNoFence_newLine level (by simp [writeString])
    (hasNoFence_writeString name (hasNoFence_cons (by decide) hv))

theorem hasNoFence_writeEntries {fields : List (String × Value)}
    (hfields : ∀ field ∈ fields, field.2.KeepsLines) (level : Nat) (hrest : HasNoFence rest) :
    HasNoFence (writeEntries (some level) (named fields) rest) := by
  induction fields with
  | nil => exact hasNoFence_newLine level (by simp) (hasNoFence_cons (by decide) hrest)
  | cons field fields ih =>
    rw [List.forall_mem_cons] at hfields
    exact hasNoFence_cons (by decide)
      (hasNoFence_entry hfields.1 field.1 (level + 1) (ih hfields.2))

/-- A text that writes a value over several lines never closes a fenced block. -/
theorem IsFloatFree.keepsLines {v : Value} (h : v.IsFloatFree) : v.KeepsLines := by
  intro level rest hrest
  induction h generalizing level rest with
  | null => exact hasNoFence_append (by decide) hrest
  | bool b => cases b <;> exact hasNoFence_append (by decide) hrest
  | int i => exact hasNoFence_append (newLine_not_mem_numberText i) hrest
  | string s => exact hasNoFence_writeString s hrest
  | @list vs hvs ih =>
    cases vs with
    | nil => exact hasNoFence_cons (by decide) (hasNoFence_cons (by decide) hrest)
    | cons v vs =>
      rw [List.forall_mem_cons] at hvs ih
      have hmore := hasNoFence_writeItems (fun w hw => ⟨hvs.2 w hw, ih.2 w hw⟩) level hrest
      exact hasNoFence_cons (by decide)
        (hasNoFence_newLine (level + 1) (hvs.1.head?_write_ne _ _) (ih.1 (level + 1) _ hmore))
  | @record fields hkeys hfields ih =>
    cases fields with
    | nil => exact hasNoFence_cons (by decide) (hasNoFence_cons (by decide) hrest)
    | cons field fields =>
      rw [List.forall_mem_cons] at ih
      have hmore := hasNoFence_writeEntries ih.2 level hrest
      exact hasNoFence_cons (by decide) (hasNoFence_entry ih.1 field.1 (level + 1) hmore)

end ExtractionSchema.Value
