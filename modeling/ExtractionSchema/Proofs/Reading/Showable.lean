import ExtractionSchema.Proofs.Contract.Showable
import ExtractionSchema.Proofs.Reading.Items
import Mathlib.Data.List.TakeWhile

/-!
# Numbers that were read can be shown

An integer that is read from a value has few enough digits to be shown, if the value can be shown:
a text that writes more digits is refused, and a floating-point number or a truth value gives a
small integer.

* `Reading.showable_of_integer` and `Reading.showable_of_number` say this of both readers.
-/

namespace ExtractionSchema

theorem hasTooManyDigits_of_lt_two_pow {i : Int} (h : i.natAbs < 2 ^ 64) :
    hasTooManyDigits i = false := by
  have hlog : i.natAbs.log2 ≤ 13000 := by
    by_cases hzero : i.natAbs = 0
    · simp [hzero]
    · have hlt := (Nat.log2_lt hzero).mpr h
      omega
  unfold hasTooManyDigits
  rw [Bool.and_eq_false_iff]
  exact .inl (decide_eq_false (by omega))

/-! ## Digits -/

theorem digitsValue_lt {digits : List Char} (h : ∀ c ∈ digits, isDigit c = true) :
    digitsValue digits < 10 ^ digits.length := by
  -- the digits that were read so far stand before the bound
  have hfold : ∀ (n : Nat), digits.foldl (fun n c => 10 * n + (c.toNat - 48)) n <
      (n + 1) * 10 ^ digits.length := by
    induction digits with
    | nil => simp
    | cons c digits ih =>
      intro n
      have hc : c.toNat ≤ 57 := by
        have hdigit := h c List.mem_cons_self
        simp only [isDigit, Bool.and_eq_true, decide_eq_true_eq] at hdigit
        exact hdigit.2
      have hrest := ih (fun d hd => h d (List.mem_cons_of_mem _ hd)) (10 * n + (c.toNat - 48))
      have hstep : (10 * n + (c.toNat - 48) + 1) * 10 ^ digits.length ≤
          (n + 1) * 10 ^ (digits.length + 1) := by
        rw [Nat.pow_succ, Nat.mul_comm _ 10, ← Nat.mul_assoc]
        exact Nat.mul_le_mul_right _ (by omega)
      rw [List.foldl_cons, List.length_cons]
      exact Nat.lt_of_lt_of_le hrest hstep
  simpa [digitsValue] using hfold 0

theorem pow_ten_le {m n : Nat} (h : m ≤ n) : 10 ^ m ≤ Nat.pow 10 n :=
  Nat.pow_le_pow_right (by decide) h

namespace Reading

theorem natAbs_signed (negative : Bool) (n : Nat) :
    (if negative then -(n : Int) else n).natAbs = n := by
  cases negative <;> simp

theorem showable_of_plainDigits {negative : Bool} {digits : List Char} {i : Int}
    (h : plainDigits negative digits = .value i) : hasTooManyDigits i = false := by
  unfold plainDigits at h
  dsimp only at h
  split at h
  · cases h
    rfl
  · rename_i c rest _
    split at h
    · cases h
    by_cases hlong : digitLimit <
        ((c :: rest).takeWhile isDigit).length + (if negative then 1 else 0)
    · rw [if_pos hlong] at h
      cases h
    rw [if_neg hlong] at h
    split at h
    · cases h
    · obtain rfl := IntText.value.inj h
      refine hasTooManyDigits_eq_false ?_
      rw [natAbs_signed]
      refine Nat.lt_of_lt_of_le (digitsValue_lt fun d hd => List.mem_takeWhile_imp hd) ?_
      exact pow_ten_le (by omega)
  · cases h

theorem showable_of_plainInt {cs : List Char} {i : Int} (h : plainInt cs = .value i) :
    hasTooManyDigits i = false := by
  unfold plainInt at h
  split at h <;> exact showable_of_plainDigits h

theorem showable_of_intOfText {s : String} {i : Int} (h : intOfText s = .value i) :
    hasTooManyDigits i = false := by
  unfold intOfText at h
  split at h
  · split at h
    · rename_i heq
      cases h
      obtain ⟨cs, -, hcs⟩ := Option.map_eq_some_iff.mp heq
      exact showable_of_plainInt hcs
    · cases h
  · exact showable_of_plainInt h

theorem showable_of_intOfFloating {x : Floating} {i : Int} (h : intOfFloating x = .ok i) :
    hasTooManyDigits i = false := by
  unfold intOfFloating at h
  split at h
  · cases h
  · cases h
  · split at h
    · cases h
    · split at h
      · rename_i hlt
        cases h
        refine hasTooManyDigits_of_lt_two_pow ?_
        rw [Nat.shiftLeft_eq] at hlt
        omega
      · cases h

/-- An integer that is read from a value that can be shown can be shown. -/
theorem showable_of_integer {v : Value} {i : Int} (hv : v.isShowable = true)
    (h : integer v = .ok i) : hasTooManyDigits i = false := by
  unfold integer at h
  split at h
  · cases h
    simpa [Value.isShowable, Number.isShowable] using hv
  · rename_i b
    cases h
    cases b <;> exact hasTooManyDigits_of_lt_two_pow (by decide)
  · split at h
    · rename_i heq
      cases h
      exact showable_of_intOfFloating heq
    · simp [Checked.fail] at h
  · split at h
    · rename_i heq
      cases h
      obtain ⟨s, hs⟩ : ∃ s, intOfText s = .value i := by
        unfold saidByText at heq
        split at heq
        · rename_i s _ _ _
          exact ⟨s, by simpa using heq⟩
        · have hbind := Option.some.inj heq
          obtain ⟨s, -, hs⟩ := Option.bind_eq_some_iff.mp hbind
          exact ⟨s, by simpa using hs⟩
        · cases heq
      exact showable_of_intOfText hs
    · simp [Checked.fail] at h
    · simp [Checked.fail] at h
    · simp [Checked.fail] at h

/-- A number that is read from a value that can be shown can be shown. -/
theorem showable_of_number {v : Value} {n : Number} (hv : v.isShowable = true)
    (h : number v = .ok n) : n.isShowable = true := by
  unfold number at h
  split at h
  · cases h
    simpa [Value.isShowable] using hv
  · split at h
    · rename_i heq
      cases h
      simpa [Number.isShowable] using showable_of_integer hv heq
    · simp only at h
      split at h
      · cases h
        rfl
      · cases h

end Reading

end ExtractionSchema
