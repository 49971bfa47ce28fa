import ExtractionSchema.Value.Json.Reader
import Mathlib.Data.List.TakeWhile

/-!
# Integers in JSON text

An integer is written in decimal digits, behind a minus sign if it is negative. Read back, its
digits are a whole part, since the first of them is a zero only if it is the last one too, and with
no more than 4300 digits the reader takes them for the integer that they write.

* `Json.EndsNumber`: what may follow a number, so that no part of it is taken for the number's own.
* `Json.readScalar_int`: a written integer is read back.
-/

namespace ExtractionSchema

/-! ## Digits -/

theorem ne_of_isDigit {c d : Char} (hc : isDigit c = true) (hd : isDigit d = false) : c ≠ d := by
  rintro rfl
  rw [hc] at hd
  cases hd

theorem isDigit_of_mem_toDigits {n : Nat} {c : Char} (h : c ∈ Nat.toDigits 10 n) :
    isDigit c = true :=
  Nat.isDigit_of_mem_toDigits (by decide) (by decide) h

theorem digitsValue_toDigits (n : Nat) : digitsValue (Nat.toDigits 10 n) = n :=
  Nat.ofDigitChars_ten_toDigits

theorem exists_toDigits_eq_cons (n : Nat) :
    ∃ c digits, Nat.toDigits 10 n = c :: digits ∧ isDigit c = true := by
  obtain ⟨c, digits, hcons⟩ := List.exists_cons_of_ne_nil (Nat.toDigits_ne_nil (n := n) (b := 10))
  refine ⟨c, digits, hcons, isDigit_of_mem_toDigits (n := n) ?_⟩
  rw [hcons]
  exact List.mem_cons_self

/-- Only the digits of zero start with a zero. -/
theorem head?_toDigits_ne {n : Nat} (h : 0 < n) : (Nat.toDigits 10 n).head? ≠ some '0' := by
  induction n using Nat.strongRecOn with
  | ind n ih =>
    by_cases hsmall : n < 10
    · rw [Nat.toDigits_of_lt_base hsmall]
      have hall : ∀ m < 10, 0 < m → [m.digitChar].head? ≠ some '0' := by decide
      exact hall n hsmall h
    · have hquotient : 0 < n / 10 := by omega
      have hhead := ih (n / 10) (by omega) hquotient
      rw [Nat.toDigits_of_base_le (by decide) (by omega), List.head?_append]
      cases hfirst : (Nat.toDigits 10 (n / 10)).head? with
      | none => exact absurd (List.head?_eq_none_iff.mp hfirst) Nat.toDigits_ne_nil
      | some c =>
        rw [hfirst] at hhead
        exact hhead

theorem lt_of_log2_le {n k bound : Nat} (hlog : n.log2 ≤ k) (hbound : Nat.pow 2 (k + 1) ≤ bound) :
    n < bound := by
  by_cases hzero : n = 0
  · rw [hzero]
    exact Nat.lt_of_lt_of_le (Nat.two_pow_pos _) hbound
  · have hlt := (Nat.log2_lt hzero).mp (Nat.lt_succ_of_le hlog)
    exact Nat.lt_of_lt_of_le hlt hbound

theorem natAbs_lt_of_hasTooManyDigits {i : Int} (h : hasTooManyDigits i = false) :
    i.natAbs < Nat.pow 10 digitLimit := by
  have hbound : Nat.pow 2 (13000 + 1) ≤ Nat.pow 10 digitLimit := by decide +kernel
  unfold hasTooManyDigits at h
  generalize Nat.pow 10 digitLimit = bound at h hbound ⊢
  rw [Bool.and_eq_false_iff, decide_eq_false_iff_not, decide_eq_false_iff_not, Nat.not_lt] at h
  rcases h with hlog | hlt
  · exact lt_of_log2_le hlog hbound
  · exact Nat.lt_of_not_le hlt

theorem length_toDigits_le {i : Int} (h : hasTooManyDigits i = false) :
    (Nat.toDigits 10 i.natAbs).length ≤ digitLimit := by
  rw [Nat.length_toDigits_le_iff (by decide) (by decide), ← Nat.pow_eq]
  have hlt := natAbs_lt_of_hasTooManyDigits h
  generalize Nat.pow 10 digitLimit = bound at hlt ⊢
  exact hlt

/-- An integer is written with its sign before its digits. -/
theorem Value.toList_numberText_int (i : Int) : (numberText (.int i)).toList =
    (if i < 0 then ['-'] else []) ++ Nat.toDigits 10 i.natAbs := by
  rw [numberText, Int.toString_eq_repr, Int.repr_eq_if]
  by_cases hneg : i < 0
  · have hdigits : (-i).toNat = i.natAbs := by omega
    rw [if_neg (by omega), if_pos hneg, String.toList_append, Nat.repr_eq_ofList_toDigits, hdigits]
    simp
  · have hdigits : i.toNat = i.natAbs := by omega
    rw [if_pos (by omega), if_neg hneg, Nat.repr_eq_ofList_toDigits, hdigits,
      String.toList_ofList]
    rfl

theorem Value.exists_numberText_eq_cons (i : Int) : ∃ c digits,
    (numberText (.int i)).toList = c :: digits ∧ (c = '-' ∨ isDigit c = true) := by
  obtain ⟨c, digits, hcons, hc⟩ := exists_toDigits_eq_cons i.natAbs
  rw [toList_numberText_int, hcons]
  by_cases hneg : i < 0
  · rw [if_pos hneg]
    exact ⟨'-', c :: digits, rfl, .inl rfl⟩
  · rw [if_neg hneg]
    exact ⟨c, digits, rfl, .inr hc⟩

namespace Json

/-! ## Parts of a number -/

/-- What follows a number does not go on with it: it starts with no digit, point or exponent. -/
def EndsNumber (rest : List Char) : Prop :=
  ∀ c ∈ rest.head?, isDigit c = false ∧ c ≠ '.' ∧ c ≠ 'e' ∧ c ≠ 'E'

variable {rest : List Char}

theorem spanDigits_append {digits : List Char} (hdigits : ∀ c ∈ digits, isDigit c = true)
    (hrest : EndsNumber rest) : spanDigits (digits ++ rest) = (digits, rest) := by
  have hnone : rest.takeWhile isDigit = [] ∧ rest.dropWhile isDigit = rest := by
    cases rest with
    | nil => exact ⟨rfl, rfl⟩
    | cons c rest =>
      have hc := (hrest c rfl).1
      simp [hc]
  rw [spanDigits, List.takeWhile_append_of_pos hdigits, List.dropWhile_append_of_pos hdigits,
    hnone.1, hnone.2, List.append_nil]

theorem readFraction_of_ends (hrest : EndsNumber rest) : readFraction rest = none := by
  unfold readFraction
  split
  · exact absurd rfl (hrest '.' rfl).2.1
  · rfl

theorem readExponent_of_ends (hrest : EndsNumber rest) : readExponent rest = none := by
  cases rest with
  | nil => rfl
  | cons c rest =>
    obtain ⟨-, -, hlower, hupper⟩ := hrest c rfl
    rw [readExponent, if_neg (by simp [hlower, hupper])]

/-- The digits of a number are read as its whole part. -/
theorem readWhole_toDigits (n : Nat) (hrest : EndsNumber rest) :
    readWhole (Nat.toDigits 10 n ++ rest) = some (Nat.toDigits 10 n, rest) := by
  rcases Nat.eq_zero_or_pos n with rfl | hpos
  · rfl
  · have hhead := head?_toDigits_ne hpos
    have hall : ∀ c ∈ Nat.toDigits 10 n, isDigit c = true := fun _ => isDigit_of_mem_toDigits
    have hspan := spanDigits_append hall hrest
    cases hdigits : Nat.toDigits 10 n with
    | nil => exact absurd hdigits Nat.toDigits_ne_nil
    | cons c digits =>
      rw [hdigits] at hspan hhead hall
      rw [List.cons_append] at hspan ⊢
      rw [readWhole, if_pos (hall c List.mem_cons_self), hspan]
      rintro rfl
      exact hhead rfl

theorem finishNumber_toDigits {i : Int} (h : hasTooManyDigits i = false) (negative : Bool)
    (hrest : EndsNumber rest) : finishNumber negative (Nat.toDigits 10 i.natAbs) rest =
      .ok (.int (if negative then -(i.natAbs : Int) else i.natAbs), rest) := by
  have hlength : ¬ digitLimit < (Nat.toDigits 10 i.natAbs).length := by
    have hle := length_toDigits_le h
    omega
  rw [finishNumber, readFraction_of_ends hrest]
  dsimp only
  rw [readExponent_of_ends hrest]
  dsimp only
  rw [if_neg hlength, digitsValue_toDigits]

/-! ## Integers -/

/-- A digit starts no word, not even behind a minus sign. -/
theorem findSome?_words_eq_none {c : Char} (hc : isDigit c = true) (negative : Bool)
    (cs : List Char) : (words.findSome? fun (word, v) =>
      (afterWord word ((if negative then ['-'] else []) ++ c :: cs)).map fun rest => (v, rest)) =
        none := by
  have hne : ∀ d : Char, isDigit d = false → d ≠ c := fun d hd => (ne_of_isDigit hc hd).symm
  have hn := hne 'n' rfl
  have ht := hne 't' rfl
  have hf := hne 'f' rfl
  have hN := hne 'N' rfl
  have hI := hne 'I' rfl
  have hminus := hne '-' rfl
  cases negative <;> simp [words, afterWord, hn, ht, hf, hN, hI, hminus]

/-- Digits without a sign are read as the whole part of a number. -/
theorem readNumber_toDigits (n : Nat) (hrest : EndsNumber rest) :
    readNumber (Nat.toDigits 10 n ++ rest) = finishNumber false (Nat.toDigits 10 n) rest := by
  rw [readNumber]
  · rw [readWhole_toDigits _ hrest]
  · intro after hminus
    obtain ⟨c, digits, hcons, hc⟩ := exists_toDigits_eq_cons n
    rw [hcons] at hminus
    cases hminus
    exact absurd hc (by decide)

/-- A written integer is read back, unless what follows goes on with it. -/
theorem readNumber_int {i : Int} (h : hasTooManyDigits i = false) (hrest : EndsNumber rest) :
    readNumber ((Value.numberText (.int i)).toList ++ rest) = .ok (.int i, rest) := by
  rw [Value.toList_numberText_int]
  by_cases hneg : i < 0
  · have habs : -(i.natAbs : Int) = i := by omega
    rw [if_pos hneg, List.append_assoc, List.singleton_append, readNumber]
    rw [readWhole_toDigits _ hrest]
    dsimp only
    rw [finishNumber_toDigits h true hrest, if_pos rfl, habs]
  · have habs : (i.natAbs : Int) = i := by omega
    rw [if_neg hneg, List.nil_append, readNumber_toDigits _ hrest,
      finishNumber_toDigits h false hrest, if_neg Bool.false_ne_true, habs]

theorem readScalar_int {i : Int} (h : hasTooManyDigits i = false) (hrest : EndsNumber rest) :
    readScalar ((Value.numberText (.int i)).toList ++ rest) = .ok (.number (.int i), rest) := by
  obtain ⟨c, digits, hcons, hc⟩ := exists_toDigits_eq_cons i.natAbs
  have hwords := findSome?_words_eq_none hc (decide (i < 0)) (digits ++ rest)
  rw [← List.cons_append, ← hcons, ← List.append_assoc] at hwords
  simp only [decide_eq_true_eq] at hwords
  rw [← Value.toList_numberText_int] at hwords
  rw [readScalar, hwords, readNumber_int h hrest]
  rfl

/-- An integer with too many digits is refused. -/
theorem readScalar_overlong {n : Nat} (h : digitLimit < (Nat.toDigits 10 n).length)
    (hrest : EndsNumber rest) : readScalar (Nat.toDigits 10 n ++ rest) =
      .error (.digits (Nat.toDigits 10 n).length) := by
  obtain ⟨c, digits, hcons, hc⟩ := exists_toDigits_eq_cons n
  have hwords := findSome?_words_eq_none hc false (digits ++ rest)
  rw [if_neg Bool.false_ne_true, List.nil_append, ← List.cons_append, ← hcons] at hwords
  have hfinish : finishNumber false (Nat.toDigits 10 n) rest =
      .error (.digits (Nat.toDigits 10 n).length) := by
    rw [finishNumber, readFraction_of_ends hrest]
    dsimp only
    rw [readExponent_of_ends hrest]
    dsimp only
    rw [if_pos h]
  rw [readScalar, hwords, readNumber_toDigits _ hrest, hfinish]
  rfl

end Json

end ExtractionSchema
