import ExtractionSchema.Number.Basic
import Mathlib.Algebra.Order.Ring.Rat
import Mathlib.Algebra.Field.Rat
import Mathlib.Order.WithBot

/-!
# Numbers by value

Comparisons of numbers are comparisons of their values on the line of rationals with both
infinities: nothing is rounded, and it does not matter which kind of number has the value.

* `Number.lt_iff` and `Number.same_iff` say this of the order and of equality.
* `Number.isIntegral_iff`: a number has no fraction exactly when its value is an integer.
-/

namespace ExtractionSchema

/-- The rationals, with a point below and a point above all of them. -/
abbrev Line := WithBot (WithTop Rat)

/-- A rational on the line. -/
def Line.point (q : Rat) : Line := ((q : WithTop Rat) : WithBot (WithTop Rat))

theorem Line.point_lt_point {p q : Rat} : Line.point p < Line.point q ↔ p < q := by
  simp [Line.point, WithBot.coe_lt_coe, WithTop.coe_lt_coe]

theorem Line.point_inj {p q : Rat} : Line.point p = Line.point q ↔ p = q := by
  simp [Line.point]

theorem Line.bot_lt_point (q : Rat) : ⊥ < Line.point q := WithBot.bot_lt_coe _

theorem Line.point_lt_top (q : Rat) : Line.point q < ⊤ :=
  WithBot.coe_lt_coe.mpr (WithTop.coe_lt_top q)

theorem Line.point_ne_bot (q : Rat) : Line.point q ≠ ⊥ := (Line.bot_lt_point q).ne'

theorem Line.point_ne_top (q : Rat) : Line.point q ≠ ⊤ := (Line.point_lt_top q).ne

namespace Floating

/-- The value of a floating-point number; `nan` has none. -/
def value? : Floating → Option Line
  | .nan _ => none
  | .infinity true => some ⊥
  | .infinity false => some ⊤
  | .negativeZero => some (.point 0)
  | .finite x => some (.point x.toRat)

theorem zero_lt_iff_toRat {x : Dyadic} : 0 < x ↔ 0 < x.toRat := by
  rw [← Dyadic.toRat_lt_toRat_iff, Dyadic.toRat_zero]

theorem lt_zero_iff_toRat {x : Dyadic} : x < 0 ↔ x.toRat < 0 := by
  rw [← Dyadic.toRat_lt_toRat_iff, Dyadic.toRat_zero]

/-- The order is that of the values. -/
theorem lt_iff {x y : Floating} :
    x.lt y = true ↔ ∃ a b, x.value? = some a ∧ y.value? = some b ∧ a < b := by
  cases x with
  | nan => simp [lt, value?]
  | infinity negative =>
    cases y with
    | nan => simp [lt, value?]
    | infinity negative' => cases negative <;> cases negative' <;> simp [lt, value?]
    | negativeZero => cases negative <;> simp [lt, value?, Line.bot_lt_point]
    | finite y => cases negative <;> simp [lt, value?, Line.bot_lt_point]
  | negativeZero =>
    cases y with
    | nan => simp [lt, value?]
    | infinity negative => cases negative <;> simp [lt, value?, Line.point_lt_top]
    | negativeZero => simp [lt, value?]
    | finite y => simp [lt, value?, Line.point_lt_point, zero_lt_iff_toRat]
  | finite x =>
    cases y with
    | nan => simp [lt, value?]
    | infinity negative => cases negative <;> simp [lt, value?, Line.point_lt_top]
    | negativeZero => simp [lt, value?, Line.point_lt_point, lt_zero_iff_toRat]
    | finite y => simp [lt, value?, Line.point_lt_point, Dyadic.toRat_lt_toRat_iff]

/-- Whether a number can stand in a JSON document: the only `nan` there is the one of its word. -/
def isOfJson : Floating → Bool
  | .nan source => source = .json
  | _ => true

/-- Both numbers have the same value, or they are the same `nan`. -/
def Alike (x y : Floating) : Prop := (∃ a, x.value? = some a ∧ y.value? = some a) ∨ x = y

/-- Equality with a number of a JSON document is that of the values; the `nan` there, which has
none, equals itself only. -/
theorem same_iff {x y : Floating} (hy : y.isOfJson = true) : x.same y = true ↔ x.Alike y := by
  cases x with
  | nan source =>
    cases y with
    | nan source' =>
      obtain rfl : source' = .json := by simpa [isOfJson] using hy
      cases source <;> simp [same, Alike, value?]
    | _ => simp [same, Alike, value?]
  | infinity negative =>
    cases y with
    | nan => cases negative <;> simp [same, Alike, value?]
    | infinity negative' => cases negative <;> cases negative' <;> simp [same, Alike, value?]
    | negativeZero =>
      cases negative <;> simp [same, Alike, value?, Line.point_ne_top, Line.point_ne_bot]
    | finite y =>
      cases negative <;> simp [same, Alike, value?, Line.point_ne_top, Line.point_ne_bot]
  | negativeZero =>
    cases y with
    | nan => simp [same, Alike, value?]
    | infinity negative =>
      cases negative <;>
        simp [same, Alike, value?, (Line.point_ne_top _).symm, (Line.point_ne_bot _).symm]
    | negativeZero => simp [same, Alike, value?]
    | finite y => simp [same, Alike, value?, Line.point_inj]
  | finite x =>
    cases y with
    | nan => simp [same, Alike, value?]
    | infinity negative =>
      cases negative <;>
        simp [same, Alike, value?, (Line.point_ne_top _).symm, (Line.point_ne_bot _).symm]
    | negativeZero => simp [same, Alike, value?, Line.point_inj, eq_comm]
    | finite y =>
      simp [same, Alike, value?, Line.point_inj, Dyadic.toRat_inj, eq_comm]

/-- A dyadic with an odd numerator is an integer exactly when it is divided by no power of two. -/
theorem exists_int_ofOdd {n k : Int} {hn : n % 2 = 1} :
    (∃ i : Int, (Dyadic.ofOdd n k hn).toRat = i) ↔ k ≤ 0 := by
  rw [Dyadic.toRat_ofOdd_eq_mul_two_pow]
  constructor
  · rintro ⟨i, hi⟩
    by_contra hk
    obtain ⟨m, rfl⟩ : ∃ m : Nat, k = m + 1 := ⟨(k - 1).toNat, by omega⟩
    have hpow : (2 : Rat) ^ ((m : Int) + 1) * 2 ^ (-((m : Int) + 1)) = 1 := by
      rw [← Rat.zpow_add (by decide), Int.add_right_neg, Rat.zpow_zero]
    have hq : (n : Rat) = ((i * 2 ^ (m + 1) : Int) : Rat) := by
      calc (n : Rat) = n * (2 ^ (-((m : Int) + 1)) * 2 ^ ((m : Int) + 1)) := by
            rw [Rat.mul_comm (2 ^ _), hpow, Rat.mul_one]
        _ = i * 2 ^ ((m : Int) + 1) := by rw [← Rat.mul_assoc, hi]
        _ = ((i * 2 ^ (m + 1) : Int) : Rat) := by
            rw [Rat.intCast_mul, Int.cast_pow]
            rfl
    have hint : n = i * 2 ^ m * 2 := by
      rw [Rat.intCast_inj.mp hq, Int.pow_succ, Int.mul_assoc]
    rw [hint, Int.mul_emod_left] at hn
    omega
  · intro hk
    obtain ⟨m, rfl⟩ : ∃ m : Nat, k = -m := ⟨(-k).toNat, by omega⟩
    refine ⟨n * 2 ^ m, ?_⟩
    rw [Int.neg_neg, Rat.zpow_natCast]
    simp

/-- The integer that a number is, is its value. -/
theorem value?_of_toInt? {x : Floating} {i : Int} (h : x.toInt? = some i) :
    x.value? = some (.point i) := by
  cases x with
  | nan source => cases h
  | infinity negative => cases h
  | negativeZero =>
    cases h
    rfl
  | finite x =>
    cases x with
    | zero =>
      cases h
      rfl
    | ofOdd n k hn =>
      by_cases hk : k ≤ 0
      · obtain ⟨m, rfl⟩ : ∃ m : Nat, k = -m := ⟨(-k).toNat, by omega⟩
        have hi : n * ((1 <<< (-(m : Int)).natAbs : Nat) : Int) = i := by
          simpa [toInt?, hk] using h
        rw [value?, Dyadic.toRat_ofOdd_eq_mul_two_pow, Int.neg_neg, Rat.zpow_natCast, ← hi,
          Int.natAbs_neg, Int.natAbs_natCast, Nat.one_shiftLeft]
        simp
      · simp [toInt?, hk] at h

/-- A number has no fraction exactly when its value is an integer. -/
theorem isIntegral_iff {x : Floating} :
    x.isIntegral = true ↔ ∃ i : Int, x.value? = some (.point i) := by
  cases x with
  | nan => simp [isIntegral, toInt?, value?]
  | infinity negative =>
    cases negative <;>
      simp [isIntegral, toInt?, value?, (Line.point_ne_top _).symm, (Line.point_ne_bot _).symm]
  | negativeZero =>
    simp only [isIntegral, toInt?, value?, Option.isSome_some, true_iff]
    exact ⟨0, rfl⟩
  | finite x =>
    have hvalue : (∃ i : Int, (finite x).value? = some (.point i)) ↔ ∃ i : Int, x.toRat = i := by
      simp [value?, Line.point_inj]
    rw [hvalue]
    cases x with
    | zero =>
      simp only [isIntegral, toInt?, Option.isSome_some, true_iff]
      exact ⟨0, rfl⟩
    | ofOdd n k hn =>
      rw [exists_int_ofOdd]
      by_cases hk : k ≤ 0 <;> simp [isIntegral, toInt?, hk]

end Floating

namespace Number

/-- The value of a number; `nan` has none. -/
def value? : Number → Option Line
  | .int i => some (.point i)
  | .float x => x.value?

/-- Whether a number can stand in a JSON document. -/
def isOfJson : Number → Bool
  | .int _ => true
  | .float x => x.isOfJson

/-- Both numbers have the same value, whatever their kinds, or they are the same `nan`. -/
def Alike (m n : Number) : Prop := (∃ a, m.value? = some a ∧ n.value? = some a) ∨ m = n

theorem value?_exact (n : Number) : n.exact.value? = n.value? := by
  cases n with
  | int i =>
    have hvalue : (Dyadic.ofInt i).toRat = i := Dyadic.toRat_intCast i
    simp only [exact, Floating.value?, value?, hvalue]
  | float x => rfl

theorem isOfJson_exact (n : Number) : n.exact.isOfJson = n.isOfJson := by
  cases n <;> rfl

/-- The order is that of the values. -/
theorem lt_iff {m n : Number} :
    m.lt n = true ↔ ∃ a b, m.value? = some a ∧ n.value? = some b ∧ a < b := by
  rw [lt, Floating.lt_iff, value?_exact, value?_exact]

theorem alike_exact {m n : Number} : m.exact.Alike n.exact ↔ m.Alike n := by
  rw [Floating.Alike, Alike, value?_exact, value?_exact]
  constructor
  · rintro (hvalue | hexact)
    · exact .inl hvalue
    · cases m with
      | int i => exact .inl ⟨.point i, rfl, by rw [← value?_exact, ← hexact, value?_exact]; rfl⟩
      | float x =>
        cases n with
        | int i => exact .inl ⟨.point i, by rw [← value?_exact, hexact, value?_exact]; rfl, rfl⟩
        | float y => exact .inr (congrArg Number.float hexact)
  · rintro (hvalue | rfl)
    · exact .inl hvalue
    · exact .inr rfl

/-- Equality with a number of a JSON document is that of the values; the `nan` there equals itself
only. -/
theorem same_iff {m n : Number} (hn : n.isOfJson = true) : m.same n = true ↔ m.Alike n := by
  rw [same, Floating.same_iff ((isOfJson_exact n).trans hn), alike_exact]

/-- The integer that a number is, is its value. -/
theorem value?_of_toInt? {n : Number} {i : Int} (h : n.toInt? = some i) :
    n.value? = some (.point i) := by
  cases n with
  | int j =>
    cases h
    rfl
  | float x => exact Floating.value?_of_toInt? h

/-- A number has no fraction exactly when its value is an integer. -/
theorem isIntegral_iff {n : Number} :
    n.isIntegral = true ↔ ∃ i : Int, n.value? = some (.point i) := by
  cases n with
  | int i =>
    simp only [isIntegral, toInt?, Option.isSome_some, true_iff]
    exact ⟨i, rfl⟩
  | float x => exact Floating.isIntegral_iff

end Number

end ExtractionSchema
