import ExtractionSchema.Proofs.Reading.Showable
import ExtractionSchema.Proofs.Value.Json.Restored

/-!
# Values that were decoded

A value that the reader gives can be written again: its keys are names, and an integer of more
digits than are written is not read in the first place.

* `Json.Clear`: a reading function gives only values without obstacle.
* `Json.clear_readValue`, `Json.clear_readItems` and `Json.clear_readEntries` keep this from one
  step of the reader to the next.
* `Json.obstacle_of_read`: what a text writes can be written.
-/

namespace ExtractionSchema

namespace Json

/-! ## Numbers -/

theorem isDigit_of_readWhole {cs whole rest : List Char} (h : readWhole cs = some (whole, rest)) :
    ∀ c ∈ whole, isDigit c = true := by
  unfold readWhole at h
  split at h
  · cases h
    simp [isDigit]
  · rename_i c cs _
    split at h
    · cases h
      exact fun d hd => List.mem_takeWhile_imp hd
    · cases h
  · cases h

/-- An integer that is read has no more digits than are written. -/
theorem obstacle_of_finishNumber {negative : Bool} {whole rest : List Char}
    {r : Number × List Char} (hwhole : ∀ c ∈ whole, isDigit c = true)
    (h : finishNumber negative whole rest = .ok r) : r.1.obstacle = none := by
  unfold finishNumber at h
  dsimp only at h
  split at h
  · split at h
    · cases h
    · rename_i hlength
      cases h
      have hlt : (if negative then -(digitsValue whole : Int) else digitsValue whole).natAbs <
          Nat.pow 10 digitLimit := by
        rw [Reading.natAbs_signed]
        refine Nat.lt_of_lt_of_le (digitsValue_lt hwhole) ?_
        exact pow_ten_le (by omega)
      rw [Number.obstacle, hasTooManyDigits_eq_false hlt]
      rfl
  · cases h
    rfl

theorem obstacle_of_readNumber {cs : List Char} {r : Number × List Char}
    (h : readNumber cs = .ok r) : r.1.obstacle = none := by
  unfold readNumber at h
  dsimp only at h
  split at h
  · cases h
  · rename_i hwhole
    exact obstacle_of_finishNumber (isDigit_of_readWhole hwhole) h

/-! ## Values -/

/-- The value that is read, if there is one, has a JSON text. -/
def Clear (x : Except Fault (Value × List Char)) : Prop := ∀ r, x = .ok r → r.1.obstacle = none

theorem clear_failAt (problem : Problem) (cs : List Char) : Clear (failAt problem cs) := nofun

theorem clear_ok {v : Value} {rest : List Char} (h : v.obstacle = none) :
    Clear (.ok (v, rest)) := by
  rintro r ⟨⟩
  exact h

theorem clear_bind {α : Type} {x : Except Fault α} {f : α → Except Fault (Value × List Char)}
    (h : ∀ a, x = .ok a → Clear (f a)) : Clear (x >>= f) := by
  intro r hr
  obtain ⟨a, ha, hfa⟩ := bind_eq_ok_iff.mp hr
  exact h a ha r hfa

theorem clear_readScalar (cs : List Char) : Clear (readScalar cs) := by
  have hwords : ∀ entry ∈ words, entry.2.obstacle = none := by decide
  unfold readScalar
  split
  · rename_i result hfound
    obtain ⟨entry, hentry, hresult⟩ := List.exists_of_findSome?_eq_some hfound
    obtain ⟨rest, -, rfl⟩ := Option.map_eq_some_iff.mp hresult
    exact clear_ok (hwords entry hentry)
  · exact clear_bind fun r hr => clear_ok (obstacle_of_readNumber hr)

mutual

theorem clear_readValue : (steps : Nat) → (cs : List Char) → Clear (readValue steps cs)
  | 0, cs => clear_failAt _ cs
  | steps + 1, cs => by
    unfold readValue
    split
    · exact clear_bind fun r _ => clear_ok rfl
    · split
      · exact clear_ok rfl
      · exact clear_readItems steps [] _ (by simp)
    · split
      · exact clear_ok rfl
      · exact clear_readEntries steps [] _ (by simp)
    · exact clear_readScalar _

/-- The items that are read so far have no obstacle, and the next one has none. -/
theorem clear_readItems : (steps : Nat) → (done : List Value) → (cs : List Char) →
    (∀ v ∈ done, v.obstacle = none) → Clear (readItems steps done cs)
  | 0, _, cs, _ => clear_failAt _ cs
  | steps + 1, done, cs, hdone => by
    unfold readItems
    refine clear_bind fun ⟨v, rest⟩ hread => ?_
    have hvalue := clear_readValue steps cs _ hread
    have hall : ∀ w ∈ v :: done, w.obstacle = none := List.forall_mem_cons.mpr ⟨hvalue, hdone⟩
    dsimp only
    split
    · apply clear_ok
      rw [Value.obstacle_list_eq_none]
      exact fun v hv => hall v (List.mem_reverse.mp hv)
    · exact clear_readItems steps _ _ hall
    · exact clear_failAt _ _

theorem clear_readEntries : (steps : Nat) → (done : Value.Entries) → (cs : List Char) →
    (∀ e ∈ done, e.1.obstacle = none ∧ e.2.obstacle = none) → Clear (readEntries steps done cs)
  | 0, _, cs, _ => clear_failAt _ cs
  | steps + 1, done, cs, hdone => by
    unfold readEntries
    split
    · refine clear_bind fun ⟨name, rest⟩ _ => ?_
      dsimp only
      split
      · refine clear_bind fun ⟨v, rest⟩ hread => ?_
        have hvalue := clear_readValue steps _ _ hread
        have hput : ∀ e ∈ Value.put (.name name) v done,
            e.1.obstacle = none ∧ e.2.obstacle = none :=
          Value.forall_mem_put ⟨rfl, hvalue⟩ hdone
        dsimp only
        split
        · exact clear_ok (Value.obstacle_object_eq_none.mpr hput)
        · exact clear_readEntries steps _ _ hput
        · exact clear_failAt _ _
      · exact clear_failAt _ _
    · exact clear_failAt _ _

end

/-- The value that a text writes can be written. -/
theorem obstacle_of_read {s : String} {v : Value} (h : read s = .ok v) : v.obstacle = none := by
  rw [read_eq_ok_iff] at h
  unfold readAll at h
  split at h
  · cases h
  · obtain ⟨⟨w, rest⟩, hread, h⟩ := bind_eq_ok_iff.mp h
    have hvalue := clear_readValue _ _ _ hread
    dsimp only at h
    split at h
    · cases h
      exact hvalue
    · cases h

/-! ## Numbers that are refused -/

/-- An item that starts with a digit is read as a number. -/
theorem readValue_of_isDigit {c : Char} (hc : isDigit c = true) (steps : Nat) (cs : List Char) :
    readValue (steps + 1) (c :: cs) = readScalar (c :: cs) := by
  have hne : ∀ d, isDigit d = false → c ≠ d := fun d hd => ne_of_isDigit hc hd
  rw [readValue]
  · rintro rest ⟨⟩
    exact hne _ rfl rfl
  · rintro rest ⟨⟩
    exact hne _ rfl rfl
  · rintro rest ⟨⟩
    exact hne _ rfl rfl

/-- A list of a number with too many digits is refused for them. -/
theorem readAll_listing {n : Nat} (h : digitLimit < (Nat.toDigits 10 n).length) :
    readAll ('[' :: (Nat.toDigits 10 n ++ [']'])) =
      .error (.digits (Nat.toDigits 10 n).length) := by
  have hends : EndsNumber [']'] := endsNumber_cons _ (by decide)
  have hscalar := readScalar_overlong h hends
  generalize (Nat.toDigits 10 n).length = count at hscalar ⊢
  obtain ⟨c, digits, hcons, hc⟩ := exists_toDigits_eq_cons n
  rw [hcons, List.cons_append] at hscalar ⊢
  have hne : ∀ d, isDigit d = false → c ≠ d := fun d hd => ne_of_isDigit hc hd
  have hblank : isBlank c = false := by
    simp [isBlank, hne ' ' rfl, hne '\t' rfl, hne '\n' rfl, hne '\r' rfl]
  have hitems : ∀ steps, readItems (steps + 2) [] (c :: (digits ++ [']'])) =
      .error (.digits count) := by
    intro steps
    rw [readItems, readValue_of_isDigit hc, hscalar]
    rfl
  have hvalue : ∀ steps, readValue (steps + 3) ('[' :: c :: (digits ++ [']'])) =
      .error (.digits count) := by
    intro steps
    rw [readValue, skipBlanks_cons hblank]
    split
    · rename_i rest heq
      cases heq
      exact absurd hc (by decide)
    · exact hitems steps
  have hbracket : skipBlanks ('[' :: c :: (digits ++ [']'])) = '[' :: c :: (digits ++ [']']) :=
    skipBlanks_cons rfl _
  have hsteps : 2 * ('[' :: c :: (digits ++ [']'])).length + 2 =
    2 * (digits ++ [']']).length + 3 + 3 := by simp only [List.length_cons]; omega
  rw [readAll, hbracket, hsteps, hvalue]
  · rfl
  · intro v heq
    cases heq

end Json

end ExtractionSchema
