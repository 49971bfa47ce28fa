import ExtractionSchema.Reading.Fault

/-!
# Checked readings

A `Checked` reading is a result or the faults that prevent it. Readings combine side by side, so
that the faults of all parts are kept, in the order of the parts.

* `Checked.seq_eq_ok_iff` says when a combination succeeds: when both parts do.
* `Checked.each` reads the items of a list, each fault with the index of its item.
-/

namespace ExtractionSchema

/-- A result, or the faults that prevent it. -/
inductive Checked (α : Type) where
  | ok (a : α)
  | faulty (faults : List Fault)

namespace Checked

variable {α β : Type}

/-- Changes the result. -/
def map (f : α → β) : Checked α → Checked β
  | .ok a => .ok (f a)
  | .faulty faults => .faulty faults

/-- Combines two readings and keeps the faults of both. -/
def seq (f : Checked (α → β)) (x : Unit → Checked α) : Checked β :=
  match f, x () with
  | .ok f, .ok a => .ok (f a)
  | .ok _, .faulty faults => .faulty faults
  | .faulty faults, .ok _ => .faulty faults
  | .faulty faults, .faulty more => .faulty (faults ++ more)

instance : Applicative Checked where
  pure := .ok
  map := map
  seq := seq

theorem seq_eq_ok_iff {f : Checked (α → β)} {x : Checked α} {b : β} :
    f <*> x = .ok b ↔ ∃ g a, f = .ok g ∧ x = .ok a ∧ g a = b := by
  cases f <;> cases x <;> simp [Seq.seq, seq]

theorem map_eq_ok_iff {f : α → β} {x : Checked α} {b : β} :
    f <$> x = .ok b ↔ ∃ a, x = .ok a ∧ f a = b := by
  cases x <;> simp [Functor.map, map]

/-- A reading that fails with one fault at the value itself. -/
def fail (cause : FaultCause) (input : Value) : Checked α := .faulty [⟨[], cause, input⟩]

/-- The reading seen from outside: every fault one step further away. -/
def under (step : Step) : Checked α → Checked α
  | .ok a => .ok a
  | .faulty faults => .faulty (faults.map (Fault.under step))

theorem under_eq_ok_iff {step : Step} {x : Checked α} {a : α} :
    x.under step = .ok a ↔ x = .ok a := by
  cases x <;> simp [under]

/-- Continues with a check of the result. -/
def andThen (x : Checked α) (f : α → Checked β) : Checked β :=
  match x with
  | .ok a => f a
  | .faulty faults => .faulty faults

theorem andThen_eq_ok_iff {x : Checked α} {f : α → Checked β} {b : β} :
    x.andThen f = .ok b ↔ ∃ a, x = .ok a ∧ f a = .ok b := by
  cases x <;> simp [andThen]

/-- The result, or a refusal of the model. -/
def orRefuse (model : String) : Checked α → Except Refusal α
  | .ok a => .ok a
  | .faulty faults => .error ⟨model, faults⟩

theorem orRefuse_eq_ok_iff {model : String} {x : Checked α} {a : α} :
    x.orRefuse model = .ok a ↔ x = .ok a := by
  cases x <;> simp [orRefuse]

/-- Reads the items of a list from an index on. -/
def eachFrom (read : Value → Checked α) : Nat → List Value → Checked (List α)
  | _, [] => .ok []
  | i, v :: vs => List.cons <$> (read v).under (.item i) <*> eachFrom read (i + 1) vs

/-- Reads the items of a list. -/
def each (read : Value → Checked α) (items : List Value) : Checked (List α) :=
  eachFrom read 0 items

end Checked

end ExtractionSchema
