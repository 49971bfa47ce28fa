import ExtractionSchema.Proofs.Value.Entries
import ExtractionSchema.Proofs.Value.Json.Written

/-!
# Reading written values back

A value without floating-point numbers and without obstacle is read back from its JSON text, on one
line or over several. The reader is followed through the writer: with more steps than the value has
characters, it reads a written value and leaves what follows it, which holds for a list or an object
once it holds for its members.

* `Json.IsRestored` says that a value is read back, at every level and before every text that ends
  it; `Value.IsFloatFree.isRestored` proves it.
* `Value.IsFloatFree.read_json` and `Value.IsFloatFree.read_indentedJson`: both texts of a value are
  read as the value.
-/

namespace ExtractionSchema

namespace Json

open Value

/-! ## Layout -/

variable {level : Option Nat} {rest : List Char}

theorem skipBlanks_append {blanks : List Char} (h : ∀ c ∈ blanks, isBlank c = true)
    (cs : List Char) : skipBlanks (blanks ++ cs) = skipBlanks cs :=
  List.dropWhile_append_of_pos h

theorem skipBlanks_cons {c : Char} (h : isBlank c = false) (cs : List Char) :
    skipBlanks (c :: cs) = c :: cs := by
  rw [skipBlanks, List.dropWhile_cons_of_neg (by simp [h])]

theorem skipBlanks_of_startsValue {cs : List Char} (h : StartsValue cs) : skipBlanks cs = cs := by
  obtain ⟨c, rest, rfl, hblank, -⟩ := h
  exact skipBlanks_cons hblank rest

theorem isBlank_of_mem_newLine {n : Nat} : ∀ c ∈ newLine n, isBlank c = true := by
  intro c hc
  rw [newLine, List.mem_cons, List.mem_replicate] at hc
  rcases hc with rfl | ⟨-, rfl⟩ <;> rfl

theorem skipBlanks_opening (level : Option Nat) (cs : List Char) :
    skipBlanks ((layout level).opening ++ cs) = skipBlanks cs := by
  cases level with
  | none => rfl
  | some n => exact skipBlanks_append isBlank_of_mem_newLine cs

theorem skipBlanks_closing (level : Option Nat) (cs : List Char) :
    skipBlanks ((layout level).closing ++ cs) = skipBlanks cs := by
  cases level with
  | none => rfl
  | some n => exact skipBlanks_append isBlank_of_mem_newLine cs

/-- Between two members stands a comma, and nothing else but blanks. -/
theorem exists_between (level : Option Nat) : ∃ blanks, (layout level).between = ',' :: blanks ∧
    ∀ cs, skipBlanks (blanks ++ cs) = skipBlanks cs := by
  cases level with
  | none => exact ⟨[' '], rfl, fun _ => rfl⟩
  | some n => exact ⟨newLine (n + 1), rfl, skipBlanks_append isBlank_of_mem_newLine⟩

theorem endsNumber_cons {c : Char} (cs : List Char)
    (h : isDigit c = false ∧ c ≠ '.' ∧ c ≠ 'e' ∧ c ≠ 'E') : EndsNumber (c :: cs) := by
  intro d hd
  cases hd
  exact h

theorem endsNumber_closing (level : Option Nat) {c : Char} (cs : List Char)
    (h : isDigit c = false ∧ c ≠ '.' ∧ c ≠ 'e' ∧ c ≠ 'E') :
    EndsNumber ((layout level).closing ++ c :: cs) := by
  cases level with
  | none => exact endsNumber_cons cs h
  | some n => exact endsNumber_cons _ (by decide)

theorem endsNumber_writeItems (vs : List Value) : EndsNumber (writeItems level vs rest) := by
  cases vs with
  | nil => exact endsNumber_closing level rest (by decide)
  | cons v vs =>
    obtain ⟨blanks, hbetween, -⟩ := exists_between level
    rw [writeItems, hbetween]
    exact endsNumber_cons _ (by decide)

theorem endsNumber_writeEntries (es : Entries) : EndsNumber (writeEntries level es rest) := by
  cases es with
  | nil => exact endsNumber_closing level rest (by decide)
  | cons e es =>
    obtain ⟨k, v⟩ := e
    obtain ⟨blanks, hbetween, -⟩ := exists_between level
    rw [writeEntries, hbetween]
    exact endsNumber_cons _ (by decide)

/-! ## Values -/

/-- The value is read back at every level, with more steps than it has characters and before
anything that ends a number. -/
structure IsRestored (v : Value) : Prop where
  starts : ∀ level rest, StartsValue (write level v rest)
  reads : ∀ level steps rest, EndsNumber rest →
    (write level v rest).length < steps + rest.length →
      readValue steps (write level v rest) = .ok (v, rest)

/-- There is a step left for what is written. -/
theorem exists_eq_add_one {steps after total : Nat} (hle : after ≤ total)
    (hsteps : total < steps + after) : ∃ n, steps = n + 1 :=
  ⟨steps - 1, by omega⟩

theorem isRestored_null : IsRestored .null where
  starts := IsFloatFree.null.startsValue
  reads level steps rest _ hsteps := by
    obtain ⟨n, rfl⟩ := exists_eq_add_one (length_le_write _ _ _) hsteps
    rfl

theorem isRestored_bool (b : Bool) : IsRestored (.bool b) where
  starts := (IsFloatFree.bool b).startsValue
  reads level steps rest _ hsteps := by
    obtain ⟨n, rfl⟩ := exists_eq_add_one (length_le_write _ _ _) hsteps
    cases b <;> rfl

theorem isRestored_string (s : String) : IsRestored (.string s) where
  starts := (IsFloatFree.string s).startsValue
  reads level steps rest _ hsteps := by
    obtain ⟨n, rfl⟩ := exists_eq_add_one (length_le_write _ _ _) hsteps
    rw [write, writeString, readValue, readString_written]
    rfl

theorem isRestored_int {i : Int} (h : hasTooManyDigits i = false) : IsRestored (.int i) where
  starts := (IsFloatFree.int i).startsValue
  reads level steps rest hrest hsteps := by
    obtain ⟨n, rfl⟩ := exists_eq_add_one (length_le_write _ _ _) hsteps
    -- an integer starts with none of the characters that start a text, a list or an object
    have hne : ∀ d tail, isDigit d = false → d ≠ '-' →
        (numberText (.int i)).toList ++ rest = d :: tail → False := by
      intro d tail hd hminus heq
      obtain ⟨c, digits, hcons, hc⟩ := exists_numberText_eq_cons i
      rw [hcons] at heq
      cases heq
      rcases hc with rfl | hc
      · exact hminus rfl
      · exact ne_of_isDigit hc hd rfl
    rw [write, readValue, readScalar_int h hrest]
    · exact fun tail => hne _ tail rfl (by decide)
    · exact fun tail => hne _ tail rfl (by decide)
    · exact fun tail => hne _ tail rfl (by decide)

section Lists

variable {v : Value} {vs : List Value}

/-- What the reader does after the first of the items that are left. -/
theorem readItems_write_cons (hv : IsRestored v) (done : List Value) {n : Nat}
    (hsteps : (write (inner level) v (writeItems level vs rest)).length < n + 1 + rest.length) :
    readItems (n + 1) done (write (inner level) v (writeItems level vs rest)) =
      match skipBlanks (writeItems level vs rest) with
      | ']' :: after => .ok (.list (v :: done).reverse, after)
      | ',' :: after => readItems n (v :: done) (skipBlanks after)
      | after => failAt .comma after := by
  have hmore := length_lt_writeItems vs level rest
  rw [readItems, hv.reads (inner level) n _ (endsNumber_writeItems vs) (by omega)]
  rfl

/-- The items from one on are read back if each of them is. -/
theorem readItems_write (hv : IsRestored v) (hvs : ∀ w ∈ vs, IsRestored w)
    (done : List Value) {steps : Nat}
    (hsteps : (write (inner level) v (writeItems level vs rest)).length < steps + rest.length) :
    readItems steps done (write (inner level) v (writeItems level vs rest)) =
      .ok (.list (done.reverse ++ v :: vs), rest) := by
  induction vs generalizing v done steps with
  | nil =>
    have hfirst := length_le_write v (inner level) (writeItems level [] rest)
    have hmore := length_lt_writeItems [] level rest
    obtain ⟨n, rfl⟩ := exists_eq_add_one (by omega) hsteps
    rw [readItems_write_cons hv done hsteps, writeItems, skipBlanks_closing, skipBlanks_cons rfl]
    simp
  | cons w vs ih =>
    rw [List.forall_mem_cons] at hvs
    have hfirst := length_le_write v (inner level) (writeItems level (w :: vs) rest)
    have hmore := length_lt_writeItems (w :: vs) level rest
    obtain ⟨n, rfl⟩ := exists_eq_add_one (by omega) hsteps
    obtain ⟨blanks, hbetween, hblanks⟩ := exists_between level
    have hnext : (write (inner level) w (writeItems level vs rest)).length < n + rest.length := by
      have hlength : (writeItems level (w :: vs) rest).length =
          blanks.length + 1 + (write (inner level) w (writeItems level vs rest)).length := by
        rw [writeItems, hbetween, List.length_append, List.length_cons]
      omega
    have hread := ih hvs.1 hvs.2 (v :: done) hnext
    rw [readItems_write_cons hv done hsteps, writeItems, hbetween, List.cons_append,
      skipBlanks_cons rfl]
    simp only
    rw [hblanks, skipBlanks_of_startsValue (hvs.1.starts _ _), hread]
    simp

theorem isRestored_list (hvs : ∀ v ∈ vs, IsRestored v) : IsRestored (.list vs) where
  starts := startsValue_list vs
  reads level steps rest _ hsteps := by
    obtain ⟨n, rfl⟩ := exists_eq_add_one (length_le_write _ _ _) hsteps
    cases vs with
    | nil => rfl
    | cons v vs =>
      rw [List.forall_mem_cons] at hvs
      have hless : (write (inner level) v (writeItems level vs rest)).length <
          n + rest.length := by
        simp only [write, List.length_cons, List.length_append] at hsteps
        omega
      have hread := readItems_write hvs.1 hvs.2 [] hless
      obtain ⟨c, more, hcons, hblank, hbracket, -⟩ :=
        hvs.1.starts (inner level) (writeItems level vs rest)
      rw [write, readValue, skipBlanks_opening, hcons, skipBlanks_cons hblank]
      rw [hcons] at hread
      split
      · rename_i heq
        cases heq
        exact absurd rfl hbracket
      · exact hread

end Lists

section Objects

variable {name : String} {v : Value} {fields : List (String × Value)}

/-- What the reader does after the first of the entries that are left. -/
theorem readEntries_write_cons (hv : IsRestored v) (done : Entries) {n : Nat}
    (hsteps : (write (inner level) v (writeEntries level (named fields) rest)).length <
      n + rest.length) :
    readEntries (n + 1) done (writeString name
        (':' :: ' ' :: write (inner level) v (writeEntries level (named fields) rest))) =
      match skipBlanks (writeEntries level (named fields) rest) with
      | '\x7d' :: after => .ok (.object (put (.name name) v done), after)
      | ',' :: after => readEntries n (put (.name name) v done) (skipBlanks after)
      | after => failAt .comma after := by
  have hmore := length_lt_writeEntries (named fields) level rest
  have hread := hv.reads (inner level) n (writeEntries level (named fields) rest)
    (endsNumber_writeEntries (named fields)) (by omega)
  have hskip : skipBlanks
      (' ' :: write (inner level) v (writeEntries level (named fields) rest)) =
        write (inner level) v (writeEntries level (named fields) rest) :=
    skipBlanks_of_startsValue (hv.starts _ _)
  rw [writeString, readEntries, readString_written]
  dsimp only [bind, Except.bind]
  rw [skipBlanks_cons rfl]
  simp only
  rw [hskip, hread]
  rfl

theorem not_mem_of_nodup {done more : List String} (h : (done ++ name :: more).Nodup) :
    name ∉ done := by
  obtain ⟨-, -, hne⟩ := List.nodup_append.mp h
  exact fun hmem => hne name hmem name List.mem_cons_self rfl

/-- The entries from one on are read back if each of their values is. -/
theorem readEntries_write (hv : IsRestored v) (hfields : ∀ field ∈ fields, IsRestored field.2)
    (done : List (String × Value))
    (hkeys : (done.map Prod.fst ++ name :: fields.map Prod.fst).Nodup) {steps : Nat}
    (hsteps : (write (inner level) v (writeEntries level (named fields) rest)).length <
      steps + rest.length) :
    readEntries (steps + 1) (named done) (writeString name
        (':' :: ' ' :: write (inner level) v (writeEntries level (named fields) rest))) =
      .ok (.record (done ++ (name, v) :: fields), rest) := by
  induction fields generalizing name v done steps with
  | nil =>
    have hname := not_mem_of_nodup hkeys
    rw [readEntries_write_cons hv _ hsteps, put_named_of_not_mem hname, named_nil, writeEntries,
      skipBlanks_closing, skipBlanks_cons rfl]
    rfl
  | cons field fields ih =>
    obtain ⟨next, w⟩ := field
    rw [List.forall_mem_cons] at hfields
    have hname := not_mem_of_nodup hkeys
    obtain ⟨blanks, hbetween, hblanks⟩ := exists_between level
    have hfirst := length_le_write v (inner level)
      (writeEntries level (named ((next, w) :: fields)) rest)
    have hlength : (writeEntries level (named ((next, w) :: fields)) rest).length =
        blanks.length + (next.toList.flatMap jsonChar).length + 5 +
          (write (inner level) w (writeEntries level (named fields) rest)).length := by
      simp only [named_cons, writeEntries, hbetween, length_writeString, List.length_append,
        List.length_cons, keyName]
      omega
    have hmore := length_lt_writeEntries (named fields) level rest
    have hnext := length_le_write w (inner level) (writeEntries level (named fields) rest)
    obtain ⟨n, rfl⟩ : ∃ n, steps = n + 1 := ⟨steps - 1, by omega⟩
    have hless : (write (inner level) w (writeEntries level (named fields) rest)).length <
        n + rest.length := by omega
    have hread := ih hfields.1 hfields.2 (done ++ [(name, v)]) (by simpa using hkeys) hless
    rw [readEntries_write_cons hv _ hsteps, put_named_of_not_mem hname, named_cons, writeEntries,
      hbetween, List.cons_append, skipBlanks_cons rfl]
    simp only
    rw [hblanks, keyName, skipBlanks_of_startsValue (startsValue_writeString _ _), hread]
    simp

theorem isRestored_record (hkeys : (fields.map Prod.fst).Nodup)
    (hfields : ∀ field ∈ fields, IsRestored field.2) : IsRestored (.record fields) where
  starts := startsValue_record fields
  reads level steps rest _ hsteps := by
    obtain ⟨n, rfl⟩ := exists_eq_add_one (length_le_write _ _ _) hsteps
    cases fields with
    | nil => rfl
    | cons field fields =>
      obtain ⟨name, v⟩ := field
      rw [List.forall_mem_cons] at hfields
      have hfirst := length_le_write v (inner level) (writeEntries level (named fields) rest)
      have hmore := length_lt_writeEntries (named fields) level rest
      simp only [record, named_cons, write, length_writeString, List.length_cons,
        List.length_append] at hsteps
      obtain ⟨k, rfl⟩ : ∃ k, n = k + 1 := ⟨n - 1, by omega⟩
      have hless : (write (inner level) v (writeEntries level (named fields) rest)).length <
          k + rest.length := by omega
      have hread := readEntries_write hfields.1 hfields.2 [] hkeys hless
      rw [record, named_cons, write, readValue, skipBlanks_opening, keyName,
        skipBlanks_of_startsValue (startsValue_writeString _ _)]
      exact hread

end Objects

/-! ## Texts -/

theorem read_eq_ok_iff {s : String} {v : Value} : read s = .ok v ↔ readAll s.toList = .ok v := by
  unfold read
  cases readAll s.toList <;> simp

theorem readAll_of_isRestored {v : Value} (h : IsRestored v) (level : Option Nat) :
    readAll (write level v []) = .ok v := by
  have hend : EndsNumber [] := by
    intro c hc
    cases hc
  have hsteps : (write level v []).length < 2 * (write level v []).length + 2 + 0 := by omega
  have hread := h.reads level _ [] hend hsteps
  rw [readAll, skipBlanks_of_startsValue (h.starts level []), hread]
  · rfl
  · intro tail hmark
    obtain ⟨c, more, hcons, -, -, hc, -⟩ := h.starts level []
    rw [hcons] at hmark
    cases hmark
    exact hc rfl

end Json

open Json

namespace Value

theorem toList_json (v : Value) : v.json.toList = write none v [] := String.toList_ofList

theorem toList_indentedJson (v : Value) : v.indentedJson.toList = write (some 0) v [] :=
  String.toList_ofList

/-- A value without floating-point numbers and without obstacle is read back from its text. -/
theorem IsFloatFree.isRestored {v : Value} (h : v.IsFloatFree) (hv : v.obstacle = none) :
    IsRestored v := by
  induction h with
  | null => exact isRestored_null
  | bool b => exact isRestored_bool b
  | int i => exact isRestored_int (hasTooManyDigits_of_obstacle hv)
  | string s => exact isRestored_string s
  | list hvs ih =>
    have hall := obstacle_list_eq_none.mp hv
    exact isRestored_list fun v hmem => ih v hmem (hall v hmem)
  | record hkeys hfields ih =>
    have hall := obstacle_record_eq_none.mp hv
    exact isRestored_record hkeys fun field hmem => ih field hmem (hall field hmem)

theorem IsFloatFree.read_json {v : Value} (h : v.IsFloatFree) (hv : v.obstacle = none) :
    Json.read v.json = .ok v := by
  rw [read_eq_ok_iff, toList_json]
  exact readAll_of_isRestored (h.isRestored hv) none

theorem IsFloatFree.read_indentedJson {v : Value} (h : v.IsFloatFree) (hv : v.obstacle = none) :
    Json.read v.indentedJson = .ok v := by
  rw [read_eq_ok_iff, toList_indentedJson]
  exact readAll_of_isRestored (h.isRestored hv) (some 0)

end Value

end ExtractionSchema
