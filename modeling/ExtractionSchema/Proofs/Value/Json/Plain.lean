import ExtractionSchema.Document
import ExtractionSchema.Proofs.Value.Json.Restored
import ExtractionSchema.Text.ControlSequences

/-!
# Values that are stored as they are

A plain value holds no floating-point numbers and nothing that cannot be written. Its text over
several lines can be printed and stored: control characters stand there as escapes, apart from the
new lines of the layout, so a terminal finds nothing to obey and no line break is changed on the way
to a file and back.

* `Value.isPlain_list` and `Value.isPlain_record`: a plain value is made of plain values.
* `Value.IsPlain.withoutControlSequences_eq` and `Value.IsPlain.read_readText`: what is printed and
  what is read from a file.
-/

namespace ExtractionSchema

/-! ## Texts without control characters -/

/-- A character that text over several lines shows, or a new line. -/
def IsShown (c : Char) : Prop := c = '\n' ∨ 0x20 ≤ c.toNat

theorem isShown_of_le {c : Char} (h : 0x20 ≤ c.toNat) : IsShown c := .inr h

/-- The characters of a fixed text are shown, by a test that runs through them. -/
theorem isShown_of_all {cs : List Char} (h : (cs.all fun c => decide (0x20 ≤ c.toNat)) = true) :
    ∀ c ∈ cs, IsShown c := fun c hc =>
  isShown_of_le (of_decide_eq_true (List.all_eq_true.mp h c hc))

namespace Document

/-- Line breaks of a single kind are kept. -/
theorem unifyBreaks_eq_self {cs : List Char} (h : '\r' ∉ cs) : unifyBreaks cs = cs := by
  induction cs with
  | nil => rfl
  | cons c cs ih =>
    rw [List.mem_cons, not_or] at h
    have hreturn : c ≠ '\r' := Ne.symm h.1
    rw [unifyBreaks, ih h.2]
    · exact fun tail hc _ => hreturn hc
    · exact hreturn

theorem readText_eq_self {s : String} (h : ∀ c ∈ s.toList, IsShown c) : readText s = s := by
  have hreturn : '\r' ∉ s.toList := fun hmem => by
    have hshown := h _ hmem
    revert hshown
    unfold IsShown
    decide
  rw [readText, unifyBreaks_eq_self hreturn, String.ofList_toList]

end Document

namespace Text

/-- A text without an escape character holds no control sequences. -/
theorem dropControlSequences_eq_self {cs : List Char} (h : '\x1b' ∉ cs) :
    dropControlSequences cs = cs := by
  induction cs with
  | nil => simp [dropControlSequences]
  | cons c cs ih =>
    rw [List.mem_cons, not_or] at h
    have hescape : c ≠ '\x1b' := Ne.symm h.1
    rw [dropControlSequences, ih h.2]
    exact fun tail hc _ => hescape hc

theorem withoutControlSequences_eq_self {s : String} (h : ∀ c ∈ s.toList, IsShown c) :
    withoutControlSequences s = s := by
  have hescape : '\x1b' ∉ s.toList := fun hmem => by
    have hshown := h _ hmem
    revert hshown
    unfold IsShown
    decide
  rw [withoutControlSequences, dropControlSequences_eq_self hescape, String.ofList_toList]

end Text

namespace Value

/-! ## The characters of written values -/

variable {rest : List Char}

theorem isShown_of_mem_newLine (n : Nat) : ∀ c ∈ newLine n, IsShown c := by
  intro c hc
  rw [newLine, List.mem_cons, List.mem_replicate] at hc
  rcases hc with rfl | ⟨-, rfl⟩
  · exact .inl rfl
  · exact isShown_of_le (by decide)

/-- A character of a text stands for itself only if it is none of control. -/
theorem isShown_of_mem_jsonChar (c : Char) : ∀ d ∈ jsonChar c, IsShown d := by
  have hdigits : ∀ n < 0x20, (('\\' :: 'u' :: Text.hexDigits 4 n).all
      fun d => decide (0x20 ≤ d.toNat)) = true := by
    decide
  unfold jsonChar
  -- the seven escapes of a single letter
  iterate 7
    split
    · exact isShown_of_all (by decide)
  split
  · rename_i hcontrol
    exact isShown_of_all (hdigits _ hcontrol)
  · rename_i hcontrol
    exact List.forall_mem_singleton.mpr (isShown_of_le (Nat.not_lt.mp hcontrol))

theorem isShown_writeString (s : String) (hrest : ∀ c ∈ rest, IsShown c) :
    ∀ c ∈ writeString s rest, IsShown c := by
  have hquote : IsShown '"' := isShown_of_le (by decide)
  rw [writeString, List.forall_mem_cons, List.forall_mem_append, List.forall_mem_cons]
  refine ⟨hquote, ?_, hquote, hrest⟩
  intro c hc
  obtain ⟨d, -, hd⟩ := List.mem_flatMap.mp hc
  exact isShown_of_mem_jsonChar d c hd

theorem isShown_of_isDigit {c : Char} (h : isDigit c = true) : IsShown c := by
  simp only [isDigit, Bool.and_eq_true, decide_eq_true_eq] at h
  exact isShown_of_le (Nat.le_trans (by decide) h.1)

theorem isShown_numberText_int (i : Int) : ∀ c ∈ (numberText (.int i)).toList, IsShown c := by
  rw [toList_numberText_int, List.forall_mem_append]
  constructor
  · have hminus : IsShown '-' := isShown_of_le (by decide)
    split <;> simp [hminus]
  · exact fun c hc => isShown_of_isDigit (isDigit_of_mem_toDigits hc)

/-- The value is written over several lines without control characters before any text that has
none. -/
def KeepsShown (v : Value) : Prop :=
  ∀ (level : Nat) (rest : List Char), (∀ c ∈ rest, IsShown c) →
    ∀ c ∈ write (some level) v rest, IsShown c

theorem isShown_writeItems {vs : List Value} (hvs : ∀ v ∈ vs, v.KeepsShown) (level : Nat)
    (hrest : ∀ c ∈ rest, IsShown c) : ∀ c ∈ writeItems (some level) vs rest, IsShown c := by
  induction vs with
  | nil =>
    rw [writeItems, List.forall_mem_append, List.forall_mem_cons]
    exact ⟨isShown_of_mem_newLine level, isShown_of_le (by decide), hrest⟩
  | cons v vs ih =>
    rw [List.forall_mem_cons] at hvs
    rw [writeItems, List.forall_mem_append]
    refine ⟨?_, hvs.1 (level + 1) _ (ih hvs.2)⟩
    exact List.forall_mem_cons.mpr ⟨isShown_of_le (by decide), isShown_of_mem_newLine (level + 1)⟩

theorem isShown_entry {v : Value} (hv : v.KeepsShown) (name : String) (level : Nat)
    (hrest : ∀ c ∈ rest, IsShown c) :
    ∀ c ∈ writeString name (':' :: ' ' :: write (some level) v rest), IsShown c := by
  refine isShown_writeString name ?_
  rw [List.forall_mem_cons, List.forall_mem_cons]
  exact ⟨isShown_of_le (by decide), isShown_of_le (by decide), hv level rest hrest⟩

theorem isShown_writeEntries {fields : List (String × Value)}
    (hfields : ∀ field ∈ fields, field.2.KeepsShown) (level : Nat)
    (hrest : ∀ c ∈ rest, IsShown c) :
    ∀ c ∈ writeEntries (some level) (named fields) rest, IsShown c := by
  induction fields with
  | nil =>
    rw [named_nil, writeEntries, List.forall_mem_append, List.forall_mem_cons]
    exact ⟨isShown_of_mem_newLine level, isShown_of_le (by decide), hrest⟩
  | cons field fields ih =>
    obtain ⟨name, v⟩ := field
    rw [List.forall_mem_cons] at hfields
    rw [named_cons, writeEntries, List.forall_mem_append]
    refine ⟨?_, isShown_entry hfields.1 name (level + 1) (ih hfields.2)⟩
    exact List.forall_mem_cons.mpr ⟨isShown_of_le (by decide), isShown_of_mem_newLine (level + 1)⟩

/-- A value is written over several lines without control characters. -/
theorem IsFloatFree.keepsShown {v : Value} (h : v.IsFloatFree) : v.KeepsShown := by
  have hopen : IsShown '[' ∧ IsShown ']' ∧ IsShown '\x7b' ∧ IsShown '\x7d' := by
    refine ⟨?_, ?_, ?_, ?_⟩ <;> exact isShown_of_le (by decide)
  obtain ⟨hbracket, hclosed, hbrace, hended⟩ := hopen
  intro level rest hrest
  induction h generalizing level rest with
  | null =>
    rw [write, List.forall_mem_append]
    exact ⟨isShown_of_all (by decide), hrest⟩
  | bool b =>
    cases b with
    | true =>
      rw [write, List.forall_mem_append]
      exact ⟨isShown_of_all (by decide), hrest⟩
    | false =>
      rw [write, List.forall_mem_append]
      exact ⟨isShown_of_all (by decide), hrest⟩
  | int i =>
    rw [write, List.forall_mem_append]
    exact ⟨isShown_numberText_int i, hrest⟩
  | string s => exact isShown_writeString s hrest
  | @list vs hvs ih =>
    cases vs with
    | nil =>
      rw [write, List.forall_mem_cons, List.forall_mem_cons]
      exact ⟨hbracket, hclosed, hrest⟩
    | cons v vs =>
      rw [List.forall_mem_cons] at ih
      have hmore := isShown_writeItems (fun w hw => ih.2 w hw) level hrest
      rw [write, List.forall_mem_cons, List.forall_mem_append]
      exact ⟨hbracket, isShown_of_mem_newLine (level + 1), ih.1 (level + 1) _ hmore⟩
  | @record fields hkeys hfields ih =>
    cases fields with
    | nil =>
      rw [Value.record, named_nil, write, List.forall_mem_cons, List.forall_mem_cons]
      exact ⟨hbrace, hended, hrest⟩
    | cons field fields =>
      obtain ⟨name, v⟩ := field
      rw [List.forall_mem_cons] at ih
      have hmore := isShown_writeEntries ih.2 level hrest
      rw [Value.record, named_cons, write, List.forall_mem_cons, List.forall_mem_append]
      exact ⟨hbrace, isShown_of_mem_newLine (level + 1), isShown_entry ih.1 name (level + 1) hmore⟩

theorem IsFloatFree.isShown_indentedJson {v : Value} (h : v.IsFloatFree) :
    ∀ c ∈ v.indentedJson.toList, IsShown c := by
  rw [toList_indentedJson]
  exact h.keepsShown 0 [] (by simp)

/-! ## Plain values -/

/-- A value without floating-point numbers and without anything that cannot be written. -/
structure IsPlain (v : Value) : Prop where
  isFloatFree : v.IsFloatFree
  obstacle_eq : v.obstacle = none

theorem isPlain_bool (b : Bool) : (Value.bool b).IsPlain := ⟨.bool b, rfl⟩

theorem isPlain_string (s : String) : (Value.string s).IsPlain := ⟨.string s, rfl⟩

theorem isPlain_int {i : Int} : (Value.int i).IsPlain ↔ hasTooManyDigits i = false := by
  constructor
  · exact fun h => hasTooManyDigits_of_obstacle h.obstacle_eq
  · intro h
    refine ⟨.int i, ?_⟩
    rw [obstacle, Number.obstacle, h]
    rfl

theorem isPlain_list {vs : List Value} : (Value.list vs).IsPlain ↔ ∀ v ∈ vs, v.IsPlain := by
  constructor
  · intro h v hv
    exact ⟨h.isFloatFree.of_mem_list v hv, obstacle_list_eq_none.mp h.obstacle_eq v hv⟩
  · intro h
    refine ⟨.list fun v hv => (h v hv).isFloatFree, ?_⟩
    exact obstacle_list_eq_none.mpr fun v hv => (h v hv).obstacle_eq

theorem isPlain_record {fields : List (String × Value)} (hkeys : (fields.map Prod.fst).Nodup) :
    (Value.record fields).IsPlain ↔ ∀ field ∈ fields, field.2.IsPlain := by
  constructor
  · intro h field hfield
    have hfree := h.isFloatFree.of_mem_entries (.name field.1, field.2) (List.mem_map_of_mem hfield)
    exact ⟨hfree, obstacle_record_eq_none.mp h.obstacle_eq field hfield⟩
  · intro h
    refine ⟨.record hkeys fun field hfield => (h field hfield).isFloatFree, ?_⟩
    exact obstacle_record_eq_none.mpr fun field hfield => (h field hfield).obstacle_eq

theorem isPlain_strings (texts : List String) : (Value.strings texts).IsPlain := by
  rw [strings, isPlain_list, List.forall_mem_map]
  exact fun s _ => isPlain_string s

/-- A value of JSON whose numbers are finite: the keys of an object are names. -/
inductive HasFiniteNumbers : Value → Prop
  | null : HasFiniteNumbers .null
  | bool (b : Bool) : HasFiniteNumbers (.bool b)
  | int (i : Int) : HasFiniteNumbers (.int i)
  | negativeZero : HasFiniteNumbers (.number (.float .negativeZero))
  | finite (x : Dyadic) : HasFiniteNumbers (.number (.float (.finite x)))
  | string (s : String) : HasFiniteNumbers (.string s)
  | list {vs : List Value} (h : ∀ v ∈ vs, HasFiniteNumbers v) : HasFiniteNumbers (.list vs)
  | record {fields : List (String × Value)} (h : ∀ field ∈ fields, HasFiniteNumbers field.2) :
      HasFiniteNumbers (.record fields)

theorem HasFiniteNumbers.isJson {v : Value} (h : v.HasFiniteNumbers) : v.isJson = true := by
  induction h with
  | null | bool | int | negativeZero | finite | string => rfl
  | list hvs ih => exact isJson_list.mpr ih
  | record hfields ih =>
    refine isJson_object.mpr ?_
    rw [named, List.forall_mem_map]
    exact fun field hfield => ⟨⟨_, rfl⟩, ih field hfield⟩

theorem IsFloatFree.hasFiniteNumbers {v : Value} (h : v.IsFloatFree) : v.HasFiniteNumbers := by
  induction h with
  | null => exact .null
  | bool b => exact .bool b
  | int i => exact .int i
  | string s => exact .string s
  | list hvs ih => exact .list ih
  | record hkeys hfields ih => exact .record ih

theorem IsFloatFree.isJson {v : Value} (h : v.IsFloatFree) : v.isJson = true :=
  h.hasFiniteNumbers.isJson

theorem IsPlain.of_lookup {es : Entries} {key : Key} {v : Value} (h : (Value.object es).IsPlain)
    (hv : lookup key es = some v) : v.IsPlain := by
  have hjson := isJson_object.mp h.isFloatFree.isJson
  have hes : named (fieldsOf es) = es := named_fieldsOf fun e he => (hjson e he).1
  have hmem := mem_of_lookup hv
  have hobstacle := h.obstacle_eq
  rw [← hes] at hobstacle hmem
  obtain ⟨field, hfield, heq⟩ := List.mem_map.mp hmem
  cases heq
  refine ⟨h.isFloatFree.of_mem_entries (.name field.1, field.2) ?_,
    obstacle_record_eq_none.mp hobstacle field hfield⟩
  rwa [hes] at hmem

/-! ## Plain values in texts -/

/-- The text of a plain value is read from a file as the value. -/
theorem IsPlain.read_readText {v : Value} (h : v.IsPlain) :
    Json.read (Document.readText v.indentedJson) = .ok v := by
  rw [Document.readText_eq_self h.isFloatFree.isShown_indentedJson]
  exact h.isFloatFree.read_indentedJson h.obstacle_eq

/-- The text of a value is printed as it is. -/
theorem IsPlain.withoutControlSequences_eq {v : Value} (h : v.IsPlain) :
    Text.withoutControlSequences v.indentedJson = v.indentedJson :=
  Text.withoutControlSequences_eq_self h.isFloatFree.isShown_indentedJson

/-! ## Plain values among written properties -/

theorem interchangeAll_eq_map (vs : List Value) : interchangeAll vs = vs.map interchange := by
  induction vs with
  | nil => rfl
  | cons v vs ih => rw [interchangeAll, ih, List.map_cons]

/-- Entries whose values stand for themselves stand for themselves. -/
theorem interchangeEntries_named {fields : List (String × Value)}
    (h : ∀ field ∈ fields, field.2.interchange = field.2) :
    interchangeEntries (named fields) = named fields := by
  induction fields with
  | nil => rfl
  | cons field fields ih =>
    rw [List.forall_mem_cons] at h
    rw [named_cons, interchangeEntries, Key.interchange, h.1, ih h.2]

/-- A value of JSON whose numbers are finite stands for itself. -/
theorem HasFiniteNumbers.interchange_eq {v : Value} (h : v.HasFiniteNumbers) :
    v.interchange = v := by
  induction h with
  | null | bool | int | negativeZero | finite | string => rfl
  | list hvs ih =>
    rw [interchange, interchangeAll_eq_map, List.map_congr_left ih, List.map_id']
  | @record fields hfields ih =>
    have hnames : ∀ e ∈ named fields, e.1.isName = true := by
      intro e he
      obtain ⟨s, hs⟩ := exists_name_of_mem_named fields e he
      rw [hs]
      rfl
    rw [Value.record, interchange, if_pos (List.all_eq_true.mpr hnames),
      interchangeEntries_named ih]

end Value

end ExtractionSchema
