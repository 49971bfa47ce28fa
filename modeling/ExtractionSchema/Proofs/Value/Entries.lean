import ExtractionSchema.Value.Basic
import Mathlib.Data.List.Forall2
import Mathlib.Data.List.Nodup

/-!
# Entries under names

What a document says under names can be told from the names alone.

* `named_fieldsOf`: entries whose keys are names are what their fields name.
-/

namespace ExtractionSchema

/-! ## Related lists -/

section RelatedLists

variable {α β : Type} {R : α → β → Prop} {as : List α} {bs : List β}

/-- Whatever stands in the second of two related lists is related to something in the first. -/
theorem exists_of_mem_forall₂ (h : List.Forall₂ R as bs) : ∀ b ∈ bs, ∃ a ∈ as, R a b := by
  induction h with
  | nil => simp
  | cons hab hrest ih =>
    intro c hc
    rcases List.mem_cons.mp hc with rfl | hc
    · exact ⟨_, List.mem_cons_self, hab⟩
    · obtain ⟨a, ha, hac⟩ := ih c hc
      exact ⟨a, List.mem_cons_of_mem _ ha, hac⟩

/-- What holds of the one holds of what stands in its place. -/
theorem forall_mem_iff_of_forall₂ {good : α → Prop} {good' : β → Prop} (h : List.Forall₂ R as bs)
    (hgood : ∀ {a b}, R a b → (good a ↔ good' b)) : (∀ a ∈ as, good a) ↔ ∀ b ∈ bs, good' b := by
  constructor
  · intro has b hb
    obtain ⟨a, ha, hab⟩ := exists_of_mem_forall₂ h b hb
    exact (hgood hab).mp (has a ha)
  · intro hbs a ha
    obtain ⟨b, hb, hba⟩ := exists_of_mem_forall₂ h.flip a ha
    exact (hgood hba).mpr (hbs b hb)

theorem map_eq_map_of_forall₂ {γ : Type} {f : α → γ} {g : β → γ} (h : List.Forall₂ R as bs)
    (heq : ∀ {a b}, R a b → f a = g b) : as.map f = bs.map g := by
  rw [← List.forall₂_eq_eq_eq, List.forall₂_map_left_iff, List.forall₂_map_right_iff]
  exact h.imp fun _ _ => heq

end RelatedLists

namespace Value

/-! ## Entries -/

theorem lookup_named_eq_none {key : String} {fields : List (String × Value)}
    (h : key ∉ fields.map Prod.fst) : lookup (.name key) (named fields) = none := by
  induction fields with
  | nil => rfl
  | cons field fields ih =>
    obtain ⟨name, v⟩ := field
    simp only [List.map_cons, List.mem_cons, not_or] at h
    simp [lookup, Ne.symm h.1, ih h.2]

theorem exists_lookup_named {key : String} {fields : List (String × Value)}
    (h : key ∈ fields.map Prod.fst) : ∃ v, lookup (.name key) (named fields) = some v := by
  induction fields with
  | nil => simp at h
  | cons field fields ih =>
    obtain ⟨name, v⟩ := field
    by_cases hname : name = key
    · exact ⟨v, by simp [lookup, hname]⟩
    · obtain ⟨w, hw⟩ := ih (by simpa [Ne.symm hname] using h)
      exact ⟨w, by simp [lookup, hname, hw]⟩

/-- If no key is there twice, a key has the value of its entry. -/
theorem lookup_of_mem {es : Entries} (hkeys : (es.map Prod.fst).Nodup) {key : Key} {v : Value}
    (h : (key, v) ∈ es) : lookup key es = some v := by
  induction es with
  | nil => simp at h
  | cons e es ih =>
    obtain ⟨k, w⟩ := e
    rw [List.map_cons, List.nodup_cons] at hkeys
    rcases List.mem_cons.mp h with heq | h
    · cases heq
      rw [lookup, if_pos rfl]
    · have hne : k ≠ key := by
        rintro rfl
        exact hkeys.1 (List.mem_map.mpr ⟨_, h, rfl⟩)
      rw [lookup, if_neg hne]
      exact ih hkeys.2 h

theorem lookup_named_of_mem {fields : List (String × Value)} (h : (fields.map Prod.fst).Nodup)
    {name : String} {v : Value} (hmem : (name, v) ∈ fields) :
    lookup (.name name) (named fields) = some v := by
  have hkeys : ((named fields).map Prod.fst).Nodup := by
    have hnames : (named fields).map Prod.fst = (fields.map Prod.fst).map Key.name := by
      simp [named]
    rw [hnames]
    exact List.Nodup.map (fun _ _ => Key.name.inj) h
  exact lookup_of_mem hkeys (List.mem_map.mpr ⟨_, hmem, rfl⟩)

theorem isSome_lookup_iff {key : Key} {es : Entries} :
    (lookup key es).isSome = true ↔ key ∈ es.map Prod.fst := by
  induction es with
  | nil => simp [lookup]
  | cons e es ih =>
    obtain ⟨k, v⟩ := e
    by_cases hk : k = key
    · simp [lookup, hk]
    · simp [lookup, hk, ih, Ne.symm hk]

theorem getD_eq_string_iff {es : Entries} {name s : String} :
    getD es name = .string s ↔ lookup (.name name) es = some (.string s) := by
  unfold getD
  cases lookup (.name name) es <;> simp

/-- If no key is there twice, the order of the entries makes no difference for what a key has. -/
theorem lookup_of_perm {es fs : Entries} (hkeys : (es.map Prod.fst).Nodup) (h : es.Perm fs)
    (key : Key) : lookup key es = lookup key fs := by
  have hkeys' : (fs.map Prod.fst).Nodup := (h.map Prod.fst).nodup_iff.mp hkeys
  apply Option.ext
  intro v
  constructor
  · exact fun hv => lookup_of_mem hkeys' (h.mem_iff.mp (mem_of_lookup hv))
  · exact fun hv => lookup_of_mem hkeys (h.mem_iff.mpr (mem_of_lookup hv))

section Related

variable {R : Value → Value → Prop} {es fs : Entries}

/-- Entries of which one has another value. -/
theorem forall₂_of_replaced (hrefl : ∀ v, R v v) {key : Key} {v w : Value} (h : R v w)
    (before after : Entries) : List.Forall₂ (fun e f => e.1 = f.1 ∧ R e.2 f.2)
      (before ++ (key, v) :: after) (before ++ (key, w) :: after) := by
  have hself : ∀ es : Entries, List.Forall₂ (fun e f => e.1 = f.1 ∧ R e.2 f.2) es es := fun es =>
    List.forall₂_same.mpr fun e _ => ⟨rfl, hrefl e.2⟩
  exact List.rel_append (hself before) (.cons ⟨rfl, h⟩ (hself after))

/-- Entries with the same keys and related values have related values under each key. -/
theorem lookup_rel_of_forall₂
    (h : List.Forall₂ (fun e f => e.1 = f.1 ∧ R e.2 f.2) es fs) (key : Key) :
    Option.Rel R (lookup key es) (lookup key fs) := by
  induction h with
  | nil => exact .none
  | @cons e f es fs hhead _ ih =>
    obtain ⟨k, v⟩ := e
    obtain ⟨k', w⟩ := f
    obtain ⟨rfl : k = k', hR⟩ := hhead
    by_cases hk : k = key
    · simpa [lookup, hk] using Option.Rel.some hR
    · simpa [lookup, hk] using ih

end Related

/-- The fields under names. -/
def fieldsOf (entries : Entries) : List (String × Value) :=
  entries.filterMap fun e =>
    match e.1 with
    | .name s => some (s, e.2)
    | _ => none

theorem named_fieldsOf {entries : Entries} (h : ∀ e ∈ entries, ∃ s, e.1 = .name s) :
    named (fieldsOf entries) = entries := by
  induction entries with
  | nil => rfl
  | cons e entries ih =>
    obtain ⟨s, hs⟩ := h e List.mem_cons_self
    obtain ⟨k, v⟩ := e
    cases hs
    have hrest := ih fun e he => h e (List.mem_cons_of_mem _ he)
    simp [fieldsOf] at hrest ⊢
    exact hrest

theorem exists_name_of_mem_named (fields : List (String × Value)) :
    ∀ e ∈ named fields, ∃ s, e.1 = Key.name s := by
  intro e he
  obtain ⟨field, -, rfl⟩ := List.mem_map.mp he
  exact ⟨field.1, rfl⟩

/-- What holds of an entry and of those that are there holds of all when the entry is put. -/
theorem forall_mem_put {good : Key × Value → Prop} {key : Key} {v : Value} {es : Entries}
    (hv : good (key, v)) (hes : ∀ e ∈ es, good e) : ∀ e ∈ put key v es, good e := by
  induction es with
  | nil => simpa [put] using hv
  | cons e es ih =>
    obtain ⟨k, w⟩ := e
    rw [List.forall_mem_cons] at hes
    by_cases hk : k = key
    · rw [put, if_pos hk, List.forall_mem_cons, hk]
      exact ⟨hv, hes.2⟩
    · rw [put, if_neg hk, List.forall_mem_cons]
      exact ⟨hes.1, ih hes.2⟩

theorem exists_name_of_mem_put {key : String} {v : Value} {es : Entries}
    (h : ∀ e ∈ es, ∃ s, e.1 = .name s) : ∀ e ∈ put (.name key) v es, ∃ s, e.1 = Key.name s :=
  forall_mem_put ⟨key, rfl⟩ h

theorem put_of_lookup_eq_none {key : Key} {v : Value} {es : Entries} (h : lookup key es = none) :
    put key v es = es ++ [(key, v)] := by
  induction es with
  | nil => rfl
  | cons e es ih =>
    obtain ⟨k, w⟩ := e
    by_cases hk : k = key
    · simp [lookup, hk] at h
    · simp only [lookup, hk, if_false] at h
      simp [put, hk, ih h]

/-- The keys after an entry is set: a new key comes last. -/
def keysWith (key : Key) (keys : List Key) : List Key :=
  if key ∈ keys then keys else keys ++ [key]

theorem keys_put (key : Key) (v : Value) (es : Entries) :
    (put key v es).map Prod.fst = keysWith key (es.map Prod.fst) := by
  induction es with
  | nil => rfl
  | cons e es ih =>
    obtain ⟨k, w⟩ := e
    by_cases hk : k = key
    · simp [put, keysWith, hk]
    · simp only [put, hk, if_false, List.map_cons, ih, keysWith, List.mem_cons, Ne.symm hk,
        false_or]
      split <;> rfl

theorem mem_keysWith {key other : Key} {keys : List Key} (h : other ∈ keys) :
    other ∈ keysWith key keys := by
  rw [keysWith]
  split
  · exact h
  · exact List.mem_append_left _ h

theorem put_named_of_not_mem {name : String} {v : Value} {fields : List (String × Value)}
    (h : name ∉ fields.map Prod.fst) :
    put (.name name) v (named fields) = named (fields ++ [(name, v)]) := by
  rw [put_of_lookup_eq_none (lookup_named_eq_none h), named_append]
  rfl

theorem isJson_object {es : Entries} : (Value.object es).isJson = true ↔
    ∀ e ∈ es, (∃ s, e.1 = .name s) ∧ e.2.isJson = true := by
  rw [isJson]
  induction es with
  | nil => simp [isJsonEntries]
  | cons e es ih =>
    obtain ⟨k, v⟩ := e
    cases k <;> simp [isJsonEntries, ih]

theorem isJson_list {vs : List Value} :
    (Value.list vs).isJson = true ↔ ∀ v ∈ vs, v.isJson = true := by
  rw [isJson]
  induction vs with
  | nil => simp [isJsonList]
  | cons v vs ih => simp [isJsonList, ih]

theorem isJson_of_lookup {es : Entries} {key : Key} {v : Value}
    (h : (Value.object es).isJson = true) (hv : lookup key es = some v) : v.isJson = true :=
  (isJson_object.mp h _ (mem_of_lookup hv)).2

end Value
end ExtractionSchema
