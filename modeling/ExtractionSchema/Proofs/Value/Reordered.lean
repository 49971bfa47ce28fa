import ExtractionSchema.Proofs.Value.Equality

/-!
# Values with their entries in another order

The entries of the objects within a value can stand in another order. Nothing that is looked up by
its key is changed by that, and no value means the same as a document in the one order and not in
the other.

* `Value.Reordered` relates a value and those that it becomes.
* `Value.Reordered.equals_eq`: equality by meaning does not look at the order.
-/

namespace ExtractionSchema.Value

/-! ## Reordered values -/

mutual

/-- A value becomes another when the entries of objects within it are permuted, at any depth. -/
inductive Reordered : Value → Value → Prop
  | same {v : Value} : Reordered v v
  | list {vs ws : List Value} (each : AllReordered vs ws) : Reordered (.list vs) (.list ws)
  | object {es mid fs : List (Key × Value)} (each : EntriesReordered es mid) (order : mid.Perm fs) :
      Reordered (.object es) (.object fs)

/-- Values that are reordered place by place. -/
inductive AllReordered : List Value → List Value → Prop
  | nil : AllReordered [] []
  | cons {v w : Value} {vs ws : List Value} (head : Reordered v w) (tail : AllReordered vs ws) :
      AllReordered (v :: vs) (w :: ws)

/-- Entries with the same keys, place by place, and reordered values. -/
inductive EntriesReordered : List (Key × Value) → List (Key × Value) → Prop
  | nil : EntriesReordered [] []
  | cons {key : Key} {v w : Value} {es fs : List (Key × Value)} (head : Reordered v w)
      (tail : EntriesReordered es fs) : EntriesReordered ((key, v) :: es) ((key, w) :: fs)

end

theorem AllReordered.forall₂ {vs ws : List Value} (h : AllReordered vs ws) :
    List.Forall₂ Reordered vs ws := by
  induction vs generalizing ws with
  | nil =>
    cases h
    exact .nil
  | cons v vs ih =>
    cases h with
    | cons head tail => exact .cons head (ih tail)

theorem EntriesReordered.forall₂ {es fs : Entries} (h : EntriesReordered es fs) :
    List.Forall₂ (fun e f => e.1 = f.1 ∧ Reordered e.2 f.2) es fs := by
  induction es generalizing fs with
  | nil =>
    cases h
    exact .nil
  | cons e es ih =>
    cases h with
    | cons head tail => exact .cons ⟨rfl, head⟩ (ih tail)

/-! ## Reordered objects -/

/-- Entries that take the places of others: the same keys, in another order, with reordered
values. -/
structure EntriesMoved (es fs : Entries) : Prop where
  keys : (es.map Prod.fst).Perm (fs.map Prod.fst)
  values : ∀ key, Option.Rel Reordered (lookup key es) (lookup key fs)

theorem EntriesReordered.moved {es mid fs : Entries} (hkeys : (es.map Prod.fst).Nodup)
    (each : EntriesReordered es mid) (order : mid.Perm fs) : EntriesMoved es fs := by
  have hsame : es.map Prod.fst = mid.map Prod.fst :=
    map_eq_map_of_forall₂ each.forall₂ fun hef => hef.1
  constructor
  · rw [hsame]
    exact order.map _
  · intro key
    rw [← lookup_of_perm (hsame ▸ hkeys) order]
    exact lookup_rel_of_forall₂ each.forall₂ key

/-! ## Equality by meaning -/

theorem areBytes_reordered {content : List UInt8} {vs ws : List Value}
    (h : AllReordered vs ws) : areBytes content vs = areBytes content ws := by
  induction content generalizing vs ws with
  | nil => cases h <;> rfl
  | cons b content ih =>
    cases h with
    | nil => rfl
    | @cons v w vs ws head tail =>
      cases head with
      | same =>
        cases v with
        | number n => rw [areBytes, areBytes, ih tail]
        | _ => rfl
      | list => rfl
      | object => rfl

mutual

/-- A value means the same as a document exactly when it means the same as the reordered one. -/
theorem Reordered.equals_eq : (u : Value) → {v w : Value} → v.isDocument = true →
    Reordered v w → u.equals v = u.equals w
  | .list us, v, w, hv, h => by
    cases h with
    | same => rfl
    | list each =>
      rw [equals, equals]
      exact AllReordered.equalsAll_eq us (isDocument_list.mp hv) each
    | object => rfl
  | .object es, v, w, hv, h => by
    cases h with
    | same => rfl
    | list => rfl
    | object each order =>
      obtain ⟨hkeys, hentries⟩ := isDocument_object.mp hv
      have hmoved := each.moved hkeys order
      have hlength := hmoved.keys.length_eq
      rw [List.length_map, List.length_map] at hlength
      rw [equals, equals, hlength, EntriesMoved.equalsWithin_eq es hentries hmoved]
  | .pair x y, v, w, hv, h => by
    cases h with
    | same => rfl
    | list each =>
      -- only a list of two can mean the same as a pair
      rcases each with _ | ⟨hfirst, _ | ⟨hsecond, _ | ⟨hthird, hrest⟩⟩⟩
      · rfl
      · rfl
      · have hitems := isDocument_list.mp hv
        rw [equals, equals]
        simp only [sequence?, Reordered.equals_eq x (hitems _ (by simp)) hfirst,
          Reordered.equals_eq y (hitems _ (by simp)) hsecond]
      · rfl
    | object => rfl
  | .foreign (.bytes content), v, w, _, h => by
    cases h with
    | same => rfl
    | list each => simp [equals, sequence?, areBytes_reordered each]
    | object => rfl
  | .null, _, _, _, h | .bool _, _, _, _, h | .number _, _, _, _, h | .string _, _, _, _, h
  | .foreign (.date _), _, _, _, h | .foreign (.moment _), _, _, _, h | .set _, _, _, _, h
  | .enclosing _, _, _, _, h => by cases h <;> simp [equals]

theorem AllReordered.equalsAll_eq : (us : List Value) → {vs ws : List Value} →
    (∀ v ∈ vs, v.isDocument = true) → AllReordered vs ws → equalsAll us vs = equalsAll us ws
  | [], _, _, _, h => by cases h <;> rfl
  | u :: us, _, _, hvs, h => by
    cases h with
    | nil => rfl
    | cons head tail =>
      rw [List.forall_mem_cons] at hvs
      rw [equalsAll, equalsAll, Reordered.equals_eq u hvs.1 head,
        AllReordered.equalsAll_eq us hvs.2 tail]

theorem EntriesMoved.equalsWithin_eq : (es : List (Key × Value)) → {fs gs : Entries} →
    (∀ f ∈ fs, (∃ s, f.1 = .name s) ∧ f.2.isDocument = true) → EntriesMoved fs gs →
      equalsWithin es fs = equalsWithin es gs
  | [], _, _, _, _ => rfl
  | (key, u) :: es, fs, gs, hfs, h => by
    have hnames : ∀ k ∈ fs.map Prod.fst, ∃ s, k = .name s :=
      List.forall_mem_map.mpr fun f hf => (hfs f hf).1
    have hnames' : ∀ g ∈ gs, ∃ s, g.1 = .name s := by
      intro g hg
      exact hnames _ (h.keys.mem_iff.mpr (List.mem_map_of_mem hg))
    have hrest := EntriesMoved.equalsWithin_eq es hfs h
    have hdocument : ∀ v, lookup key fs = some v → v.isDocument = true := fun _ hv =>
      (hfs _ (mem_of_lookup hv)).2
    have hvalue := h.values key
    rw [equalsWithin, equalsWithin, hrest, lookupSame_of_names fun f hf => (hfs f hf).1,
      lookupSame_of_names hnames']
    generalize lookup key fs = found, lookup key gs = found' at hdocument hvalue ⊢
    cases hvalue with
    | none => rfl
    | some hvw => simp only [Reordered.equals_eq u (hdocument _ rfl) hvw]

end

end ExtractionSchema.Value
