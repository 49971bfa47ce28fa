import ExtractionSchema.Proofs.Value.Document
import ExtractionSchema.Proofs.Value.Entries
import ExtractionSchema.Value.Equality
import Mathlib.Data.List.Perm.Subperm

/-!
# Equality with JSON documents

A value means the same as a JSON document when they are alike: numbers of the same value, lists that
are alike place by place, and objects that have the same keys and are alike under each of them. A
truth value is like no number. Of the values that only YAML can write, a pair is like a list of two,
bytes are like the list of their numbers, and all others are like no document.

* `Value.Alike` says this by recursion on the value.
* `Value.equals_iff_alike`: equality by meaning decides it.
-/

namespace ExtractionSchema.Value

mutual

/-- Whether a value is alike a document. -/
def Alike : Value → Value → Prop
  | .null, w => w = .null
  | .bool b, w => w = .bool b
  | .number m, w => ∃ n, w = .number n ∧ m.Alike n
  | .string s, w => w = .string s
  | .list vs, w => ∃ ws, w = .list ws ∧ AlikeAll vs ws
  | .object es, w =>
    ∃ fs, w = .object fs ∧ (∀ key, (lookup key es).isSome = (lookup key fs).isSome) ∧
      AlikeUnder es fs
  | .pair first second, w => ∃ u v, w = .list [u, v] ∧ Alike first u ∧ Alike second v
  | .foreign (.bytes content), w =>
    ∃ ns, w = .list (ns.map .number) ∧
      List.Forall₂ (fun b n => Number.Alike n (.int (UInt8.toNat b))) content ns
  | .foreign (.date _), _ | .foreign (.moment _), _ | .set _, _ | .enclosing _, _ => False

/-- Whether a list is alike another, place by place. -/
def AlikeAll : List Value → List Value → Prop
  | [], ws => ws = []
  | v :: vs, ws => ∃ w rest, ws = w :: rest ∧ Alike v w ∧ AlikeAll vs rest

/-- Whether each entry is alike what stands under its key in other entries. -/
def AlikeUnder : List (Key × Value) → List (Key × Value) → Prop
  | [], _ => True
  | (key, v) :: es, fs => (∀ w, lookup key fs = some w → Alike v w) ∧ AlikeUnder es fs

end

/-! ## Objects -/

theorem same_name (s : String) (key : Key) :
    (Key.name s).same key = decide (Key.name s = key) := by
  cases key <;> rfl

theorem lookupSame_of_names {key : Key} {fs : Entries} (h : ∀ f ∈ fs, ∃ s, f.1 = Key.name s) :
    lookupSame key fs = lookup key fs := by
  induction fs with
  | nil => rfl
  | cons f fs ih =>
    obtain ⟨k, w⟩ := f
    obtain ⟨s, rfl⟩ : ∃ s, k = Key.name s := h _ List.mem_cons_self
    have hrest := ih fun f hf => h f (List.mem_cons_of_mem _ hf)
    simp only [lookupSame, List.find?_cons, same_name, lookup] at hrest ⊢
    by_cases hk : Key.name s = key
    · simp [hk]
    · simp [hk, hrest]

/-- Objects of the same size of which one has all keys of the other have the same keys. -/
theorem sameKeys_iff {es fs : Entries} (hes : (es.map Prod.fst).Nodup)
    (hfs : (fs.map Prod.fst).Nodup) :
    (es.length = fs.length ∧ ∀ e ∈ es, (lookup e.1 fs).isSome = true) ↔
      ∀ key, (lookup key es).isSome = (lookup key fs).isSome := by
  have hsub : (∀ e ∈ es, (lookup e.1 fs).isSome = true) ↔
      es.map Prod.fst ⊆ fs.map Prod.fst := by
    simp only [isSome_lookup_iff, List.subset_def, List.forall_mem_map]
  rw [hsub]
  constructor
  · rintro ⟨hlength, hsub⟩ key
    have hperm : (es.map Prod.fst).Perm (fs.map Prod.fst) :=
      (List.subperm_of_subset hes hsub).perm_of_length_le (by simp [hlength])
    rw [Bool.eq_iff_iff, isSome_lookup_iff, isSome_lookup_iff]
    exact hperm.mem_iff
  · intro hkeys
    have hmem : ∀ key, key ∈ es.map Prod.fst ↔ key ∈ fs.map Prod.fst := by
      intro key
      rw [← isSome_lookup_iff, ← isSome_lookup_iff, hkeys key]
    have hperm := (List.perm_ext_iff_of_nodup hes hfs).mpr hmem
    exact ⟨by simpa using hperm.length_eq, fun key hkey => (hmem key).mp hkey⟩

/-! ## Equality by meaning -/

theorem areBytes_iff {content : List UInt8} {ws : List Value} :
    areBytes content ws = true ↔ ∃ ns, ws = ns.map .number ∧
      List.Forall₂ (fun b n => Number.Alike n (.int (UInt8.toNat b))) content ns := by
  induction content generalizing ws with
  | nil => cases ws <;> simp [areBytes]
  | cons b content ih =>
    cases ws with
    | nil => simp [areBytes]
    | cons w ws =>
      cases w with
      | number n =>
        have hsame : n.same (.int b.toNat) = true ↔ n.Alike (.int b.toNat) :=
          Number.same_iff rfl
        rw [areBytes, Bool.and_eq_true, hsame, ih]
        constructor
        · rintro ⟨hn, ns, rfl, hns⟩
          exact ⟨n :: ns, rfl, .cons hn hns⟩
        · rintro ⟨ns, hlist, hns⟩
          cases hns with
          | cons hn hns =>
            obtain ⟨rfl, rfl⟩ : n = _ ∧ ws = _ := by simpa using hlist
            exact ⟨hn, _, rfl, hns⟩
      | _ =>
        refine iff_of_false (by simp [areBytes]) ?_
        rintro ⟨_ | ⟨n, ns⟩, hlist, -⟩ <;> simp at hlist

mutual

/-- Equality by meaning decides whether a value is alike a document. -/
theorem equals_iff_alike : (v w : Value) → v.hasDistinctKeys = true → w.isDocument = true →
    (v.equals w = true ↔ v.Alike w)
  | .null, w, _, _ => by cases w <;> simp [equals, Alike]
  | .bool b, w, _, _ => by cases w <;> simp [equals, Alike, eq_comm]
  | .string s, w, _, _ => by cases w <;> simp [equals, Alike, eq_comm]
  | .number m, w, _, hw => by
    cases w with
    | number n =>
      rw [isDocument] at hw
      simp [equals, Alike, Number.same_iff hw]
    | _ => simp [equals, Alike]
  | .list vs, w, hv, hw => by
    cases w with
    | list ws =>
      have hall := equalsAll_iff vs ws (hasDistinctKeys_list.mp hv) (isDocument_list.mp hw)
      simp [equals, sequence?, Alike, hall]
    | pair | foreign => simp [isDocument] at hw
    | _ => simp [equals, sequence?, Alike]
  | .object es, w, hv, hw => by
    cases w with
    | object fs =>
      obtain ⟨hes, hvs⟩ := hasDistinctKeys_object.mp hv
      obtain ⟨hfs, hws⟩ := isDocument_object.mp hw
      have hwithin := equalsWithin_iff es fs hvs hws
      have hkeys := sameKeys_iff hes hfs
      simp only [equals, Alike, Bool.and_eq_true, decide_eq_true_eq, hwithin, ← and_assoc, hkeys]
      simp
    | _ => simp [equals, Alike]
  | .pair first second, w, hv, hw => by
    obtain ⟨hfirst, hsecond⟩ := hasDistinctKeys_pair.mp hv
    cases w with
    | list ws =>
      rcases ws with _ | ⟨u, _ | ⟨v, _ | _⟩⟩
      · simp [equals, sequence?, Alike]
      · simp [equals, sequence?, Alike]
      · have hws := isDocument_list.mp hw
        have hu := equals_iff_alike first u hfirst (hws u (by simp))
        have hv := equals_iff_alike second v hsecond (hws v (by simp))
        simp [equals, sequence?, Alike, hu, hv]
      · simp [equals, sequence?, Alike]
    | pair | foreign => simp [isDocument] at hw
    | _ => simp [equals, sequence?, Alike]
  | .foreign (.bytes content), w, _, hw => by
    cases w with
    | list ws => simp [equals, sequence?, Alike, areBytes_iff]
    | pair | foreign => simp [isDocument] at hw
    | _ => simp [equals, sequence?, Alike]
  | .foreign (.date _), w, _, hw | .foreign (.moment _), w, _, hw | .set _, w, _, hw => by
    cases w with
    | foreign | set => simp [isDocument] at hw
    | _ => simp [equals, Alike]
  | .enclosing _, w, _, _ => by cases w <;> simp [equals, Alike]

theorem equalsAll_iff : (vs ws : List Value) → (∀ v ∈ vs, v.hasDistinctKeys = true) →
    (∀ w ∈ ws, w.isDocument = true) → (equalsAll vs ws = true ↔ AlikeAll vs ws)
  | [], ws, _, _ => by cases ws <;> simp [equalsAll, AlikeAll]
  | v :: vs, [], _, _ => by simp [equalsAll, AlikeAll]
  | v :: vs, w :: ws, hv, hw => by
    have hhead := equals_iff_alike v w (hv v List.mem_cons_self) (hw w List.mem_cons_self)
    have htail := equalsAll_iff vs ws (fun u hu => hv u (List.mem_cons_of_mem _ hu))
      fun u hu => hw u (List.mem_cons_of_mem _ hu)
    simp [equalsAll, AlikeAll, hhead, htail]

theorem equalsWithin_iff : (es fs : Entries) → (∀ e ∈ es, e.2.hasDistinctKeys = true) →
    (∀ f ∈ fs, (∃ s, f.1 = .name s) ∧ f.2.isDocument = true) →
    (equalsWithin es fs = true ↔
      (∀ e ∈ es, (lookup e.1 fs).isSome = true) ∧ AlikeUnder es fs)
  | [], fs, _, _ => by simp [equalsWithin, AlikeUnder]
  | (k, v) :: es, fs, hes, hfs => by
    have hv := hes (k, v) List.mem_cons_self
    have htail := equalsWithin_iff es fs (fun e he => hes e (List.mem_cons_of_mem _ he)) hfs
    rw [equalsWithin, lookupSame_of_names fun f hf => (hfs f hf).1, Bool.and_eq_true, htail]
    cases hlookup : lookup k fs with
    | none => simp [hlookup]
    | some w =>
      have hw := (hfs _ (mem_of_lookup hlookup)).2
      have hhead := equals_iff_alike v w hv hw
      simp only [List.forall_mem_cons, hlookup, Option.isSome_some, true_and, AlikeUnder,
        Option.some.injEq, forall_eq', hhead]
      tauto

end

end ExtractionSchema.Value
