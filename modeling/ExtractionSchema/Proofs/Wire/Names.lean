import ExtractionSchema.Proofs.Value.Document
import ExtractionSchema.Proofs.Wire.Reads
import Mathlib.Data.List.Nodup

/-!
# Names of children

An object holds its children by name, each name once. A tree that is read from a JSON document is
like that, since each key of the document is a name and stands there once.

* `Node.hasDistinctNames` decides it for a node and all its parts.
* `Tree.hasDistinctNames_of_ofValue`: every tree that is read from a JSON document is like that.
-/

namespace ExtractionSchema.Wire

mutual

/-- Whether the children of every object within a node have distinct names. -/
def Node.hasDistinctNames : Node → Bool
  | .primitive _ _ _ | .unknown _ _ _ => true
  | .array _ items => items.hasDistinctNames
  | .object _ properties _ _ =>
    decide (properties.map Prod.fst).Nodup && haveDistinctNames properties

/-- Whether the children of every object within some children have distinct names. -/
def haveDistinctNames : Properties → Bool
  | [] => true
  | (_, node) :: rest => node.hasDistinctNames && haveDistinctNames rest

end

theorem haveDistinctNames_iff {kids : Properties} :
    haveDistinctNames kids = true ↔ ∀ kid ∈ kids, kid.2.hasDistinctNames = true := by
  induction kids with
  | nil => simp [haveDistinctNames]
  | cons kid kids ih => simp [haveDistinctNames, ih]

theorem Node.hasDistinctNames_object {about : Presentation} {kids : Properties}
    {required : List String} {more : Option Bool} :
    (Node.object about kids required more).hasDistinctNames = true ↔
      (kids.map Prod.fst).Nodup ∧ ∀ kid ∈ kids, kid.2.hasDistinctNames = true := by
  rw [Node.hasDistinctNames, Bool.and_eq_true, decide_eq_true_iff, haveDistinctNames_iff]

/-! ## Names that were read -/

theorem ReadsAll.map_fst {es : Value.Entries} {children : List (Key × Node)}
    (h : ReadsAll es children) : children.map Prod.fst = es.map Prod.fst := by
  induction es generalizing children with
  | nil =>
    cases h
    rfl
  | cons e es ih =>
    cases h with
    | cons _ hrest => rw [List.map_cons, List.map_cons, ih hrest]

/-- Keys that are names are read as they are. -/
theorem map_name_of_namedEntries {α : Type} {es : List (Key × α)} {entries : List (String × α)}
    (hnames : ∀ e ∈ es, ∃ s, e.1 = .name s) (h : namedEntries es = .ok entries) :
    entries.map (fun entry => Key.name entry.1) = es.map Prod.fst := by
  induction es generalizing entries with
  | nil =>
    cases h
    rfl
  | cons e es ih =>
    obtain ⟨k, a⟩ := e
    rw [List.forall_mem_cons] at hnames
    obtain ⟨⟨s, hs⟩, hrestNames⟩ := hnames
    dsimp only at hs
    subst hs
    simp only [namedEntries, Checked.seq_eq_ok_iff, Checked.map_eq_ok_iff,
      Checked.under_eq_ok_iff] at h
    obtain ⟨_, rest, ⟨name, hname, rfl⟩, hrest, rfl⟩ := h
    cases hname
    rw [List.map_cons, List.map_cons, ih hrestNames hrest]

/-- The children of an object of a JSON document have distinct names. -/
theorem nodup_names {entries : Value.Entries} {children : List (Key × Node)} {kids : Properties}
    (hd : (Value.object entries).isDocument = true) (hchildren : ReadsAll entries children)
    (hkids : childNames children = .ok kids) : (kids.map Prod.fst).Nodup := by
  obtain ⟨hkeys, hall⟩ := Value.isDocument_object.mp hd
  rw [← hchildren.map_fst] at hkeys
  rw [childNames, Checked.under_eq_ok_iff] at hkids
  have hnames : ∀ child ∈ children, ∃ s, child.1 = .name s := by
    intro child hchild
    have hkey : child.1 ∈ entries.map Prod.fst := by
      rw [← hchildren.map_fst]
      exact List.mem_map_of_mem hchild
    obtain ⟨e, he, heq⟩ := List.mem_map.mp hkey
    rw [← heq]
    exact (hall e he).1
  rw [← map_name_of_namedEntries hnames hkids] at hkeys
  refine List.Nodup.of_map Key.name ?_
  rwa [List.map_map]

theorem isDocument_members {entries : Value.Entries}
    (h : (Value.object entries).isDocument = true) :
    (Value.object (members entries)).isDocument = true := by
  rcases members_eq_nil_or entries with hnil | hlookup
  · rw [hnil]
    rfl
  · exact Value.isDocument_of_lookup h hlookup

mutual

theorem Reads.hasDistinctNames : {v : Value} → {node : Node} → Reads v node →
    v.isDocument = true → node.hasDistinctNames = true
  | _, _, .primitive _ _ _, _ => rfl
  | _, _, .array _ _ hlookup hitems, hv =>
    hitems.hasDistinctNames (Value.isDocument_of_lookup hv hlookup)
  | _, _, .object _ _ hchildren hkids _ _, hv => by
    have hmembers := isDocument_members hv
    refine Node.hasDistinctNames_object.mpr ⟨nodup_names hmembers hchildren hkids, ?_⟩
    intro kid hkid
    obtain ⟨child, hchild, heq⟩ := mem_of_childNames hkids kid hkid
    rw [← heq]
    refine hchildren.hasDistinctNames (fun e he => ?_) child hchild
    exact ((Value.isDocument_object.mp hmembers).2 e he).2
  | _, _, .unknown _ _ _ _ _ _ _, _ => rfl

theorem ReadsAll.hasDistinctNames : {es : Value.Entries} → {children : List (Key × Node)} →
    ReadsAll es children → (∀ e ∈ es, e.2.isDocument = true) →
      ∀ child ∈ children, child.2.hasDistinctNames = true
  | _, _, .nil, _ => by simp
  | _, _, .cons hfirst hrest, hes => by
    rw [List.forall_mem_cons] at hes ⊢
    exact ⟨hfirst.hasDistinctNames hes.1, hrest.hasDistinctNames hes.2⟩

end

/-- In a tree that is read from a JSON document, the children of each object have distinct names. -/
theorem Tree.hasDistinctNames_of_ofValue {d : Value} {t : Tree} (hd : d.isDocument = true)
    (h : Tree.ofValue d = .ok t) : t.root.hasDistinctNames = true :=
  (Tree.reads_of_ofValue h).hasDistinctNames hd

end ExtractionSchema.Wire
