import ExtractionSchema.Proofs.Value.Json.Numbers
import ExtractionSchema.Record.Validation
import Mathlib.Data.List.SplitBy

/-!
# Paths of locations

A path is a row of pieces, one for each step, and every piece opens with a point or a bracket; only
the point of a first name is left out. If no name is empty or holds one of these characters, the
pieces are found again where they open, and with them the steps.

* `pointed_formatPath`: the pieces of which a path consists.
* `pathPieces_formatPath`: they are found again.
* `formatPath_inj`: plain locations with the same path are the same.
* `formatPath_tells_places`: so are the places of mismatches with the same path.
-/

namespace ExtractionSchema

theorem Step.toList_text_item (i : Nat) : (Step.item i).text.toList = Nat.toDigits 10 i := by
  have hrepr : (Step.item i).text = i.repr := rfl
  rw [hrepr, Nat.repr_eq_ofList_toDigits, String.toList_ofList]

theorem Step.isDigit_of_mem_text {i : Nat} {c : Char} (h : c ∈ (Step.item i).text.toList) :
    isDigit c = true :=
  isDigit_of_mem_toDigits (toList_text_item i ▸ h)

theorem Step.text_item_inj {i j : Nat} (h : (Step.item i).text = (Step.item j).text) : i = j := by
  rw [← digitsValue_toDigits i, ← digitsValue_toDigits j, ← toList_text_item, h, toList_text_item]

theorem extendPath_name_inj {path name name' : String} :
    extendPath path (.name name) = extendPath path (.name name') ↔ name = name' := by
  simp only [extendPath]
  by_cases hempty : path = ""
  · rw [if_pos hempty, if_pos hempty]
  · rw [if_neg hempty, if_neg hempty]
    constructor
    · intro h
      have hlist := congrArg String.toList h
      simp only [String.toList_append] at hlist
      exact String.toList_inj.mp (List.append_cancel_left hlist)
    · rintro rfl
      rfl

theorem formatPath_concat (location : List Step) (step : Step) :
    formatPath (location ++ [step]) = extendPath (formatPath location) step := by
  rw [formatPath, formatPath, List.foldl_append]
  rfl

/-! ## Pieces -/

/-- A plain step is an index that is not negative, or a name that is not empty and holds no point and
no opening bracket. -/
def Step.IsPlain : Step → Prop
  | .index i => 0 ≤ i
  | .flag _ => True
  | .name s => s ≠ "" ∧ '.' ∉ s.toList ∧ '[' ∉ s.toList

/-- Whether a character opens a piece of a path. -/
def opensPiece (c : Char) : Bool := c = '.' || c = '['

/-- The piece of a path that a step is. -/
def Step.piece : Step → List Char
  | .name s => '.' :: s.toList
  | step => '[' :: (step.text.toList ++ [']'])

/-- The characters of a path, with the point of a first name. -/
def pointed : List Char → List Char
  | [] => []
  | c :: cs => if c = '[' then c :: cs else '.' :: c :: cs

theorem pointed_append {cs ds : List Char} (h : cs ≠ []) : pointed (cs ++ ds) = pointed cs ++ ds := by
  cases cs with
  | nil => exact absurd rfl h
  | cons c cs =>
    rw [List.cons_append, pointed, pointed]
    split <;> rfl

/-- A step adds its piece to a path. -/
theorem pointed_extendPath {path : String} {step : Step} (h : step.IsPlain) :
    pointed (extendPath path step).toList = pointed path.toList ++ step.piece := by
  have hempty : path.toList = [] ↔ path = "" := String.toList_eq_nil_iff
  cases step with
  | name s =>
    obtain ⟨hne, -, hbracket⟩ := h
    rw [extendPath, Step.piece]
    by_cases hpath : path = ""
    · rw [if_pos hpath, hempty.mpr hpath]
      obtain ⟨c, cs, hcs⟩ := List.exists_cons_of_ne_nil (mt String.toList_eq_nil_iff.mp hne)
      have hc : c ≠ '[' := by
        rintro rfl
        exact hbracket (hcs ▸ List.mem_cons_self)
      rw [hcs]
      exact if_neg hc
    · rw [if_neg hpath, String.toList_append, String.toList_append, List.append_assoc,
        pointed_append (mt hempty.mp hpath)]
      rfl
  | index | flag =>
    have hbracketed : ∀ text : String, (path ++ "[" ++ text ++ "]").toList =
        path.toList ++ '[' :: (text.toList ++ [']']) := by
      intro text
      simp [String.toList_append]
    refine (congrArg pointed (hbracketed _)).trans ?_
    by_cases hpath : path = ""
    · rw [hempty.mpr hpath]
      rfl
    · rw [pointed_append (mt hempty.mp hpath)]
      rfl

/-- The path of a plain location consists of the pieces of its steps. -/
theorem pointed_formatPath {steps : List Step} (h : ∀ s ∈ steps, s.IsPlain) :
    pointed (formatPath steps).toList = (steps.map Step.piece).flatten := by
  have hfrom : ∀ path : String, pointed (steps.foldl extendPath path).toList =
      pointed path.toList ++ (steps.map Step.piece).flatten := by
    induction steps with
    | nil => simp
    | cons step steps ih =>
      intro path
      rw [List.forall_mem_cons] at h
      rw [List.foldl_cons, ih h.2, pointed_extendPath h.1, List.append_assoc]
      rfl
  exact hfrom ""

/-! ## Pieces found again -/

theorem opensPiece_of_mem_text {step : Step} (h : step.IsPlain) {c : Char}
    (hc : c ∈ step.text.toList) : opensPiece c = false := by
  have hne : c ≠ '.' ∧ c ≠ '[' := by
    cases step with
    | index i =>
      obtain ⟨n, rfl⟩ := Int.eq_ofNat_of_zero_le h
      have hdigit : isDigit c = true := Step.isDigit_of_mem_text hc
      exact ⟨ne_of_isDigit hdigit rfl, ne_of_isDigit hdigit rfl⟩
    | flag b =>
      have hletters : (Step.flag b).text.toList.all fun c => c != '.' && c != '[' := by
        cases b <;> decide
      simpa using List.all_eq_true.mp hletters c hc
    | name s =>
      obtain ⟨-, hpoint, hbracket⟩ := h
      exact ⟨fun heq => hpoint (heq ▸ hc), fun heq => hbracket (heq ▸ hc)⟩
  simp [opensPiece, hne]

/-- The piece of a plain step opens with its first character and no other one. -/
theorem Step.IsPlain.piece_eq_cons {step : Step} (h : step.IsPlain) :
    ∃ c cs, step.piece = c :: cs ∧ opensPiece c = true ∧ ∀ d ∈ cs, opensPiece d = false := by
  have htext : ∀ d ∈ step.text.toList, opensPiece d = false :=
    fun d hd => opensPiece_of_mem_text h hd
  cases step with
  | name s => exact ⟨'.', s.toList, rfl, rfl, htext⟩
  | index | flag =>
    refine ⟨'[', _, rfl, rfl, fun d hd => ?_⟩
    rcases List.mem_append.mp hd with hd | hd
    · exact htext d hd
    · obtain rfl := List.mem_singleton.mp hd
      rfl

/-- The characters of a path in pieces. -/
def pathPieces (path : String) : List (List Char) :=
  (pointed path.toList).splitBy fun _ c => !opensPiece c

/-- The pieces of the path of a plain location are those of its steps. -/
theorem pathPieces_formatPath {steps : List Step} (h : ∀ s ∈ steps, s.IsPlain) :
    pathPieces (formatPath steps) = steps.map Step.piece := by
  have hpieces : ∀ piece ∈ steps.map Step.piece,
      ∃ c cs, piece = c :: cs ∧ opensPiece c = true ∧ ∀ d ∈ cs, opensPiece d = false := by
    intro piece hpiece
    obtain ⟨step, hstep, rfl⟩ := List.mem_map.mp hpiece
    exact (h step hstep).piece_eq_cons
  rw [pathPieces, pointed_formatPath h]
  apply List.splitBy_flatten
  · intro hnil
    obtain ⟨c, cs, heq, -⟩ := hpieces [] hnil
    cases heq
  · intro piece hpiece
    obtain ⟨c, cs, rfl, -, hcs⟩ := hpieces piece hpiece
    apply List.Pairwise.isChain
    rw [List.pairwise_cons]
    refine ⟨fun d hd => ?_, List.pairwise_of_forall_mem_list fun _ _ d hd => ?_⟩ <;>
      rw [hcs d hd] <;> rfl
  · apply List.Pairwise.isChain
    refine List.pairwise_of_forall_mem_list fun piece hpiece next hnext => ?_
    obtain ⟨c, cs, rfl, -⟩ := hpieces piece hpiece
    obtain ⟨d, ds, rfl, hd, -⟩ := hpieces next hnext
    refine ⟨List.cons_ne_nil c cs, List.cons_ne_nil d ds, ?_⟩
    rw [List.head_cons, hd]
    rfl

/-- An index is not taken for a truth value, whose text holds letters. -/
theorem Step.text_item_ne_flag (i : Nat) (b : Bool) : (Step.item i).text ≠ (Step.flag b).text := by
  intro h
  have hletter : 'e' ∈ (Step.item i).text.toList := by
    rw [h]
    cases b <;> decide
  exact absurd (isDigit_of_mem_text hletter) (by decide)

/-- Plain steps of the same piece are the same. -/
theorem Step.IsPlain.eq_of_piece_eq {s t : Step} (hs : s.IsPlain) (ht : t.IsPlain)
    (h : s.piece = t.piece) : s = t := by
  -- a name opens its piece with a point, all else stands between brackets
  have hbracketed : ∀ cs ds : List Char, '[' :: (cs ++ [']']) = '[' :: (ds ++ [']']) → cs = ds :=
    fun cs ds heq => List.append_cancel_right (List.cons.inj heq).2
  cases s with
  | name s =>
    cases t with
    | name t => exact congrArg Step.name (String.toList_inj.mp (List.cons.inj h).2)
    | index | flag => exact absurd (List.cons.inj h).1 (by decide)
  | index i =>
    obtain ⟨i, rfl⟩ := Int.eq_ofNat_of_zero_le hs
    cases t with
    | name t => exact absurd (List.cons.inj h).1 (by decide)
    | index j =>
      obtain ⟨j, rfl⟩ := Int.eq_ofNat_of_zero_le ht
      have htext := String.toList_inj.mp (hbracketed _ _ h)
      rw [Step.text_item_inj htext]
    | flag b => exact absurd (String.toList_inj.mp (hbracketed _ _ h)) (text_item_ne_flag i b)
  | flag b =>
    cases t with
    | name t => exact absurd (List.cons.inj h).1 (by decide)
    | index j =>
      obtain ⟨j, rfl⟩ := Int.eq_ofNat_of_zero_le ht
      exact absurd (String.toList_inj.mp (hbracketed _ _ h)).symm (text_item_ne_flag j b)
    | flag b' =>
      have htext := hbracketed _ _ h
      revert htext
      cases b <;> cases b' <;> decide

/-- Plain locations with the same path are the same. -/
theorem formatPath_inj {a b : List Step} (ha : ∀ s ∈ a, s.IsPlain) (hb : ∀ s ∈ b, s.IsPlain)
    (h : formatPath a = formatPath b) : a = b := by
  have hpieces : a.map Step.piece = b.map Step.piece := by
    rw [← pathPieces_formatPath ha, ← pathPieces_formatPath hb, h]
  clear h
  induction a generalizing b with
  | nil => exact (List.map_eq_nil_iff.mp hpieces.symm).symm
  | cons s a ih =>
    cases b with
    | nil => cases hpieces
    | cons t b =>
      rw [List.forall_mem_cons] at ha hb
      obtain ⟨hpiece, hrest⟩ := List.cons.inj hpieces
      rw [ha.1.eq_of_piece_eq hb.1 hpiece, ih ha.2 hb.2 hrest]

/-! ## Mismatches -/

/-- The place that the mismatch of a violation tells: its location and, if a field is missing, the
name that is found in the message. -/
def Violation.place (x : Violation) : List Step :=
  match x.breach with
  | .missing _ required =>
    x.location ++ ((namedMissing required x.actual x.message).map Step.name).toList
  | _ => x.location

theorem Violation.path_mismatch (x : Violation) : x.mismatch.path = formatPath x.place := by
  obtain ⟨location, breach, actual⟩ := x
  cases breach <;> rfl

/-- Plain locations have the same path only if they are the same, so that the mismatches of a record
at different places, if these are plain, have different paths. -/
theorem formatPath_tells_places :
    (∀ a b : List Step, (∀ s ∈ a, s.IsPlain) → (∀ s ∈ b, s.IsPlain) →
      (formatPath a = formatPath b ↔ a = b)) ∧
    ∀ (c : Contract) (record : Value), ∀ x ∈ c.violations record, ∀ y ∈ c.violations record,
      (∀ s ∈ x.place, s.IsPlain) → (∀ s ∈ y.place, s.IsPlain) →
        (x.mismatch.path = y.mismatch.path ↔ x.place = y.place) := by
  have hpaths : ∀ a b : List Step, (∀ s ∈ a, s.IsPlain) → (∀ s ∈ b, s.IsPlain) →
      (formatPath a = formatPath b ↔ a = b) :=
    fun a b ha hb => ⟨formatPath_inj ha hb, congrArg formatPath⟩
  refine ⟨hpaths, fun c record x _ y _ hx hy => ?_⟩
  rw [x.path_mismatch, y.path_mismatch]
  exact hpaths x.place y.place hx hy

/-- A contract for rows of texts, and for a single row whose name looks like that of an item. -/
def rowsContract : Contract :=
  .rules [.fields [("rows", .rules [.items (.rules [.kinds [.string]])]),
    ("rows 0]", .rules [.kinds [.string]])]]

/-- A record without texts. -/
def rowsRecord : Value := .record [("rows", .list [.int 7]), ("rows 0]", .int 7)]

theorem formatPath_tells_places_rows :
    ∃ x ∈ rowsContract.violations rowsRecord, ∃ y ∈ rowsContract.violations rowsRecord,
      x.place = [.name "rows", .item 0] ∧ y.place = [.name "rows 0]"] ∧
        x.mismatch.path ≠ y.mismatch.path := by
  let x : Violation := ⟨[.name "rows", .item 0], .kind [.string], .int 7⟩
  let y : Violation := ⟨[.name "rows 0]"], .kind [.string], .int 7⟩
  have hx : x ∈ rowsContract.violations rowsRecord := List.mem_cons_self
  have hy : y ∈ rowsContract.violations rowsRecord := List.mem_cons_of_mem _ List.mem_cons_self
  have hxplain : ∀ s ∈ x.place, s.IsPlain := by
    simp [x, Violation.place, Step.item, Step.IsPlain]
  have hyplain : ∀ s ∈ y.place, s.IsPlain := by
    simp [y, Violation.place, Step.IsPlain]
  refine ⟨x, hx, y, hy, rfl, rfl, fun hsame => ?_⟩
  have hplace := (formatPath_tells_places.2 _ _ x hx y hy hxplain hyplain).mp hsame
  exact absurd hplace (by decide)

end ExtractionSchema
