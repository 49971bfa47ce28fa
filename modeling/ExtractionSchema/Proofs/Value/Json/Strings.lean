import ExtractionSchema.Value.Json.Reader

/-!
# Strings in JSON text

A string is written character by character, and each character is read back as the code unit that
it is, whether it stands for itself, after a backslash or as four hexadecimal digits. No code unit
of a text is half of a pair, so the units join to the characters of the text.

* `Json.readUnits_jsonChar`: one character is read back, whatever follows it.
* `Json.readString_written`: a written string is read back.
-/

namespace ExtractionSchema

namespace Json

/-! ## Code units -/

/-- No character is half of a pair. -/
theorem not_isHalf_toNat (c : Char) : ¬ (0xD800 ≤ c.toNat ∧ c.toNat ≤ 0xDFFF) := by
  rintro ⟨hlow, hhigh⟩
  rcases c.valid with hlt | ⟨hlt, -⟩
  · exact Nat.not_lt.mpr hlow hlt
  · exact Nat.not_lt.mpr hhigh hlt

theorem unitChar_toNat (c : Char) : joinUnits.unitChar c.toNat = c := by
  rw [joinUnits.unitChar, if_neg (not_isHalf_toNat c), Char.ofNat_toNat]

theorem joinUnits_map_toNat (cs : List Char) : joinUnits (cs.map Char.toNat) = cs := by
  induction cs with
  | nil => rfl
  | cons c cs ih =>
    cases cs with
    | nil => rw [List.map_singleton, joinUnits, unitChar_toNat]
    | cons d cs =>
      have hpair : ¬ (0xD800 ≤ c.toNat ∧ c.toNat ≤ 0xDBFF ∧ 0xDC00 ≤ d.toNat ∧
          d.toNat ≤ 0xDFFF) := by
        have hhalf := not_isHalf_toNat c
        omega
      rw [List.map_cons, List.map_cons, joinUnits, if_neg hpair, unitChar_toNat, ← List.map_cons,
        ih]

/-! ## Characters -/

/-- The four digits of a small code unit are read back. -/
theorem hex4_hexDigits {n : Nat} (h : n < 0x20) : ∃ a b c d : Char,
    Text.hexDigits 4 n = [a, b, c, d] ∧ hex4 a b c d = some n := by
  refine ⟨_, _, _, _, rfl, ?_⟩
  revert n
  decide

/-- A character that stands for itself in a string is read as itself. -/
theorem readUnits_plain (start : Nat) (done : List Nat) {c : Char} (rest : List Char)
    (hquote : c ≠ '"') (hescape : c ≠ '\\') (hcontrol : ¬ c.toNat < 0x20) :
    readUnits start done (c :: rest) = readUnits start (c.toNat :: done) rest := by
  rw [readUnits, if_neg hcontrol]
  all_goals grind

/-- A character is read back as its code unit. -/
theorem readUnits_jsonChar (start : Nat) (done : List Nat) (c next : Char) (rest : List Char) :
    readUnits start done (Value.jsonChar c ++ next :: rest) =
      readUnits start (c.toNat :: done) (next :: rest) := by
  unfold Value.jsonChar
  -- the seven characters with an escape of their own
  iterate 7
    split
    · rename_i h
      subst h
      rfl
  split
  · rename_i hcontrol
    obtain ⟨a, b, d, e, hdigits, hvalue⟩ := hex4_hexDigits hcontrol
    rw [hdigits]
    exact readUnits.eq_3 start done a b d e next rest c.toNat hvalue
  · rename_i hquote hescape _ _ _ _ _ hcontrol
    exact readUnits_plain start done (next :: rest) hquote hescape hcontrol

/-- The characters of a written string are read back up to the closing quote. -/
theorem readUnits_flatMap (start : Nat) (done : List Nat) (cs rest : List Char) :
    readUnits start done (cs.flatMap Value.jsonChar ++ '"' :: rest) =
      .ok (done.reverse ++ cs.map Char.toNat, rest) := by
  induction cs generalizing done with
  | nil => simp [readUnits]
  | cons c cs ih =>
    -- Something always follows the character: at least the closing quote.
    obtain ⟨next, more, hmore⟩ : ∃ next more, cs.flatMap Value.jsonChar ++ '"' :: rest =
        next :: more := List.exists_cons_of_ne_nil (by simp)
    rw [List.flatMap_cons, List.append_assoc, hmore, readUnits_jsonChar, ← hmore, ih]
    simp

/-- A written string is read back. -/
theorem readString_written (s : String) (rest : List Char) :
    readString (s.toList.flatMap Value.jsonChar ++ '"' :: rest) = .ok (s, rest) := by
  rw [readString, readUnits_flatMap]
  simp only [List.reverse_nil, List.nil_append]
  change Except.ok (String.ofList (joinUnits (s.toList.map Char.toNat)), rest) = _
  rw [joinUnits_map_toNat, String.ofList_toList]

end Json

end ExtractionSchema
