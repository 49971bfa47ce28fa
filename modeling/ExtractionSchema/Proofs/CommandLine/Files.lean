import ExtractionSchema.CommandLine.Files
import ExtractionSchema.Document

/-!
# Files that are written and read

A command that writes a file leaves it where its path leads: the file is there, and no folder on the
way is lost, so the same path still leads to it and the content is read. What a file's name tells
about its content depends on the end of the name alone, which is that of the last name on the path.

* `Files.read_save`: a saved content is read.
* `IsJsonName.format_eq`: a file whose name ends in `.json` holds JSON.
-/

namespace ExtractionSchema

/-! ## Names that end in `.json` -/

/-- A path that ends like the name of a JSON document. -/
def IsJsonName (path : String) : Prop := ∃ stem, path = stem ++ ".json"

/-- The last part of a text between slashes ends as the text does. -/
theorem exists_splitOn_append {ending : List Char} (hending : '/' ∉ ending) (cs : List Char) :
    ∃ front last, (cs ++ ending).splitOn '/' = front ++ [last ++ ending] := by
  induction cs with
  | nil =>
    refine ⟨[], [], List.splitOnP_eq_singleton ?_⟩
    intro c hc
    rw [beq_eq_false_iff_ne]
    rintro rfl
    exact hending hc
  | cons c cs ih =>
    obtain ⟨front, last, heq⟩ := ih
    rw [List.splitOn] at heq ⊢
    rw [List.cons_append, List.splitOnP_cons_eq_if_modifyHead, heq]
    split
    · exact ⟨[] :: front, last, rfl⟩
    · cases front with
      | nil => exact ⟨[], c :: last, rfl⟩
      | cons first front => exact ⟨(c :: first) :: front, last, rfl⟩

theorem exists_intercalate_append (separator last : List Char) (front : List (List Char)) :
    ∃ before, separator.intercalate (front ++ [last]) = before ++ last := by
  induction front with
  | nil => exact ⟨[], by simp⟩
  | cons first front ih =>
    obtain ⟨before, heq⟩ := ih
    obtain ⟨next, more, hmore⟩ := List.exists_cons_of_ne_nil
      (show front ++ [last] ≠ [] by simp)
    rw [List.cons_append, hmore, List.intercalate_cons_cons, ← hmore, heq]
    exact ⟨first ++ separator ++ before, by simp⟩

namespace IsJsonName

variable {path : String} (h : IsJsonName path)

include h

theorem exists_parts : ∃ front last, (path.toList.splitOn '/').map String.ofList =
    front ++ [String.ofList (last ++ ".json".toList)] := by
  obtain ⟨stem, rfl⟩ := h
  have hslash : '/' ∉ ".json".toList := by decide
  obtain ⟨front, last, heq⟩ := exists_splitOn_append hslash stem.toList
  refine ⟨front.map String.ofList, last, ?_⟩
  rw [String.toList_append, heq, List.map_append]
  rfl

theorem ne_empty : path ≠ "" := by
  obtain ⟨stem, rfl⟩ := h
  intro heq
  have hlength := congrArg String.length heq
  rw [String.length_append] at hlength
  cases hlength

omit h in
/-- A name that ends in `.json` is none that stands for a folder. -/
theorem last_ne (last : List Char) : String.ofList (last ++ ".json".toList) ≠ "" ∧
    String.ofList (last ++ ".json".toList) ≠ "." := by
  have hlength : (String.ofList (last ++ ".json".toList)).length = last.length + 5 := by
    rw [String.length_ofList, List.length_append]
    rfl
  constructor
  · intro heq
    rw [heq] at hlength
    cases hlength
  · intro heq
    rw [heq] at hlength
    have hone : ".".length = 1 := rfl
    omega

/-- The path as messages tell it ends like the path. -/
theorem exists_text : ∃ before, (Path.read path).text.toList = before ++ ".json".toList := by
  obtain ⟨front, last, hparts⟩ := h.exists_parts
  have hnames : ∃ names, (Path.read path).names =
      names ++ [String.ofList (last ++ ".json".toList)] := by
    refine ⟨front.filter fun n => n ≠ "" && n ≠ ".", ?_⟩
    rw [Path.read, hparts, List.filter_append, List.filter_cons_of_pos (by simpa using last_ne last)]
    rfl
  obtain ⟨names, hnames⟩ := hnames
  obtain ⟨before, hbefore⟩ := exists_intercalate_append "/".toList (last ++ ".json".toList)
    (names.map String.toList)
  have htext : (Path.read path).text.toList =
      (Path.read path).start.toList ++ (before ++ (last ++ ".json".toList)) := by
    rw [Path.text, hnames, if_pos (by simp), String.toList_append, String.toList_intercalate,
      List.map_append, ← hbefore]
    simp
  exact ⟨(Path.read path).start.toList ++ before ++ last, by rw [htext]; simp⟩

theorem endsAsFolder_eq : Files.endsAsFolder path = false := by
  obtain ⟨front, last, hparts⟩ := h.exists_parts
  rw [Files.endsAsFolder, hparts, List.getLast?_concat]
  simpa using last_ne last

theorem format_eq : Document.format (Path.read path).text = .json := by
  obtain ⟨before, htext⟩ := h.exists_text
  have hsuffix : Document.suffix (Path.read path).text = "" ∨
      Document.suffix (Path.read path).text = ".json" := by
    have hlast : (before ++ ".json".toList).reverse.takeWhile (· ≠ '/') =
        "nosj.".toList ++ before.reverse.takeWhile (· ≠ '/') := by
      simp
    have hafter (cs : List Char) : ("nosj.".toList ++ cs).takeWhile (· ≠ '.') = "nosj".toList := by
      simp
    simp only [Document.suffix, htext, hlast, hafter]
    -- a name that starts with its only point has no suffix
    split
    · exact .inl rfl
    · exact .inr (by decide)
  rcases hsuffix with hsuffix | hsuffix <;> rw [Document.format, hsuffix] <;> decide +kernel

end IsJsonName

/-! ## Writing files -/

namespace Files

variable {files : Files} {path name content : String}

theorem mem_map_fst_write {other : String} (h : other ∈ files.map Prod.fst) :
    other ∈ (files.write name content).map Prod.fst := by
  induction files with
  | nil => simp at h
  | cons file files ih =>
    obtain ⟨first, old⟩ := file
    rw [List.map_cons, List.mem_cons] at h
    rw [write]
    split
    · rename_i hname
      subst hname
      exact List.mem_cons.mpr h
    · rcases h with h | h
      · exact List.mem_cons.mpr (.inl h)
      · exact List.mem_cons_of_mem _ (ih h)

theorem hasFolder_iff {folder : String} : files.hasFolder folder = true ↔
    ∃ other ∈ files.map Prod.fst, (folder ++ "/").toList.isPrefixOf other.toList = true := by
  simp [hasFolder]

/-- Writing a file takes no folder away. -/
theorem hasFolder_write {folder : String} (h : files.hasFolder folder = true) :
    (files.write name content).hasFolder folder = true := by
  obtain ⟨other, hmem, hprefix⟩ := hasFolder_iff.mp h
  exact hasFolder_iff.mpr ⟨other, mem_map_fst_write hmem, hprefix⟩

/-- A path leads to a file that is there or whose place is not taken by a folder. -/
theorem isSome_or_of_walk {folder names : List String} (h : walk files folder names = .file name) :
    (files.content? name).isSome = true ∨ files.hasFolder name = false := by
  induction names generalizing folder with
  | nil => cases h
  | cons first names ih =>
    rw [walk] at h
    split at h
    · exact ih h
    · dsimp only at h
      split at h
      · cases h
      split at h
      · rename_i hthere
        split at h
        · cases h
          exact .inl hthere
        · cases h
      split at h
      · exact ih h
      · rename_i hfolder
        split at h
        · cases h
          exact .inr (Bool.not_eq_true _ ▸ hfolder)
        · cases h

/-- A path leads to the same file after it was written. -/
theorem walk_write {folder names : List String} (h : walk files folder names = .file name) :
    walk (files.write name content) folder names = .file name := by
  induction names generalizing folder with
  | nil => cases h
  | cons first names ih =>
    have hplace := isSome_or_of_walk h
    have hwritten : ((files.write name content).content? name).isSome = true := by
      rw [content_write]
      rfl
    rw [walk] at h ⊢
    by_cases hup : first = ".."
    · rw [if_pos hup] at h ⊢
      exact ih h
    rw [if_neg hup] at h ⊢
    dsimp only at h ⊢
    generalize "/".intercalate (folder ++ [first]) = file at h ⊢
    by_cases hlong : Path.longestName < first.utf8ByteSize
    · rw [if_pos hlong] at h
      cases h
    rw [if_neg hlong] at h ⊢
    by_cases hthere : (files.content? file).isSome = true
    · rw [if_pos hthere] at h
      by_cases hlast : names.isEmpty = true
      · rw [if_pos hlast] at h
        cases h
        rw [if_pos hwritten, if_pos hlast]
      · rw [if_neg hlast] at h
        cases h
    rw [if_neg hthere] at h
    by_cases hfolder : files.hasFolder file = true
    · -- the path leads on from a folder, so its name is not that of the file
      rw [if_pos hfolder] at h
      have hne : file ≠ name := by
        rintro rfl
        rcases hplace with hsome | hnone
        · exact hthere hsome
        · rw [hfolder] at hnone
          cases hnone
      rw [content_write_of_ne hne, if_neg hthere, if_pos (hasFolder_write hfolder)]
      exact ih h
    rw [if_neg hfolder] at h
    by_cases hlast : names.isEmpty = true
    · rw [if_pos hlast] at h
      cases h
      rw [if_pos hwritten, if_pos hlast]
    · rw [if_neg hlast] at h
      cases h

theorem find_write (h : files.find path = .file name) :
    (files.write name content).find path = .file name := by
  unfold find at h ⊢
  dsimp only at h ⊢
  split at h
  · cases h
  · rename_i hlong
    rw [if_neg hlong]
    exact walk_write h

/-! ## Reading files -/

/-- What is read stands in the file that the path leads to. -/
theorem read_eq_ok_iff : files.read path = .ok content ↔
    ∃ name, files.find path = .file name ∧ files.content? name = some content := by
  unfold read
  dsimp only
  cases hfind : files.find path with
  | folder => simp
  | unreachable fault => simp
  | file name => cases hcontent : files.content? name <;> simp [hcontent]

/-- A file that is read is there. -/
theorem contains_of_read (hpath : IsJsonName path) (h : files.read path = .ok content) :
    files.contains path = true := by
  obtain ⟨name, hfind, hcontent⟩ := read_eq_ok_iff.mp h
  have hne := hpath.ne_empty
  rw [contains, hfind]
  simp [hne, hpath.endsAsFolder_eq, hcontent]

/-- A content is saved exactly where the path leads to a file. -/
theorem save_eq_ok_iff {saved : Files} : files.save path content = .ok saved ↔
    ∃ name, files.find path = .file name ∧ files.write name content = saved := by
  unfold save
  dsimp only
  cases hfind : files.find path <;> simp

/-- A content that is saved is read. -/
theorem read_save {saved : Files} (h : files.save path content = .ok saved) :
    saved.read path = .ok content := by
  obtain ⟨name, hfind, rfl⟩ := save_eq_ok_iff.mp h
  exact read_eq_ok_iff.mpr ⟨name, find_write hfind, content_write name content files⟩

end Files

end ExtractionSchema
