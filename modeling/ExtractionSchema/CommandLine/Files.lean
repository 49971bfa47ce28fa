import ExtractionSchema.Failure

/-!
# Files of a command

A command reads and writes files, which it finds by paths. A path is a row of names between slashes;
it starts in the folder that the command runs in, or at the root. `Files` holds the names and
contents of files. A folder is there if a file in it is, or if its name with a slash stands among the
names; the folder of the command and those above it are always there.

* `Files.content_write` and `Files.content_write_of_ne` say what is read after a file is written.
* `Files.find` says what a path leads to.
-/

namespace ExtractionSchema

/-! ## Paths -/

/-- The slashes that a path starts with, and the names on it that lead somewhere. -/
structure Path where
  start : String
  names : List String

namespace Path

/-- Takes a path apart. More than two slashes at its start count as one. -/
def read (s : String) : Path :=
  let start := match s.toList.takeWhile (· = '/') with
    | [] => ""
    | [_, _] => "//"
    | _ => "/"
  ⟨start, ((s.toList.splitOn '/').map String.ofList).filter fun n => n ≠ "" && n ≠ "."⟩

/-- Whether the path starts at the root. -/
def fromRoot (p : Path) : Bool := p.start ≠ ""

/-- The path as messages tell it. -/
def text (p : Path) : String :=
  if p.fromRoot || !p.names.isEmpty then p.start ++ "/".intercalate p.names else "."

/-- The names of the folders that the path leads through; the last one may be that of a file. -/
def stations (p : Path) : List String :=
  (List.range p.names.length).map fun i =>
    (if p.fromRoot then "/" else "") ++ "/".intercalate (p.names.take (i + 1))

/-- The largest number of bytes in a name on a path. -/
def longestName : Nat := 255

/-- The largest number of bytes in a path. -/
def longestPath : Nat := 4095

end Path

/-- What a path leads to. -/
inductive Place where
  | folder
  /-- A file of this name, which is there or could be. -/
  | file (name : String)
  | unreachable (fault : FileFault)

/-! ## Contents -/

/-- Names and contents of files. -/
abbrev Files := List (String × String)

namespace Files

/-- The content of a file. -/
def content? (name : String) (files : Files) : Option String := files.lookup name

/-- Writes a file. -/
def write (name content : String) : Files → Files
  | [] => [(name, content)]
  | (other, old) :: files =>
    if name = other then (name, content) :: files else (other, old) :: write name content files

theorem content_write (name content : String) (files : Files) :
    (files.write name content).content? name = some content := by
  induction files with
  | nil => simp [write, content?]
  | cons f files ih =>
    obtain ⟨other, old⟩ := f
    simp only [content?] at ih
    by_cases h : name = other
    · simp [write, content?, h]
    · have hb : (name == other) = false := beq_eq_false_iff_ne.mpr h
      simp [write, content?, h, List.lookup_cons, hb, ih]

theorem content_write_of_ne {name other : String} (h : other ≠ name) (content : String)
    (files : Files) : (files.write name content).content? other = files.content? other := by
  have hb : (other == name) = false := beq_eq_false_iff_ne.mpr h
  induction files with
  | nil => simp [write, content?, List.lookup_cons, hb]
  | cons f files ih =>
    obtain ⟨first, old⟩ := f
    simp only [content?] at ih
    by_cases hn : name = first
    · subst hn
      simp [write, content?, List.lookup_cons, hb]
    · simp only [write, hn, if_false, content?, List.lookup_cons, ih]

/-! ## Finding files -/

/-- Whether a folder of a name is there. -/
def hasFolder (name : String) (files : Files) : Bool :=
  files.any fun (other, _) => (name ++ "/").toList.isPrefixOf other.toList

/-- The folder above a folder, each given by the names that lead to it. Those of a folder from the
root start with an empty name, and the root is above itself. -/
def above (folder : List String) : List String :=
  match folder.getLast? with
  | none => [".."]
  | some ".." => folder ++ [".."]
  | some "" => folder
  | some _ => folder.dropLast

/-- What the names on a path lead to from a folder. -/
def walk (files : Files) (folder : List String) : List String → Place
  | [] => .folder
  | name :: names =>
    if name = ".." then walk files (above folder) names
    else
      let here := folder ++ [name]
      let file := "/".intercalate here
      if Path.longestName < name.utf8ByteSize then .unreachable .nameTooLong
      else if (files.content? file).isSome then
        if names.isEmpty then .file file else .unreachable .notAFolder
      else if files.hasFolder file then walk files here names
      else if names.isEmpty then .file file
      else .unreachable .missing

/-- What a path leads to. -/
def find (files : Files) (path : String) : Place :=
  let p := Path.read path
  if Path.longestPath < p.text.utf8ByteSize then .unreachable .nameTooLong
  else walk files (if p.fromRoot then [""] else []) p.names

/-- Whether a path ends like one of a folder. -/
def endsAsFolder (path : String) : Bool :=
  match ((path.toList.splitOn '/').map String.ofList).getLast? with
  | some last => last = "" || last = "."
  | none => true

/-- Whether a path leads to something that is there. A path that ends like that of a folder leads to
no file, and the empty path leads nowhere. -/
def contains (files : Files) (path : String) : Bool :=
  path ≠ "" &&
    match files.find path with
    | .folder => true
    | .file name => !endsAsFolder path && (files.content? name).isSome
    | .unreachable _ => false

/-- Reads the file that a path leads to. -/
def read (files : Files) (path : String) : Except Failure String :=
  let name := (Path.read path).text
  match files.find path with
  | .folder => .error (.file .isFolder name)
  | .unreachable _ => .error (.noDocument name)
  | .file file =>
    match files.content? file with
    | some content => .ok content
    | none => .error (.noDocument name)

/-- Writes the file that a path leads to. -/
def save (files : Files) (path content : String) : Except Failure Files :=
  let name := (Path.read path).text
  match files.find path with
  | .folder => .error (.file .isFolder name)
  | .unreachable fault => .error (.file fault name)
  | .file file => .ok (files.write file content)

end Files

end ExtractionSchema
