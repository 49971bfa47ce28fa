import ExtractionSchema.CommandLine.Markup
import ExtractionSchema.Text.Wrapping

/-!
# Text on a console

A console shows markup in lines of its width. A panel draws a box with a title around some lines, a
table draws columns that are as wide as their widest cells.

* `message` is what a console shows of a message, `panel` a box, `table` a table with a title.
-/

namespace ExtractionSchema.CommandLine

/-- Number of cells of a line of the console. -/
def consoleWidth : Nat := 10000

/-- The lines that a console shows of a message. -/
def message (markup : String) : String :=
  String.join ((Text.laidOut .fold consoleWidth (Markup.rendered markup)).map (· ++ "\n"))

/-! ## Boxes -/

/-- A character some times. -/
def repeated (n : Nat) (c : Char) : String := String.ofList (List.replicate n c)

/-- A text with characters on both sides up to a width; an odd one stands on the right. -/
def centered (c : Char) (width : Nat) (s : String) : String :=
  let excess := width - Text.cells s
  repeated (excess / 2) c ++ s ++ repeated (excess - excess / 2) c

/-- A text with spaces after it up to a width. -/
def padRight (width : Nat) (s : String) : String := s ++ repeated (width - Text.cells s) ' '

/-- A text with spaces before it up to a width. -/
def padLeft (width : Nat) (s : String) : String := repeated (width - Text.cells s) ' ' ++ s

/-- A box around what a markup shows, with a title in its upper edge. -/
def panel (title markup : String) : String :=
  let text := Markup.rendered markup
  let title := " " ++ title ++ " "
  let inner := max (min (Text.naturalWidth text) (consoleWidth - 4)) (Text.cells title)
  let body := (Text.laidOut .fold inner text).map fun s => "│ " ++ padRight inner s ++ " │\n"
  "╭─" ++ centered '─' inner title ++ "─╮\n" ++ String.join body ++
    "╰" ++ repeated (inner + 2) '─' ++ "╯\n"

/-! ## Tables -/

/-- A column of a table. -/
structure Column where
  heading : String
  rightAligned : Bool := false

/-- Number of cells of a line of a table with columns of some widths. -/
def tableWidth (widths : List Nat) : Nat := widths.foldl (fun total width => total + width + 3) 1

/-- Widths of columns that the console holds: the widest one gives way. -/
def fittedWidths (widths : List Nat) : List Nat :=
  let excess := tableWidth widths - consoleWidth
  widths.map fun width => if width = Text.largest widths then width - excess else width

/-- An edge of a table over columns of some widths. -/
def edge (left fill joint right : Char) (widths : List Nat) : String :=
  left.toString ++ joint.toString.intercalate (widths.map fun w => repeated (w + 2) fill) ++
    right.toString ++ "\n"

/-- A line of a table. -/
def tableLine (bar : Char) (columns : List (Column × Nat)) (cells : List String) : String :=
  let padded := (columns.zip cells).map fun ((column, width), s) =>
    " " ++ (if column.rightAligned then padLeft width s else padRight width s) ++ " "
  bar.toString ++ bar.toString.intercalate padded ++ bar.toString ++ "\n"

/-- The lines of a row of a table; a cell may have several. -/
def tableRow (bar : Char) (columns : List (Column × Nat)) (cells : List String) : String :=
  let cells := (columns.zip cells).map fun ((_, width), s) => Text.laidOut .ellipsis width s
  let height := Text.largest (cells.map List.length)
  String.join ((List.range height).map fun i =>
    tableLine bar columns (cells.map fun lines => lines.getD i ""))

/-- A table with a title above it. The cells of its rows are markup. -/
def table (title : String) (columns : List Column) (rows : List (List String)) : String :=
  let rows := rows.map fun cells => cells.map Markup.rendered
  let widths := fittedWidths <| columns.mapIdx fun i column =>
    Text.largest ((column.heading :: rows.map fun cells => cells.getD i "").map Text.naturalWidth)
  let columns := columns.zip widths
  centered ' ' (tableWidth widths) title ++ "\n" ++
    edge '┏' '━' '┳' '┓' widths ++
    tableRow '┃' columns (columns.map fun (column, _) => column.heading) ++
    edge '┡' '━' '╇' '┩' widths ++
    String.join (rows.map (tableRow '│' columns)) ++
    edge '└' '─' '┴' '┘' widths

end ExtractionSchema.CommandLine
