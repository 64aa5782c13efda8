import AppCatalog.Console.Markup

/-!
# Blocks of output

What a command prints is a run of blocks: texts with markup, and tables. `Block.printed` gives the
lines and rows they come to, and `Printed.layout` sets them out in columns. A cell of several lines
makes its row as many rows high, with nothing in the other cells.
-/

namespace AppCatalog.Console

open AppCatalog.Text

/-- A table of texts with markup. -/
structure Table where
  title : String
  header : List String
  rows : List (List String)
  deriving DecidableEq, Repr

/-- A part of the output. -/
inductive Block where
  | text (s : String)
  | table (t : Table)
  deriving DecidableEq, Repr

/-- What is printed in one line. -/
inductive Printed where
  | line (s : String)
  | row (cells : List String)
  deriving DecidableEq, Repr

def tabWidth : Nat := 8

/-- A line from a column on, with blanks in place of tabs. -/
def expandTabs (column : Nat) : List Char → List Char
  | [] => []
  | c :: cs =>
    if c = '\t' then
      let gap := tabWidth - column % tabWidth
      List.replicate gap ' ' ++ expandTabs (column + gap) cs
    else c :: expandTabs (column + 1) cs

/-- The lines that a text with markup prints. -/
def textLines (s : String) : Except MarkupFault (List String) :=
  (Markup.plain s.toList).map fun cs =>
    (splitAll '\n' cs).map fun l => String.ofList (expandTabs 0 l)

/-- The rows that cells of several lines come to. -/
def rowLines (cells : List (List String)) : List (List String) :=
  let height := (cells.map List.length).foldl max 0
  (List.range height).map fun i => cells.map fun ls => ls.getD i ""

/-- The rows of a table, its header first. -/
def Table.printedRows (t : Table) : Except MarkupFault (List (List String)) :=
  (t.header :: t.rows).flatMapM fun row => rowLines <$> row.mapM textLines

/-- The lines and rows of a block. -/
def Block.printed : Block → Except MarkupFault (List Printed)
  | text s => (·.map .line) <$> textLines s
  | table t => do
    let title ← textLines t.title
    let rows ← t.printedRows
    .ok (title.map .line ++ rows.map .row)

namespace Printed

def cells : Printed → List String
  | line _ => []
  | row cs => cs

/-- How wide the columns of all rows are. -/
def widths (ps : List Printed) : List Nat :=
  let columns := (ps.map fun p => p.cells.length).foldl max 0
  (List.range columns).map fun i =>
    (ps.map fun p => (p.cells.getD i "").length).foldl max 0

/-- A text with blanks behind it, up to a width. -/
def padded (s : String) (width : Nat) : String := s.pushn ' ' (width - s.length)

/-- One line of output, given the widths of the columns. -/
def setOut (widths : List Nat) : Printed → String
  | line s => s
  | row cs => String.intercalate "  " (List.zipWith padded cs widths)

/-- Lines and rows as they appear: columns stand two blanks apart. -/
def layout (ps : List Printed) : List String := ps.map (setOut (widths ps))

end Printed

end AppCatalog.Console
