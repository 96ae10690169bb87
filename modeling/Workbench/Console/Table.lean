import Workbench.Console.Markup
import Workbench.Console.Wrap

/-!
# Tables

A table has a head and rows of cells, each a markup text. Columns are as wide as their longest
cell; if that is too much for the console, the widest columns give way first. Words that are too
long for their column are cut off.
-/
namespace Workbench.Console

structure Table where
  head : List String
  rows : List (List String)
  deriving DecidableEq, Repr

namespace Table

/-- The quotient to the nearest integer; a half goes to the even one. -/
def roundedQuotient (n k : Nat) : Nat :=
  let q := n / k
  if 2 * (n % k) < k then q else if k < 2 * (n % k) then q + 1 else q + q % 2

/-- Take `excess` away from the widths that are chosen, in equal shares, but from none more than
its limit. The arguments are a limit and a width for each; `chosen` counts those with a limit. -/
def reduce (excess chosen : Nat) : List (Nat × Nat) → List Nat
  | [] => []
  | (limit, width) :: rest =>
    if limit = 0 then width :: reduce excess chosen rest
    else
      let share := min limit (roundedQuotient excess chosen)
      (width - share) :: reduce (excess - share) (chosen - 1) rest

def reduceAll (excess : Nat) (limited : List (Nat × Nat)) : List Nat :=
  reduce excess (limited.countP (·.1 ≠ 0)) limited

def total (widths : List Nat) : Nat := widths.foldl (· + ·) 0

def widest (widths : List Nat) : Nat := widths.foldl max 0

/-- Take cells from the widest columns, down to the next widest, until the columns fit. Each round
takes at least one, so `fuel` need not be more than all cells. -/
def narrow (room : Nat) : Nat → List Nat → List Nat
  | 0, widths => widths
  | fuel + 1, widths =>
    let excess := total widths - room
    let high := widest widths
    let step := high - widest (widths.filter (· ≠ high))
    if excess = 0 || step = 0 then widths
    else
      narrow room fuel
        (reduceAll excess (widths.map fun w => (if w = high then min excess step else 0, w)))

/-- Does a room for columns leave a cell for the text of one? -/
def hasRoom (room : Nat) : Bool := 2 < room

/-- How many cells a text takes at most in a line of its own. A column has a cell of padding on
either side and is no wider than `room`. -/
def cellWidth (room : Nat) (text : List Char) : Nat :=
  let isBreak (c : Char) : Bool :=
    c == '\n' || (0x1C ≤ c.toNat && c.toNat ≤ 0x1E) || c.toNat == 0x85 || c.toNat == 0x2028 ||
      c.toNat == 0x2029
  if !hasRoom room then room else min room (widest ((Text.splitBy isBreak text).map cells) + 2)

def columnWidth (room : Nat) (column : List (List Char)) : Nat :=
  widest (column.map (cellWidth room))

/-- The widths of columns that share `room` cells. -/
def widths (room : Nat) (columns : List (List (List Char))) : List Nat :=
  let natural := columns.map fun column => max 1 (columnWidth room column)
  if total natural ≤ room then natural
  else
    let narrowed := narrow room (total natural) natural
    let allotted :=
      if total narrowed ≤ room then narrowed
      else reduceAll (total narrowed - room) (narrowed.map fun w => (w, w))
    (allotted.zip columns).map fun (w, column) => columnWidth w column

/-- The lines of a cell in a column of a width. They are filled up before they are fitted: a joiner
at the end hides the first space behind it, and there has to be one more. -/
def cellLines (width : Nat) (text : List Char) : List (List Char) :=
  (wrap .cut (width - 2) text).map fun line =>
    ' ' :: fit (width - 2) (padTo (width - 2) line) ++ [' ']

/-- The marks of a horizontal rule: its ends, the line, and where a column ends. -/
structure Rule where
  left : Char
  line : Char
  cross : Char
  right : Char

def topRule : Rule := ⟨'┏', '━', '┳', '┓'⟩
def headRule : Rule := ⟨'┡', '━', '╇', '┩'⟩
def bottomRule : Rule := ⟨'└', '─', '┴', '┘'⟩

/-- A rule across columns. -/
def Rule.draw (r : Rule) (widths : List Nat) : List Char :=
  r.left :: [r.cross].intercalate (widths.map (List.replicate · r.line)) ++ [r.right]

/-- The lines of a row: as many as its highest cell has. The others get blank lines, above in the
head and below elsewhere. -/
def rowLines (bar : Char) (isHead : Bool) (widths : List Nat) (row : List (List Char)) :
    List (List Char) :=
  let drawn := (widths.zip row).map fun (w, text) => (w, cellLines w text)
  let height := max 1 (widest (drawn.map (·.2.length)))
  let full := drawn.map fun (w, lines) =>
    let blank := List.replicate (height - lines.length) (List.replicate w ' ')
    if isHead then blank ++ lines else lines ++ blank
  (List.range height).map fun i =>
    bar :: [bar].intercalate (full.map fun lines => (lines[i]?).getD []) ++ [bar]

/-- The lines of a table on a console. Where no column has room for text, none is read. -/
def draw (width : Nat) (t : Table) : Except Markup.Fault (List (List Char)) := do
  let room := width - (t.head.length + 1)
  let read (cell : String) : Except Markup.Fault (List Char) :=
    if hasRoom room then Markup.plain cell else .ok []
  let head ← t.head.mapM read
  let rows ← t.rows.mapM (·.mapM read)
  let columns := (List.range head.length).map fun i =>
    (head :: rows).map fun row => (row[i]?).getD []
  let ws := widths room columns
  let lines := topRule.draw ws :: rowLines '┃' true ws head ++ headRule.draw ws ::
    rows.flatMap (rowLines '│' false ws) ++ [bottomRule.draw ws]
  pure (lines.map (cropTo width))

end Table

end Workbench.Console
