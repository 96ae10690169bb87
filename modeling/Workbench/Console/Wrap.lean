import Workbench.Console.Cells
import Workbench.Text.Blank
import Workbench.Text.Lines

/-!
# Wrapping

A text is set in lines of a given width. Lines are broken between words, where the white space
after a word belongs to it; a word that is longer than a whole line is either folded over several
lines or cut off with an ellipsis.
-/
namespace Workbench.Console

/-- What becomes of a word that is longer than a line. -/
inductive LongWords where
  | fold
  | cut
  deriving DecidableEq, Repr

/-- A part of a line in front of a tab, and spaces in place of the tab. -/
def fillToStop (part : List Char) : List Char :=
  let spaced := part ++ [' ']
  let past := cells spaced % 8
  if past = 0 then spaced else spaced ++ List.replicate (8 - past) ' '

/-- A line in which tabs have become spaces up to the next multiple of eight cells. -/
def expandTabs (line : List Char) : List Char :=
  let parts := Text.splitBy (· == '\t') line
  parts.dropLast.flatMap fillToStop ++ parts.getLastD []

def startsBlank (word : List Char) : Bool := word.head?.any Text.isBlankChar

/-- Put a character in front of words: white space in front of a word is the end of another. -/
def addToWords (c : Char) : List (List Char) → List (List Char)
  | [] => [[c]]
  | word :: rest =>
    if Text.isBlankChar c && !startsBlank word then [c] :: word :: rest
    else (c :: word) :: rest

/-- The words of a line, each with the white space after it. White space at the start of the line
belongs to the first word. -/
def words (line : List Char) : List (List Char) :=
  match line.foldr addToWords [] with
  | first :: second :: rest =>
    if startsBlank first then (first ++ second) :: rest else first :: second :: rest
  | few => few

theorem flatten_addToWords (c : Char) (ws : List (List Char)) :
    (addToWords c ws).flatten = c :: ws.flatten := by
  cases ws with
  | nil => rfl
  | cons word rest =>
    rw [addToWords]
    split <;> simp

/-- No character is lost. -/
theorem flatten_words (line : List Char) : (words line).flatten = line := by
  have h : (line.foldr addToWords []).flatten = line := by
    induction line with
    | nil => rfl
    | cons c line ih => rw [List.foldr_cons, flatten_addToWords, ih]
  rw [words]
  split
  · rename_i first second rest heq
    rw [heq] at h
    split
    · simpa using h
    · exact h
  · exact h

/-- Lines that are being filled: the full ones, the latest first, the open one, and the cells that
it takes. -/
structure Page where
  full : List (List Char) := []
  line : List Char := []
  used : Nat := 0

namespace Page

/-- Begin a new line, unless nothing has been put on the page yet. -/
def breakLine (p : Page) : Page :=
  if p.full.isEmpty && p.line.isEmpty then p else { full := p.line :: p.full }

/-- Put characters at the end of the open line. -/
def put (p : Page) (cs : List Char) : Page :=
  { p with line := p.line ++ cs, used := p.used + cells cs }

/-- Put a word on the page: on the open line if it fits there without its white space, and else on
lines of its own. -/
def place (mode : LongWords) (width : Nat) (p : Page) (word : List Char) : Page :=
  let size := cells (word.reverse.dropWhile Text.isBlankChar).reverse
  if p.used + size ≤ width then p.put word
  else if mode = .fold && width < size then
    (chop width word).foldl (fun p piece => p.breakLine.put piece) p
  else p.breakLine.put word

def lines (p : Page) : List (List Char) := (p.line :: p.full).reverse

end Page

/-- A line without the white space at its end that reaches beyond `width` characters. -/
def dropExcess (width : Nat) (line : List Char) : List Char :=
  let blanks := (line.reverse.takeWhile Text.isBlankChar).length
  line.take (line.length - min blanks (line.length - width))

/-- A line cut down to `width` cells. -/
def trimLine (mode : LongWords) (width : Nat) (line : List Char) : List Char :=
  match mode with
  | .fold => cropTo width line
  | .cut => if cells line ≤ width then line else cropTo (width - 1) line ++ ['…']

/-- A line set in lines of a width. -/
def wrapLine (mode : LongWords) (width : Nat) (line : List Char) : List (List Char) :=
  ((words (expandTabs line)).foldl (Page.place mode width) {}).lines.map fun l =>
    trimLine mode width (dropExcess width l)

/-- A text set in lines of a width; there is no room for any in no cells. -/
def wrap (mode : LongWords) (width : Nat) (text : List Char) : List (List Char) :=
  if width = 0 then [] else (Text.lines text).flatMap (wrapLine mode width)

end Workbench.Console
