import Workbench.Text.Lines

/-!
# Places in a document

A cursor is a place in the text of a document: what follows it, and where it stands. Besides the
line feed there are three more characters that end a line.
-/
namespace Workbench.Yaml

/-- Does the character end a line? -/
def isBreak (c : Char) : Bool :=
  c == '\n' || c == '\x85' || c == '\u2028' || c == '\u2029'

def isSpace (c : Char) : Bool := c == ' '

/-- A space or a tab. -/
def isGap (c : Char) : Bool := c == ' ' || c == '\t'

/-- Can the character stand in a document at all? -/
def isAllowed (c : Char) : Bool :=
  let n := c.toNat
  n == 0x09 || n == 0x0A || n == 0x0D || (0x20 ≤ n && n ≤ 0x7E) || n == 0x85 ||
    (0xA0 ≤ n && n ≤ 0xD7FF) || (0xE000 ≤ n && n ≤ 0xFFFD) || 0x10000 ≤ n

/-- The mark of the text's encoding, which has no width. -/
def encodingMark : Char := '\ufeff'

/-- A place in a text. -/
structure Cursor where
  rest : List Char
  index : Nat := 0
  line : Nat := 0
  column : Nat := 0
  deriving DecidableEq, Repr

namespace Cursor

/-- The place behind the next character `c`, which `rest` follows. -/
def past (cur : Cursor) (c : Char) (rest : List Char) : Cursor :=
  if isBreak c then ⟨rest, cur.index + 1, cur.line + 1, 0⟩
  else ⟨rest, cur.index + 1, cur.line, if c == encodingMark then cur.column else cur.column + 1⟩

/-- The place `n` characters on, or the end. -/
def skip : Nat → Cursor → Cursor
  | 0, cur => cur
  | n + 1, cur =>
    match cur.rest with
    | [] => cur
    | c :: rest => skip n (cur.past c rest)

/-- The next character. -/
def peek (cur : Cursor) : Option Char := cur.rest.head?

/-- Does nothing follow, or a space, a tab or the end of the line? -/
def endsWord : List Char → Bool
  | [] => true
  | c :: _ => isGap c || isBreak c

/-- Is this the end of the line? -/
def atLineEnd (cur : Cursor) : Bool := cur.peek.all isBreak

/-- The characters from here on that fit, and the place behind them. -/
def span (p : Char → Bool) (cur : Cursor) : List Char × Cursor :=
  let word := cur.rest.takeWhile p
  (word, cur.skip word.length)

/-- The place behind the characters from here on that fit. -/
def skipWhile (p : Char → Bool) (cur : Cursor) : Cursor := (cur.span p).2

/-- The end of the line as it counts in a scalar, and the place behind it. -/
def lineBreak? (cur : Cursor) : Option (Char × Cursor) :=
  match cur.rest with
  | c :: _ =>
    if isBreak c then some (if c == '\x85' then '\n' else c, cur.skip 1) else none
  | [] => none

/-- Do three marks of this kind stand alone here? -/
def isRow (mark : Char) (cur : Cursor) : Bool :=
  cur.rest.take 3 == List.replicate 3 mark && endsWord (cur.rest.drop 3)

/-- Does a mark between documents stand here? -/
def atSeparator (cur : Cursor) : Bool := cur.isRow '-' || cur.isRow '.'

/-- The place of the next line's start after spaces and perhaps a comment; none if there is
anything else on the line. -/
def lineRest? (cur : Cursor) : Option Cursor :=
  let cur := cur.skipWhile isSpace
  let cur := if cur.peek = some '#' then cur.skipWhile (!isBreak ·) else cur
  if cur.atLineEnd then some (cur.skip 1) else none

end Cursor

end Workbench.Yaml
