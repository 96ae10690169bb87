import Workbench.Number.Reading
import Workbench.Yaml.Cursor
import Workbench.Yaml.Fault

/-!
# Written scalars

The text of a scalar as it is written in quotes, as a block of lines, or plain. In all of them the
end of a line becomes a space, and an empty line after it the end of a line, except in a block
that keeps its lines. Each reader gives the text and the place behind it.
-/
namespace Workbench.Yaml

/-- Text in the making and the place reached. -/
abbrev Scanned := Except Fault (List Char × Cursor)

/-- The end of a line followed by `breaks` more of them, as it counts in a scalar. -/
def folded (first : Char) (breaks : List Char) : List Char :=
  (if first != '\n' then [first] else if breaks.isEmpty then [' '] else []) ++ breaks

/-! ## Quoted scalars -/

/-- Escapes of one letter. -/
def letterEscapes : List (Char × Nat) :=
  [('0', 0), ('a', 7), ('b', 8), ('t', 9), ('\t', 9), ('n', 10), ('v', 11), ('f', 12), ('r', 13),
    ('e', 27), (' ', 32), ('"', 34), ('/', 47), ('\\', 92), ('N', 0x85), ('_', 0xA0),
    ('L', 0x2028), ('P', 0x2029)]

/-- How many digits follow an escape of a code point. -/
def codeEscapes : List (Char × Nat) := [('x', 2), ('u', 4), ('U', 8)]

def isHexDigit (c : Char) : Bool :=
  c.isDigit || ('a' ≤ c && c ≤ 'f') || ('A' ≤ c && c ≤ 'F')

/-- The number that hexadecimal digits write. -/
def hexValue (cs : List Char) : Nat := Number.ofDigits 16 (cs.filterMap (Number.digitValue? 16))

/-- The ends of empty lines at the start of a line of a quoted scalar, up to the next text. The
scalar does not reach into another document. -/
def emptyLines : Nat → Cursor → List Char → Scanned
  | 0, _, _ => .error .malformed
  | fuel + 1, cur, read =>
    if cur.atSeparator then .error .malformed
    else
      let cur := cur.skipWhile isGap
      match cur.lineBreak? with
      | some (c, after) => emptyLines fuel after (c :: read)
      | none => .ok (read.reverse, cur)

/-- The white space at a place of a quoted scalar, with the ends of lines in it folded. -/
def quotedSpace (cur : Cursor) : Scanned :=
  let (gap, cur) := cur.span isGap
  match cur.lineBreak? with
  | some (c, after) => do
    let (breaks, after) ← emptyLines (after.rest.length + 1) after []
    pure (folded c breaks, after)
  | none => .ok (gap, cur)

/-- What stands behind a backslash. -/
def escaped (cur : Cursor) : Scanned :=
  match cur.rest with
  | [] => .error .malformed
  | c :: _ =>
    match letterEscapes.lookup c, codeEscapes.lookup c, cur.lineBreak? with
    | some n, _, _ => .ok ([Char.ofNat n], cur.skip 1)
    | _, some width, _ =>
      let cur := cur.skip 1
      let digits := cur.rest.take width
      if digits.length < width || !digits.all isHexDigit then .error .malformed
      else
        let code := hexValue digits
        if code < 0x110000 then .ok ([Char.ofNat code], cur.skip width)
        else .error (.noCharacter code)
    | _, _, some (_, after) => emptyLines (after.rest.length + 1) after []
    | _, _, none => .error .malformed

/-- The rest of a scalar in single or double quotes; in single ones a quote is written twice. -/
def quotedScalar (mark : Char) : Nat → Cursor → List Char → Scanned
  | 0, _, _ => .error .malformed
  | fuel + 1, cur, read =>
    match cur.rest with
    | [] => .error .malformed
    | c :: rest =>
      if c == mark then
        if mark == '\'' && rest.head? = some mark then
          quotedScalar mark fuel (cur.skip 2) (mark :: read)
        else .ok (read.reverse, cur.skip 1)
      else if isGap c || isBreak c then do
        let (space, cur) ← quotedSpace cur
        quotedScalar mark fuel cur (space.reverse ++ read)
      else if c == '\\' && mark == '"' then do
        let (text, cur) ← escaped (cur.skip 1)
        quotedScalar mark fuel cur (text.reverse ++ read)
      else quotedScalar mark fuel (cur.skip 1) (c :: read)

/-! ## Plain scalars -/

/-- The marks of flow collections that end a plain scalar inside them. -/
def isFlowMark (c : Char) : Bool := ",?[]\x7b\x7d".toList.contains c

/-- Does a colon in front of these characters end a plain scalar? -/
def endsKey (flow : Bool) (cs : List Char) : Bool :=
  Cursor.endsWord cs || (flow && cs.head?.any fun c => ",[]\x7b\x7d".toList.contains c)

/-- How many characters of a plain scalar stand here without white space. -/
def plainLength (flow : Bool) : List Char → Nat
  | [] => 0
  | c :: rest =>
    if isGap c || isBreak c || (c == ':' && endsKey flow rest) || (flow && isFlowMark c) then 0
    else plainLength flow rest + 1

/-- The ends of empty lines after the end of a line of a plain scalar; none where another document
begins. -/
def plainBreaks : Nat → Cursor → List Char → Option (List Char) × Cursor
  | 0, cur, _ => (none, cur)
  | fuel + 1, cur, read =>
    if cur.atSeparator then (none, cur)
    else
      let cur := cur.skipWhile isSpace
      match cur.lineBreak? with
      | some (c, after) => plainBreaks fuel after (c :: read)
      | none => (some read.reverse, cur)

/-- The white space after a part of a plain scalar. -/
structure PlainSpace where
  /-- What it counts as if more of the scalar follows; empty if nothing can follow. -/
  text : List Char
  next : Cursor
  /-- Does it hold the end of a line? -/
  broken : Bool

def plainSpace (cur : Cursor) : PlainSpace :=
  let (gap, cur) := cur.span isSpace
  match cur.lineBreak? with
  | none => ⟨gap, cur, false⟩
  | some (c, after) =>
    match plainBreaks (after.rest.length + 1) after [] with
    | (some breaks, after) => ⟨folded c breaks, after, true⟩
    | (none, after) => ⟨[], after, true⟩

/-- A plain scalar with the place behind it and the white space after it. `broken` says whether
that white space holds the end of a line. -/
structure PlainScalar where
  text : List Char
  next : Cursor
  broken : Bool

/-- The plain scalar from here on, at least `indent` columns from the margin on each line, `space`
being the white space in front. A comment after white space ends it. -/
def plainScalar (flow : Bool) (indent : Int) :
    Nat → Cursor → (read space : List Char) → (broken : Bool) → PlainScalar
  | 0, cur, read, _, broken => ⟨read.reverse, cur, broken⟩
  | fuel + 1, cur, read, space, broken =>
    let length := if cur.peek = some '#' then 0 else plainLength flow cur.rest
    if length = 0 then ⟨read.reverse, cur, broken⟩
    else
      let read := (cur.rest.take length).reverse ++ space.reverse ++ read
      let after := plainSpace (cur.skip length)
      if after.text.isEmpty || after.next.peek = some '#' ||
          (!flow && (after.next.column : Int) < indent) then
        ⟨read.reverse, after.next, after.broken⟩
      else plainScalar flow indent fuel after.next read after.text after.broken

/-! ## Block scalars -/

/-- What becomes of the ends of lines at the end of a block. -/
inductive Chomping where
  /-- One is kept. -/
  | clip
  | strip
  | keep
  deriving DecidableEq, Repr

/-- The sign for it in a block's header. -/
def chomping? (c : Char) : Option Chomping :=
  if c == '+' then some .keep else if c == '-' then some .strip else none

/-- The header of a block: chomping and indentation in either order, and the place behind it. -/
def blockHeader (cur : Cursor) : Except Fault (Chomping × Option Nat × Cursor) := do
  let sign (cur : Cursor) : Option Chomping × Cursor :=
    match cur.peek.bind chomping? with
    | some c => (some c, cur.skip 1)
    | none => (none, cur)
  let digit (cur : Cursor) : Option Nat × Cursor :=
    match cur.peek with
    | some c => if c.isDigit then (some (c.toNat - '0'.toNat), cur.skip 1) else (none, cur)
    | none => (none, cur)
  let (before, cur) := sign cur
  let (width, cur) := digit cur
  let (after, cur) := if before.isNone && width.isSome then sign cur else (none, cur)
  if width = some 0 then throw .malformed
  if !(cur.peek.all fun c => c == ' ' || isBreak c) then throw .malformed
  match cur.lineRest? with
  | some cur => pure ((before.orElse fun _ => after).getD .clip, width, cur)
  | none => throw .malformed

/-- The empty lines at the start of a block whose indentation is yet to be seen: the ends of lines,
the widest indentation among them, and the place of the first text. -/
def blockStart : Nat → Cursor → List Char → Nat → List Char × Nat × Cursor
  | 0, cur, read, widest => (read.reverse, widest, cur)
  | fuel + 1, cur, read, widest =>
    if cur.peek = some ' ' then
      let cur := cur.skip 1
      blockStart fuel cur read (max widest cur.column)
    else
      match cur.lineBreak? with
      | some (c, after) => blockStart fuel after (c :: read) widest
      | none => (read.reverse, widest, cur)

/-- Up to the indentation of a block. -/
def indentTo (indent : Nat) (cur : Cursor) : Cursor :=
  cur.skip (min (indent - cur.column) (cur.rest.takeWhile isSpace).length)

/-- The ends of empty lines of a block, and the place of the next text. -/
def blockBreaks (indent : Nat) : Nat → Cursor → List Char → List Char × Cursor
  | 0, cur, read => (read.reverse, cur)
  | fuel + 1, cur, read =>
    let cur := indentTo indent cur
    match cur.lineBreak? with
    | some (c, after) => blockBreaks indent fuel after (c :: read)
    | none => (read.reverse, cur)

/-- The lines of a block from here on, `breaks` being the ends of the empty lines in front. -/
def blockLines (fold : Bool) (chomping : Chomping) (indent : Nat) :
    Nat → Cursor → (read breaks : List Char) → (last : Option Char) → List Char × Cursor
  | 0, cur, read, _, _ => (read.reverse, cur)
  | fuel + 1, cur, read, breaks, last =>
    if cur.column = indent && !cur.rest.isEmpty then
      let spaced := cur.peek.any isGap
      let (line, cur) := cur.span (!isBreak ·)
      let (ending, cur) := match cur.lineBreak? with
        | some (c, after) => (some c, after)
        | none => (none, cur)
      let read := line.reverse ++ breaks.reverse ++ read
      let (breaks, cur) := blockBreaks indent (cur.rest.length + 1) cur []
      if cur.column = indent && !cur.rest.isEmpty then
        let joint := if fold && ending = some '\n' && !spaced && !(cur.peek.any isGap) then
            (if breaks.isEmpty then [' '] else [])
          else ending.toList
        blockLines fold chomping indent fuel cur (joint.reverse ++ read) breaks none
      else tail cur read breaks ending
    else tail cur read breaks last
where
  /-- The text with the ends of lines that are kept. -/
  tail (cur : Cursor) (read breaks : List Char) (last : Option Char) : List Char × Cursor :=
    match chomping with
    | .strip => (read.reverse, cur)
    | .clip => (read.reverse ++ last.toList, cur)
    | .keep => (read.reverse ++ last.toList ++ breaks, cur)

/-- The block of lines behind its mark, inside a collection with the given indentation. -/
def blockScalar (fold : Bool) (outer : Int) (cur : Cursor) : Scanned := do
  let (chomping, width, cur) ← blockHeader cur
  let least := (max (outer + 1) 1).toNat
  let fuel := cur.rest.length + 1
  match width with
  | some width =>
    let indent := least + width - 1
    let (breaks, cur) := blockBreaks indent fuel cur []
    pure (blockLines fold chomping indent fuel cur [] breaks none)
  | none =>
    let (breaks, widest, cur) := blockStart fuel cur [] 0
    pure (blockLines fold chomping (max least widest) fuel cur [] breaks none)

end Workbench.Yaml
