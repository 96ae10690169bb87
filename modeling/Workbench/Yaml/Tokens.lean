import Workbench.Text.Encoding
import Workbench.Yaml.Scalar

/-!
# From text to tokens

Tokens are what a document is made of once its indentation has been understood: the starts and ends
of collections, the marks inside them, and scalars with their properties.

The tokens of a text, in order. Indentation opens and closes block collections. A key is known
only by the colon behind it: whatever may turn out to be a key is remembered, and the tokens in
front of it are put in when the colon is met. A key that needs no mark is on one line and short.
-/
namespace Workbench.Yaml

/-! ## Tokens -/

/-- What a line that starts with a percent sign declares. -/
inductive Declaration where
  | version (major : Nat)
  /-- What a handle of tags stands for. -/
  | handle (name expansion : String)
  | unknown
  deriving DecidableEq, Repr

/-- A tag as it is written: a handle, or none for a tag in full, and the rest. -/
structure WrittenTag where
  handle : Option String
  rest : String
  deriving DecidableEq, Repr

/-- A token. -/
inductive Token where
  | declaration (d : Declaration)
  | documentStart
  | documentEnd
  | textEnd
  | blockSequenceStart
  | blockMappingStart
  | blockEnd
  | flowSequenceStart
  | flowSequenceEnd
  | flowMappingStart
  | flowMappingEnd
  /-- The dash of an item. -/
  | item
  /-- The comma between items of a flow collection. -/
  | comma
  | key
  | value
  | alias (name : String)
  | anchor (name : String)
  | tag (t : WrittenTag)
  /-- A scalar; `plain` when it stands without quotes or a block mark. -/
  | scalar (plain : Bool) (text : String)
  deriving DecidableEq, Repr

/-! ## Reading tokens -/

/-- A token that may turn out to be a key. -/
structure PossibleKey where
  /-- How many flow collections are open around it. -/
  depth : Nat
  /-- How many tokens are in front of it. -/
  number : Nat
  /-- Is it wrong for it to be anything else? -/
  required : Bool
  start : Cursor
  deriving DecidableEq, Repr

/-- Keys without a mark are no longer than this. -/
def longestKey : Nat := 1024

/-- A text of which the tokens up to a place have been found. -/
structure Lexer where
  cursor : Cursor
  /-- The tokens, the last one first. -/
  made : List Token := []
  /-- The number of open flow collections. -/
  depth : Nat := 0
  /-- The indentation of the innermost block collection, or -1. -/
  indent : Int := -1
  /-- The indentations around it. -/
  outer : List Int := []
  /-- Can a key without a mark stand here? -/
  keyAllowed : Bool := true
  keys : List PossibleKey := []
  deriving Repr

namespace Lexer

abbrev Step := Except Fault Lexer

def add (l : Lexer) (t : Token) : Lexer := { l with made := t :: l.made }

/-- Put in a token behind the first `number` ones. -/
def insert (l : Lexer) (number : Nat) (t : Token) : Lexer :=
  let behind := l.made.length - number
  { l with made := l.made.take behind ++ t :: l.made.drop behind }

/-- Go on by `n` characters. -/
def skip (l : Lexer) (n : Nat) : Lexer := { l with cursor := l.cursor.skip n }

def allowKey (l : Lexer) (allowed : Bool) : Lexer := { l with keyAllowed := allowed }

/-- The possible key at the current depth. -/
def key? (l : Lexer) : Option PossibleKey := l.keys.find? (·.depth == l.depth)

/-- Give up on the possible keys that fit; a required one is an error. -/
def forget (gone : PossibleKey → Bool) (l : Lexer) : Step :=
  if l.keys.any fun k => gone k && k.required then .error .malformed
  else .ok { l with keys := l.keys.filter (!gone ·) }

/-- Give up on the keys that are too long or not on this line. -/
def forgetStale (l : Lexer) : Step :=
  l.forget fun k =>
    k.start.line != l.cursor.line || longestKey < l.cursor.index - k.start.index

/-- Give up on the key at the current depth. -/
def forgetKey (l : Lexer) : Step := l.forget (·.depth == l.depth)

/-- The next token may turn out to be a key. -/
def expectKey (l : Lexer) : Step :=
  if l.keyAllowed then
    l.forgetKey.map fun l =>
      { l with keys := { depth := l.depth, number := l.made.length,
                         required := l.depth == 0 && l.indent == l.cursor.column,
                         start := l.cursor } :: l.keys }
  else .ok l

/-- Close the block collections that are indented more than the column. -/
def closeBlocks (column : Int) (l : Lexer) : Lexer :=
  if l.depth = 0 then close l.indent l.outer l.made else l
where
  close (indent : Int) (outer : List Int) (made : List Token) : Lexer :=
    if column < indent then
      match outer with
      | next :: outer => close next outer (.blockEnd :: made)
      | [] => { l with indent := -1, outer := [], made }
    else { l with indent, outer, made }

/-- Open a block collection when the column is indented more than the innermost one; `number`
tokens are in front of its start. -/
def openBlock (column number : Nat) (start : Token) (l : Lexer) : Lexer :=
  if l.indent < column then
    { l with indent := column, outer := l.indent :: l.outer }.insert number start
  else l

/-- Pass over spaces, comments and ends of lines. -/
def skipToToken : Nat → Lexer → Lexer
  | 0, l => l
  | fuel + 1, l =>
    let cur := l.cursor.skipWhile isSpace
    let cur := if cur.peek = some '#' then cur.skipWhile (!isBreak ·) else cur
    match cur.lineBreak? with
    | some (_, after) =>
      skipToToken fuel { l with cursor := after, keyAllowed := l.keyAllowed || l.depth == 0 }
    | none => { l with cursor := cur }

/-! ## Names, tags and declarations -/

def isNameChar (c : Char) : Bool := c.isAlphanum || c == '-' || c == '_'

/-- Does the line end here, or a space follow? -/
def endsDeclared (cur : Cursor) : Bool := cur.peek.all fun c => c == ' ' || isBreak c

/-- The name of an anchor, and the place behind it. -/
def anchorName (cur : Cursor) : Except Fault (String × Cursor) :=
  let (name, cur) := cur.span isNameChar
  let ends (c : Char) : Bool := isGap c || isBreak c || "?:,]\x7d%@".toList.contains c || c.toNat == 96
  if name.isEmpty || !(cur.peek.all ends) then .error .malformed
  else .ok (String.ofList name, cur)

/-- The handle of a tag: exclamation marks around a name, or a single one. -/
def tagHandle (cur : Cursor) : Except Fault (String × Cursor) :=
  let inner := cur.skip 1
  if cur.peek ≠ some '!' then .error .malformed
  else if inner.peek = some ' ' then .ok ("!", inner)
  else
    let (name, cur) := inner.span isNameChar
    if cur.peek = some '!' then .ok ("!" ++ String.ofList name ++ "!", cur.skip 1)
    else .error .malformed

/-- Characters that stand in a tag as they are. -/
def isTagChar (c : Char) : Bool := c.isAlphanum || "-;/?:@&=+$,_.!~*'()[]".toList.contains c

/-- The bytes of a run of escapes, and what follows them. -/
def escapedBytes : Nat → List Char → List Nat → Option (List Nat × List Char)
  | 0, _, _ => none
  | fuel + 1, cs, read =>
    match cs with
    | '%' :: a :: b :: rest =>
      if isHexDigit a && isHexDigit b then escapedBytes fuel rest (hexValue [a, b] :: read)
      else none
    | '%' :: _ => none
    | _ => some (read.reverse, cs)

/-- A tag, or what a handle stands for: characters and escapes, at least one. -/
def tagText : Nat → Cursor → List Char → Scanned
  | 0, _, _ => .error .malformed
  | fuel + 1, cur, read =>
    if cur.peek = some '%' then
      match escapedBytes (cur.rest.length + 1) cur.rest [] with
      | none => .error .malformed
      | some (bytes, rest) =>
        match Text.decodeUtf8 bytes with
        | .ok cs => tagText fuel (cur.skip (cur.rest.length - rest.length)) (cs.reverse ++ read)
        | .error _ => .error .malformed
    else
      let (word, cur) := cur.span isTagChar
      if !word.isEmpty then tagText fuel cur (word.reverse ++ read)
      else if read.isEmpty then .error .malformed
      else .ok (read.reverse, cur)

/-- A tag and the place behind it. -/
def writtenTag (cur : Cursor) : Except Fault (WrittenTag × Cursor) := do
  let text (cur : Cursor) : Except Fault (String × Cursor) :=
    (tagText (2 * cur.rest.length + 2) cur []).map fun (cs, cur) => (String.ofList cs, cur)
  let inner := cur.skip 1
  let (tag, cur) ←
    if inner.peek = some '<' then do
      let (rest, cur) ← text (inner.skip 1)
      if cur.peek = some '>' then pure (⟨none, rest⟩, cur.skip 1) else throw .malformed
    else if Cursor.endsWord inner.rest then pure (⟨none, "!"⟩, inner)
    else do
      let word := inner.rest.takeWhile fun c => c != ' ' && !isBreak c
      let (handle, cur) ← if word.contains '!' then tagHandle cur else pure ("!", inner)
      let (rest, cur) ← text cur
      pure (⟨some handle, rest⟩, cur)
  if endsDeclared cur then pure (tag, cur) else throw .malformed

/-- The number at a place: at least one digit. -/
def declaredNumber (cur : Cursor) : Except Fault (Nat × Cursor) :=
  let (digits, cur) := cur.span Char.isDigit
  if digits.isEmpty then .error .malformed else .ok (Number.natOf digits, cur)

/-- A line that starts with a percent sign. -/
def declaration (cur : Cursor) : Except Fault (Declaration × Cursor) := do
  let (name, cur) := (cur.skip 1).span isNameChar
  if name.isEmpty || !endsDeclared cur then throw .malformed
  let (d, cur) ← match String.ofList name with
    | "YAML" => do
      let (major, cur) ← declaredNumber (cur.skipWhile isSpace)
      if cur.peek ≠ some '.' then throw .malformed
      let (_, cur) ← declaredNumber (cur.skip 1)
      if endsDeclared cur then pure (.version major, cur) else throw .malformed
    | "TAG" => do
      let (handle, cur) ← tagHandle (cur.skipWhile isSpace)
      if cur.peek ≠ some ' ' then throw .malformed
      let cur := cur.skipWhile isSpace
      let (expansion, cur) ← tagText (2 * cur.rest.length + 2) cur []
      if endsDeclared cur then pure (.handle handle (String.ofList expansion), cur)
      else throw .malformed
    | _ => pure (.unknown, cur.skipWhile (!isBreak ·))
  match cur.lineRest? with
  | some cur => pure (d, cur)
  | none => throw .malformed

/-! ## One token -/

/-- A mark between documents, or the end of the text, ends everything that is open. -/
def finish (l : Lexer) : Step := ((l.closeBlocks (-1)).forgetKey).map (·.allowKey false)

/-- A token of one character. -/
def mark (t : Token) (l : Lexer) : Lexer := (l.add t).skip 1

/-- The start of a flow collection. -/
def openFlow (t : Token) (l : Lexer) : Step :=
  l.expectKey.map fun l => ({ l with depth := l.depth + 1 }.allowKey true).mark t

/-- The end of a flow collection. -/
def closeFlow (t : Token) (l : Lexer) : Step :=
  if l.depth = 0 then .error .malformed
  else l.forgetKey.map fun l => ({ l with depth := l.depth - 1 }.allowKey false).mark t

/-- The mark of an item or of a key in a block collection. -/
def markBlock (t start : Token) (allowed : Bool) (l : Lexer) : Step := do
  if l.depth = 0 && !l.keyAllowed then throw .malformed
  let l := if l.depth = 0 then l.openBlock l.cursor.column l.made.length start else l
  (l.allowKey allowed).forgetKey.map (·.mark t)

/-- The colon of a value. -/
def markValue (l : Lexer) : Step :=
  match l.key? with
  | some k =>
    let l := { l with keys := l.keys.filter (·.depth != l.depth) }.insert k.number .key
    let l := if l.depth = 0 then l.openBlock k.start.column k.number .blockMappingStart else l
    .ok ((l.allowKey false).mark .value)
  | none => l.markBlock .value .blockMappingStart (l.depth == 0)

/-- A token that is read as a whole and may turn out to be a key. -/
def word (read : Cursor → Except Fault (Token × Cursor)) (l : Lexer) : Step := do
  let l ← l.expectKey
  let (t, cur) ← read l.cursor
  pure ({ l.allowKey false with cursor := cur }.add t)

/-- A scalar in quotes. -/
def quotedWord (quote : Char) (cur : Cursor) : Except Fault (Token × Cursor) :=
  (quotedScalar quote (cur.rest.length + 1) (cur.skip 1) []).map fun (cs, cur) =>
    (.scalar false (String.ofList cs), cur)

/-- A scalar in a block of lines. -/
def blockWord (fold : Bool) (l : Lexer) : Step := do
  let l ← (l.allowKey true).forgetKey
  let (cs, cur) ← blockScalar fold l.indent (l.cursor.skip 1)
  pure ({ l with cursor := cur }.add (.scalar false (String.ofList cs)))

/-- A plain scalar. When it ends with its line, the next line may start with a key. -/
def plainWord (l : Lexer) : Step := do
  let l ← l.expectKey
  let s := plainScalar (l.depth != 0) (l.indent + 1) (l.cursor.rest.length + 1) l.cursor [] [] false
  pure ({ l.allowKey s.broken with cursor := s.next }.add (.scalar true (String.ofList s.text)))

/-- Can a plain scalar start with this character? -/
def startsPlain (flow : Bool) (c : Char) (rest : List Char) : Bool :=
  if c == '-' || (!flow && (c == '?' || c == ':')) then !Cursor.endsWord rest
  else !(isGap c || isBreak c || "?:,[]\x7b\x7d#&*!|>'\"%@".toList.contains c || c.toNat == 96)

/-- The token at a place where one starts. -/
def token (l : Lexer) : Step :=
  let cur := l.cursor
  match cur.rest with
  | [] => l.finish.map fun l => { l with keys := [] }.add .textEnd
  | c :: rest =>
    let flow := l.depth != 0
    if c == '%' && cur.column == 0 then do
      let l ← l.finish
      let (d, cur) ← declaration cur
      pure ({ l with cursor := cur }.add (.declaration d))
    else if cur.column == 0 && cur.isRow '-' then
      l.finish.map fun l => (l.add .documentStart).skip 3
    else if cur.column == 0 && cur.isRow '.' then
      l.finish.map fun l => (l.add .documentEnd).skip 3
    else if c == '[' then l.openFlow .flowSequenceStart
    else if c == '\x7b' then l.openFlow .flowMappingStart
    else if c == ']' then l.closeFlow .flowSequenceEnd
    else if c == '\x7d' then l.closeFlow .flowMappingEnd
    else if c == ',' then ((l.allowKey true).forgetKey).map (·.mark .comma)
    else if c == '-' && Cursor.endsWord rest then l.markBlock .item .blockSequenceStart true
    else if c == '?' && (flow || Cursor.endsWord rest) then
      l.markBlock .key .blockMappingStart (!flow)
    else if c == ':' && (flow || Cursor.endsWord rest) then l.markValue
    else if c == '*' then
      l.word fun cur => (anchorName (cur.skip 1)).map fun (name, cur) => (.alias name, cur)
    else if c == '&' then
      l.word fun cur => (anchorName (cur.skip 1)).map fun (name, cur) => (.anchor name, cur)
    else if c == '!' then l.word fun cur => (writtenTag cur).map fun (t, cur) => (.tag t, cur)
    else if c == '|' && !flow then l.blockWord false
    else if c == '>' && !flow then l.blockWord true
    else if c == '\'' || c == '"' then l.word (quotedWord c)
    else if startsPlain flow c rest then l.plainWord
    else .error .malformed

/-- The next token: what lies in front of it is passed over, and indentation is heeded. -/
def step (l : Lexer) : Step := do
  let l ← (l.skipToToken (l.cursor.rest.length + 1)).forgetStale
  (l.closeBlocks l.cursor.column).token

/-- Find tokens up to the end of the text or the first fault. -/
def run : Nat → Lexer → Lexer × Option Fault
  | 0, l => (l, some .malformed)
  | fuel + 1, l =>
    match l.step with
    | .error f => (l, some f)
    | .ok next => if next.made.head? = some .textEnd then (next, none) else run fuel next

end Lexer

/-- The tokens of a text. When the text has a fault, they are those in front of it. -/
structure Tokens where
  list : List Token
  fault : Option Fault

/-- The tokens of a text. The mark of its encoding may stand first. -/
def Tokens.ofText (text : List Char) : Tokens :=
  let start : Cursor := { rest := text }
  let start := if start.peek = some encodingMark then start.skip 1 else start
  let (l, fault) := Lexer.run (text.length + 2) { cursor := start }
  ⟨l.made.reverse, fault⟩

end Workbench.Yaml
