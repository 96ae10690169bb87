import Workbench.Text.Blank
import Workbench.Text.Lines

/-!
# Files of variables

A reader of `.env` files: lines `NAME=value`, perhaps after `export`, with values in single
quotes, in double quotes with escapes, or plain with a comment after white space. A name without
an equals sign is a variable without a value. A line that does not fit is skipped from where it
stops fitting. In a value, `$\x7bNAME\x7d` stands for the value of an earlier variable or one of
the environment, and `$\x7bNAME:-other\x7d` gives a replacement for a missing one.
-/
namespace Workbench.Settings.Dotenv

/-- Variables in order, each with its value if it has one. -/
abbrev Variables := List (String × Option String)

/-- White space within a line. -/
def isInner (c : Char) : Bool := Text.isBlankChar c && c != '\n'

def skipInner (cs : List Char) : List Char := cs.dropWhile isInner

/-- What follows the line. -/
def nextLine (cs : List Char) : List Char := (cs.dropWhile (· != '\n')).drop 1

/-- The text up to the closing quote and what follows. A backslash and a quote or backslash after
it belong together, unless no quote would be left to close. -/
def quoted? (mark : Char) : List Char → List Char → Option (List Char × List Char)
  | [], _ => none
  | [c], read => if c == mark then some (read.reverse, []) else none
  | c :: d :: rest, read =>
    if c == mark then some (read.reverse, d :: rest)
    else if c == '\\' && (d == '\\' || d == mark) && rest.contains mark then
      quoted? mark rest (d :: c :: read)
    else quoted? mark (d :: rest) (c :: read)

/-- The character that an escape in double quotes stands for. -/
def doubleEscapes : List (Char × Char) :=
  [('\\', '\\'), ('\'', '\''), ('"', '"'), ('a', '\x07'), ('b', '\x08'), ('f', '\x0c'),
    ('n', '\n'), ('r', '\r'), ('t', '\t'), ('v', '\x0b')]

def singleEscapes : List (Char × Char) := [('\\', '\\'), ('\'', '\'')]

/-- Escapes replaced by what they stand for. -/
def unescape (escapes : List (Char × Char)) : List Char → List Char
  | '\\' :: c :: rest =>
    match escapes.lookup c with
    | some e => e :: unescape escapes rest
    | none => '\\' :: unescape escapes (c :: rest)
  | c :: rest => c :: unescape escapes rest
  | [] => []

/-- A plain value without the comment after white space. `gap` says whether there is white space
in front. -/
def withoutComment (gap : Bool) : List Char → List Char
  | [] => []
  | c :: rest => if c == '#' && gap then [] else c :: withoutComment (Text.isBlankChar c) rest

/-- Something read, or else what follows the place where the line stops fitting. -/
abbrev Reading := Except (List Char)

/-- The value behind an equals sign, and what follows it. -/
def value (afterSign : List Char) : Reading (List Char × List Char) :=
  let cs := skipInner afterSign
  let inQuotes (mark : Char) (escapes : List (Char × Char)) (rest : List Char) :
      Reading (List Char × List Char) :=
    match quoted? mark rest [] with
    | some (v, after) => .ok (unescape escapes v, after)
    | none => .error cs
  match cs with
  | '\'' :: rest => inQuotes '\'' singleEscapes rest
  | '"' :: rest => inQuotes '"' doubleEscapes rest
  | _ =>
    let line := cs.takeWhile (· != '\n')
    let v := withoutComment (cs.length < afterSign.length) line
    .ok ((v.reverse.dropWhile Text.isBlankChar).reverse, cs.drop line.length)

/-- The name that a line starts with, and what follows it. A line that is a comment has none. -/
def name (cs : List Char) : Reading (Option (List Char) × List Char) :=
  match cs with
  | '#' :: _ => .ok (none, cs)
  | '\'' :: rest =>
    let key := rest.takeWhile (· != '\'')
    match key, rest.drop key.length with
    | _ :: _, '\'' :: after => .ok (some key, after)
    | _, _ => .error cs
  | _ =>
    let key := cs.takeWhile fun c => c != '=' && c != '#' && !Text.isBlankChar c
    if key.isEmpty then .error cs else .ok (some key, cs.drop key.length)

/-- What follows the end of a line: perhaps a comment comes first, and nothing else. -/
def lineEnd (cs : List Char) : Reading (List Char) :=
  let cs := match skipInner cs with
    | '#' :: rest => rest.dropWhile (· != '\n')
    | _ => cs
  match skipInner cs with
  | [] => .ok []
  | '\n' :: rest => .ok rest
  | _ => .error cs

/-- The word before a name, if it is there. -/
def skipExport (cs : List Char) : List Char :=
  if "export".toList.isPrefixOf cs && ((cs.drop 6).head?.any isInner) then skipInner (cs.drop 6)
  else cs

/-- The variable of a line, if the line is not a comment, and what follows the line. -/
def binding (cs : List Char) : Reading (Option (String × Option String) × List Char) := do
  let (key, rest) ← name (skipExport cs)
  let (v, rest) ← match skipInner rest with
    | '=' :: rest => do
      let (v, rest) ← value rest
      pure (some (String.ofList v), rest)
    | rest => pure (none, rest)
  let rest ← lineEnd rest
  pure (key.map fun k => (String.ofList k, v), rest)

/-- All variables of a file, in order. -/
def bindings : Nat → List Char → Variables
  | 0, _ => []
  | fuel + 1, cs =>
    match cs.dropWhile Text.isBlankChar with
    | [] => []
    | cs =>
      match binding cs with
      | .ok (found, rest) => found.toList ++ bindings fuel rest
      | .error rest => bindings fuel (nextLine rest)

/-- The reference at the front of a value, after its `$\x7b`: name, replacement, and the rest. -/
def reference? (cs : List Char) : Option (String × String × List Char) :=
  let name := cs.takeWhile fun c => c != '\x7d' && c != ':'
  match cs.drop name.length with
  | '\x7d' :: rest => some (String.ofList name, "", rest)
  | ':' :: '-' :: rest =>
    let other := rest.takeWhile (· != '\x7d')
    match rest.drop other.length with
    | _ :: after => some (String.ofList name, String.ofList other, after)
    | [] => none
  | _ => none

/-- A value with its references replaced. A variable without a value counts as empty. -/
def expand (known : Variables) : Nat → List Char → List Char
  | 0, cs => cs
  | _ + 1, [] => []
  | fuel + 1, c :: rest =>
    match c, rest with
    | '$', '\x7b' :: more =>
      match reference? more with
      | some (name, other, after) =>
        (((known.lookup name).getD (some other)).getD "").toList ++ expand known fuel after
      | none => c :: expand known fuel rest
    | _, _ => c :: expand known fuel rest

/-- Set a variable: a name that is there already keeps its place. -/
def put (name : String) (value : Option String) : Variables → Variables
  | [] => [(name, value)]
  | (n, v) :: rest => if n = name then (n, value) :: rest else (n, v) :: put name value rest

/-- The text without the mark of its encoding. -/
def withoutMark (cs : List Char) : List Char :=
  match cs with
  | '\ufeff' :: rest => rest
  | _ => cs

/-- The variables of a file, given those of the environment. -/
def read (environment : List (String × String)) (text : String) : Variables :=
  let cs := Text.unifyLineEnds (withoutMark text.toList)
  let outer : Variables := environment.map fun (name, v) => (name, some v)
  (bindings (cs.length + 1) cs).foldl
    (fun found (name, v) =>
      let expanded (v : String) : String :=
        let cs := v.toList
        String.ofList (expand (found ++ outer) (cs.length + 1) cs)
      put name (v.map expanded) found)
    []

end Workbench.Settings.Dotenv
