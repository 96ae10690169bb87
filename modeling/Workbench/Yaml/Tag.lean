import Workbench.Text.Lines
import Workbench.Yaml.Moment
import Workbench.Yaml.Scalar

/-!
# Types of scalars

A tag says what a node stands for. A plain scalar has none and is recognised by its look, by the
rules of version 1.1: `yes` and `on` are truth values, `010` is octal, `1:30` is in base sixty, and
`1e3` is text.
-/
namespace Workbench.Yaml

/-- What a node stands for. -/
inductive Tag where
  | null
  | bool
  | int
  | float
  | moment
  | string
  | binary
  | sequence
  | mapping
  | set
  /-- A sequence of mappings with one member each. -/
  | pairs
  /-- The key under which members of other mappings are taken over. -/
  | merge
  /-- The key for a default value. -/
  | default
  | unknown
  deriving DecidableEq, Repr

namespace Tag

/-- What the double exclamation mark stands for. -/
def standard : String := "tag:yaml.org,2002:"

/-- The standard tags. -/
def names : List (String × Tag) :=
  [("null", null), ("bool", bool), ("int", int), ("float", float), ("timestamp", moment),
    ("str", string), ("binary", binary), ("seq", sequence), ("map", mapping), ("set", set),
    ("pairs", pairs), ("omap", pairs), ("merge", merge), ("value", default)]

/-- The tag with a full name. -/
def ofName (s : String) : Tag :=
  if standard.toList.isPrefixOf s.toList then
    (names.lookup (String.ofList (s.toList.drop standard.length))).getD unknown
  else unknown

/-! ## The look of plain scalars -/

/-- A word in one of the three cases in which scalars are recognised: all lower, first letter
upper, all upper. -/
def isCased (word s : String) : Bool :=
  s == word || s == word.capitalize || s == word.toUpper

def boolWords : List String := ["yes", "no", "true", "false", "on", "off"]

def isBoolWord (s : String) : Bool := boolWords.any (isCased · s)

def isNullWord (s : String) : Bool := s == "" || s == "~" || isCased "null" s

/-- A digit or an underscore. -/
def isPlace (c : Char) : Bool := c.isDigit || c == '_'

/-- A place of a number in base sixty: one digit, or two with the first below six. -/
def isSixtieth (cs : List Char) : Bool :=
  match cs with
  | [a] => a.isDigit
  | [a, b] => '0' ≤ a && a ≤ '5' && b.isDigit
  | _ => false

/-- The text between colons. -/
def places (cs : List Char) : List (List Char) := Text.splitBy (· == ':') cs

/-- Does the scalar look like an integer? -/
def isInt (cs : List Char) : Bool :=
  let (_, cs) := Number.splitSign cs
  let filled (p : Char → Bool) (ds : List Char) : Bool := !ds.isEmpty && ds.all p
  match cs with
  | ['0'] => true
  | '0' :: 'b' :: ds => filled (fun c => c == '0' || c == '1' || c == '_') ds
  | '0' :: 'x' :: ds => filled (fun c => isHexDigit c || c == '_') ds
  | '0' :: ds => filled (fun c => ('0' ≤ c && c ≤ '7') || c == '_') ds
  | c :: _ =>
    c.isDigit &&
      match places cs with
      | first :: rest => first.all isPlace && rest.all isSixtieth
      | [] => false
  | [] => false

/-- Nothing, or an exponent with its sign. -/
def isExponent (cs : List Char) : Bool :=
  match cs with
  | [] => true
  | e :: s :: ds => (e == 'e' || e == 'E') && (s == '+' || s == '-') && Number.isDigits ds
  | _ => false

/-- Digits behind a point, and perhaps an exponent. -/
def isFraction (cs : List Char) : Bool := isExponent (cs.dropWhile isPlace)

/-- Does the scalar look like a floating-point number? Without digits in front of the point it has
no sign. -/
def isFloat (cs : List Char) : Bool :=
  let (_, unsigned) := Number.splitSign cs
  let word := String.ofList unsigned
  let front := unsigned.takeWhile isPlace
  if String.ofList cs == ".nan" || String.ofList cs == ".NaN" || String.ofList cs == ".NAN" then true
  else if word == ".inf" || word == ".Inf" || word == ".INF" then true
  else
    match front, unsigned.drop front.length with
    | [], '.' :: more => unsigned.length == cs.length && more.head?.any Char.isDigit && isFraction more
    | c :: _, '.' :: more => c.isDigit && isFraction more
    | c :: _, ':' :: more =>
      let parts := places more
      let last := parts.getLastD []
      let whole := last.takeWhile (· != '.')
      c.isDigit && (parts.dropLast).all isSixtieth && isSixtieth whole &&
        match last.drop whole.length with
        | '.' :: ds => ds.all isPlace
        | _ => false
    | _, _ => false

/-- The tag of a plain scalar. -/
def ofPlain (s : String) : Tag :=
  let cs := s.toList
  if isBoolWord s then bool
  else if isFloat cs then float
  else if isInt cs then int
  else if s == "<<" then merge
  else if isNullWord s then null
  else if (Moment.ofText? cs).any Moment.isPlain then moment
  else if s == "=" then default
  else string

end Tag

end Workbench.Yaml
