import Workbench.Json.Error

/-!
# Reading JSON

A reader of JSON texts over lists of characters. Each scanner takes the characters that are left
and gives back what it read with the characters after it; a fault is reported with the number of
characters left at its place. Nesting is followed down to `maxNesting` levels, and the reader
recurs on that budget.

Beyond the standard grammar it accepts the words `NaN`, `Infinity` and `-Infinity`.
-/
namespace Workbench.Json

/-- Why scanning stopped: as `DecodeError`, with places counted from the end of the text. -/
inductive Stop where
  | fault (fault : Fault) (left : Nat)
  | longInteger (digits : Nat)
  | tooDeep (container : Container)
  deriving DecidableEq, Repr

/-- What a scanner gives: a result and the characters after it. -/
abbrev Scanned (α : Type) := Except Stop (α × List Char)

/-- White space between tokens. -/
def isSpace (c : Char) : Bool := c == ' ' || c == '\t' || c == '\n' || c == '\r'

def skipSpace (s : List Char) : List Char := s.dropWhile isSpace

/-- The value of a hexadecimal digit. -/
def hexDigit? (c : Char) : Option Nat :=
  if '0' ≤ c && c ≤ '9' then some (c.toNat - '0'.toNat)
  else if 'a' ≤ c && c ≤ 'f' then some (c.toNat - 'a'.toNat + 10)
  else if 'A' ≤ c && c ≤ 'F' then some (c.toNat - 'A'.toNat + 10)
  else none

/-- The number written by exactly four hexadecimal digits at the front. -/
def hexFour? : List Char → Option Nat
  | a :: b :: c :: d :: _ => do
    let a ← hexDigit? a
    let b ← hexDigit? b
    let c ← hexDigit? c
    let d ← hexDigit? d
    pure (((a * 16 + b) * 16 + c) * 16 + d)
  | _ => none

def isHighSurrogate (n : Nat) : Bool := 0xD800 ≤ n && n ≤ 0xDBFF

def isLowSurrogate (n : Nat) : Bool := 0xDC00 ≤ n && n ≤ 0xDFFF

/-- The character of a code unit; a surrogate on its own stands for no character and is read as
the replacement character. -/
def charOfUnit (n : Nat) : Char :=
  if n.isValidChar then Char.ofNat n else Char.ofNat 0xFFFD

/-- The escape after `\u`, given the characters after the `u`: its character and how many
characters it uses. Four digits and at least one character after them are needed; otherwise the fault is at
the `u`. A high and a low surrogate escaped in a row are one character. -/
def unicodeEscape (s : List Char) : Except Stop (Char × Nat) :=
  if s.length ≤ 4 then .error (.fault .badUnicodeEscape (s.length + 1))
  else
    match hexFour? s with
    | none => .error (.fault .badUnicodeEscape (s.length + 1))
    | some high =>
      match s.drop 4 with
      | '\\' :: 'u' :: rest =>
        if isHighSurrogate high && 4 < rest.length then
          match hexFour? rest with
          | none => .error (.fault .badUnicodeEscape (rest.length + 1))
          | some low =>
            if isLowSurrogate low then
              .ok (Char.ofNat (0x10000 + (high - 0xD800) * 0x400 + (low - 0xDC00)), 10)
            else .ok (charOfUnit high, 4)
        else .ok (charOfUnit high, 4)
      | _ => .ok (charOfUnit high, 4)

/-- An escape, given the characters after the backslash: its character and how many characters
it uses. `opened` is the count of characters left at the opening quote. -/
def escape (opened : Nat) : List Char → Except Stop (Char × Nat)
  | [] => .error (.fault .unterminatedString opened)
  | '"' :: _ => .ok ('"', 1)
  | '\\' :: _ => .ok ('\\', 1)
  | '/' :: _ => .ok ('/', 1)
  | 'b' :: _ => .ok ('\x08', 1)
  | 'f' :: _ => .ok ('\x0c', 1)
  | 'n' :: _ => .ok ('\n', 1)
  | 'r' :: _ => .ok ('\r', 1)
  | 't' :: _ => .ok ('\t', 1)
  | 'u' :: rest =>
    match unicodeEscape rest with
    | .ok (c, used) => .ok (c, used + 1)
    | .error e => .error e
  | s => .error (.fault .badEscape (s.length + 1))

/-- The rest of a string after its opening quote. `skip` characters belong to an escape that
has been read already, and `read` holds the characters so far, last first. -/
def stringRest (opened : Nat) : Nat → List Char → List Char → Scanned String
  | _, [], _ => .error (.fault .unterminatedString opened)
  | skip + 1, _ :: rest, read => stringRest opened skip rest read
  | 0, c :: rest, read =>
    if c == '"' then .ok (String.ofList read.reverse, rest)
    else if c == '\\' then
      match escape opened rest with
      | .ok (e, used) => stringRest opened used rest (e :: read)
      | .error e => .error e
    else if c.toNat < 0x20 then .error (.fault .controlCharacter (rest.length + 1))
    else stringRest opened 0 rest (c :: read)

/-- A string, given the characters after its opening quote. -/
def scanString (rest : List Char) : Scanned String := stringRest (rest.length + 1) 0 rest []

/-- The number that a list of decimal digits writes. -/
def natOfDigits (ds : List Char) : Nat := ds.foldl (fun n d => n * 10 + (d.toNat - '0'.toNat)) 0

/-- The integer part of a number without its sign: one zero, or digits that do not start with a
zero. -/
def wholePart? (s : List Char) : Option (List Char × List Char) :=
  match s with
  | [] => none
  | c :: rest =>
    if c == '0' then some ([c], rest)
    else if c.isDigit then some (s.takeWhile Char.isDigit, s.dropWhile Char.isDigit)
    else none

/-- The fraction of a number: a point and at least one digit. -/
def fractionPart? : List Char → Option (List Char × List Char)
  | '.' :: rest =>
    let ds := rest.takeWhile Char.isDigit
    if ds.isEmpty then none else some (ds, rest.dropWhile Char.isDigit)
  | _ => none

/-- The exponent of a number: the letter, perhaps a sign, and at least one digit. -/
def exponentPart? (s : List Char) : Option (Int × List Char) :=
  match s with
  | c :: rest =>
    if c == 'e' || c == 'E' then
      let (negative, digits) : Bool × List Char := match rest with
        | '-' :: r => (true, r)
        | '+' :: r => (false, r)
        | r => (false, r)
      let ds := digits.takeWhile Char.isDigit
      if ds.isEmpty then none
      else
        let n : Int := natOfDigits ds
        some (if negative then -n else n, digits.dropWhile Char.isDigit)
    else none
  | [] => none

/-- The value of a number from its parts: an integer when there is neither fraction nor
exponent. -/
def numberValue (negative : Bool) (whole : List Char) (fraction : Option (List Char))
    (exponent : Option Int) : Except Stop Value :=
  match fraction, exponent with
  | none, none =>
    if maxIntegerDigits < whole.length then .error (.longInteger whole.length)
    else
      let n : Int := natOfDigits whole
      .ok (.int (if negative then -n else n))
  | _, _ =>
    let ds := whole ++ fraction.getD []
    let e := exponent.getD 0 - ((fraction.getD []).length : Int)
    let digits := ds.dropWhile (· == '0')
    .ok (.float (Number.Binary64.ofDecimal negative (natOfDigits digits) digits.length e))

/-- A number. -/
def scanNumber (s : List Char) : Scanned Value :=
  let (negative, unsigned) : Bool × List Char := match s with
    | '-' :: rest => (true, rest)
    | rest => (false, rest)
  match wholePart? unsigned with
  | none => .error (.fault .noValue s.length)
  | some (whole, rest) =>
    let (fraction, rest) : Option (List Char) × List Char := match fractionPart? rest with
      | some (ds, r) => (some ds, r)
      | none => (none, rest)
    let (exponent, rest) : Option Int × List Char := match exponentPart? rest with
      | some (e, r) => (some e, r)
      | none => (none, rest)
    match numberValue negative whole fraction exponent with
    | .ok v => .ok (v, rest)
    | .error e => .error e

/-- The words that stand for values. -/
def words : List (List Char × Value) :=
  [("null".toList, .null), ("true".toList, .bool true), ("false".toList, .bool false),
    ("NaN".toList, .float .nan), ("Infinity".toList, .float (.infinite false)),
    ("-Infinity".toList, .float (.infinite true))]

/-- A word or a number. -/
def scanPlain (s : List Char) : Scanned Value :=
  match words.find? (fun w => w.1.isPrefixOf s) with
  | some (w, v) => .ok (v, s.drop w.length)
  | none => scanNumber s

/-- The items of an array from the first one on, and its closing bracket. -/
def scanItems (item : List Char → Scanned Value) :
    Nat → List Char → List Value → Scanned (List Value)
  | 0, s, _ => .error (.fault .noValue s.length)
  | fuel + 1, s, read =>
    match item s with
    | .error e => .error e
    | .ok (v, s) =>
      match skipSpace s with
      | ']' :: rest => .ok ((v :: read).reverse, rest)
      | ',' :: rest => scanItems item fuel (skipSpace rest) (v :: read)
      | rest => .error (.fault .noComma rest.length)

/-- One member of an object: its name, a colon and its value. -/
def scanMember (item : List Char → Scanned Value) (s : List Char) : Scanned (String × Value) :=
  match s with
  | '"' :: rest =>
    match scanString rest with
    | .error e => .error e
    | .ok (name, rest) =>
      match skipSpace rest with
      | ':' :: rest =>
        match item (skipSpace rest) with
        | .error e => .error e
        | .ok (v, rest) => .ok ((name, v), rest)
      | rest => .error (.fault .noColon rest.length)
  | _ => .error (.fault .noName s.length)

/-- The members of an object from the first one on, and its closing brace. A repeated name
takes the last of its values at the place of the first. -/
def scanMembers (item : List Char → Scanned Value) :
    Nat → List Char → Members → Scanned Members
  | 0, s, _ => .error (.fault .noName s.length)
  | fuel + 1, s, read =>
    match scanMember item s with
    | .error e => .error e
    | .ok ((name, v), s) =>
      match skipSpace s with
      | '}' :: rest => .ok (read.put name v, rest)
      | ',' :: rest => scanMembers item fuel (skipSpace rest) (read.put name v)
      | rest => .error (.fault .noComma rest.length)

/-- A container, given the characters after its opening bracket and a scanner for the values
in it. -/
def scanContainer (item : List Char → Scanned Value) (c : Container) (s : List Char) :
    Scanned Value :=
  match c with
  | .array =>
    match skipSpace s with
    | ']' :: rest => .ok (.array [], rest)
    | rest =>
      match scanItems item (rest.length + 1) rest [] with
      | .ok (vs, rest) => .ok (.array vs, rest)
      | .error e => .error e
  | .object =>
    match skipSpace s with
    | '}' :: rest => .ok (.object [], rest)
    | rest =>
      match scanMembers item (rest.length + 1) rest [] with
      | .ok (ms, rest) => .ok (.object ms, rest)
      | .error e => .error e

/-- A value, given what to do with the characters after an opening bracket. -/
def scanWith (enter : Container → List Char → Scanned Value) (s : List Char) : Scanned Value :=
  match s with
  | '"' :: rest =>
    match scanString rest with
    | .ok (t, rest) => .ok (.string t, rest)
    | .error e => .error e
  | '[' :: rest => enter .array rest
  | '{' :: rest => enter .object rest
  | s => scanPlain s

/-- A value whose containers nest at most `budget` deep. -/
def scanValue : Nat → List Char → Scanned Value
  | 0 => scanWith (fun c _ => .error (.tooDeep c))
  | budget + 1 => scanWith (fun c s => scanContainer (scanValue budget) c s)

/-- The number of levels of nesting that are followed. -/
def maxNesting : Nat := 1000

/-- A value and nothing else but white space around it. -/
def scanText (text : List Char) : Except Stop Value :=
  match scanValue maxNesting (skipSpace text) with
  | .error e => .error e
  | .ok (v, rest) =>
    match skipSpace rest with
    | [] => .ok v
    | rest => .error (.fault .extraData rest.length)

/-- The cause of a stop, its place counted from the front of the text. -/
def Stop.toError (text : List Char) : Stop → DecodeError
  | fault f left => .malformed f (Place.of text (text.length - left))
  | longInteger digits => .longInteger digits
  | tooDeep c => .tooDeep c

/-- Decode a list of characters. -/
def decodeChars (text : List Char) : Except DecodeError Value :=
  match scanText text with
  | .ok v => .ok v
  | .error e => .error (e.toError text)

/-- Decode a text; one that starts with a byte-order mark is refused. -/
def decode (text : String) : Except DecodeError Value :=
  if text.toList.head? = some '\ufeff' then
    .error (.malformed .byteOrderMark (Place.of text.toList 0))
  else decodeChars text.toList

/-- Does the text decode? -/
def isJson (text : String) : Bool := (decode text).isOk

end Workbench.Json
