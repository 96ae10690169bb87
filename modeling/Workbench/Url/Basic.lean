import Workbench.Hostname.Name
import Workbench.Hostname.Numeric
import Workbench.Number.Reading
import Workbench.Text.Lowercase
import Workbench.Url.Fault

/-!
# Addresses

An address in normal form: scheme and host in lower case, names of other scripts in ASCII, the
number behind the host only where it is not the scheme's own, no dot segments in the path, and
characters that may not stand in a part escaped: each is written as its bytes, a percent sign and
two hexadecimal digits for one. What may stand differs from part to part; a percent sign may stand in
each, so that escapes are kept. The text is split first and each part is then brought into normal
form.
-/
namespace Workbench

/-- An address in normal form. -/
structure Url where
  /-- Empty if the address has no scheme. -/
  scheme : List Char
  user : List Char
  /-- The host; a number in groups is without its brackets. -/
  host : List Char
  /-- The number behind the host. -/
  portNumber : Option Int
  path : List Char
  query : Option (List Char)
  fragment : Option (List Char)
  deriving DecidableEq, Repr

namespace Url

/-! ## Escapes -/

/-- Printable ASCII characters, the given ones apart. -/
def isVisibleBut (others : String) (c : Char) : Bool :=
  0x20 < c.toNat && c.toNat < 0x7F && !others.toList.contains c

def isFragmentChar : Char → Bool := isVisibleBut "\"<>`"

def isQueryChar : Char → Bool := isVisibleBut "\"#<>"

def isPathChar : Char → Bool := isVisibleBut "\"#<>?`\x7b\x7d"

def isUserChar : Char → Bool := isVisibleBut "\"#<>?`\x7b\x7d/;=@[\\]^|"

def isHostChar : Char → Bool := isVisibleBut "#/:<>?@[]^"

/-- A byte as an escape. -/
def escapedByte (b : UInt8) : List Char :=
  ['%', (Nat.digitChar (b.toNat / 16)).toUpper, (Nat.digitChar (b.toNat % 16)).toUpper]

/-- A text with escapes for characters that may not stand in it. -/
def escaped (may : Char → Bool) (text : List Char) : List Char :=
  text.flatMap fun c => if may c then [c] else c.toString.toUTF8.toList.flatMap escapedByte

/-! ## Splitting -/

/-- The parts of an address as they are written: what is between two slashes and the path is not
split yet. -/
structure Parts where
  scheme : List Char
  authority : List Char
  path : List Char
  query : Option (List Char)
  fragment : Option (List Char)
  deriving DecidableEq, Repr

/-- What is in front of a mark, and what is behind it if it is there. -/
def cut (mark : Char) (text : List Char) : List Char × Option (List Char) :=
  let front := text.takeWhile (· != mark)
  (front, (text.drop front.length).tail?)

def isSchemeChar (c : Char) : Bool := c.isAlphanum || c == '+' || c == '.' || c == '-'

/-- Is the text a scheme, or empty? -/
def isScheme (text : List Char) : Bool :=
  text.all isSchemeChar && text.head?.all Char.isAlpha

/-- The scheme in front of the first colon, and the rest. -/
def cutScheme (text : List Char) : List Char × List Char :=
  match cut ':' text with
  | (scheme, some rest) => if isScheme scheme then (scheme, rest) else ([], text)
  | (_, none) => ([], text)

/-- The parts of a text. -/
def Parts.ofText (text : List Char) : Parts :=
  let (scheme, rest) := cutScheme text
  let (rest, fragment) := cut '#' rest
  let (rest, query) := cut '?' rest
  match rest with
  | '/' :: '/' :: rest =>
    ⟨scheme, rest.takeWhile (· != '/'), rest.dropWhile (· != '/'), query, fragment⟩
  | path => ⟨scheme, [], path, query, fragment⟩

/-- The text behind the last place of a mark, and what is in front of it; all of it if the mark is
not there. -/
def cutLast (mark : Char) (text : List Char) : List Char × List Char :=
  let back := (text.reverse.takeWhile (· != mark)).reverse
  ((text.take (text.length - back.length)).dropLast, back)

/-- User, host and the number behind it. A host in brackets ends with the last bracket. -/
def splitAuthority (authority : List Char) : List Char × List Char × List Char :=
  let (user, rest) := cutLast '@' authority
  let host :=
    if rest.head? = some '[' && rest.contains ']' then
      rest.take (rest.length - (rest.reverse.takeWhile (· != ']')).length)
    else rest.takeWhile (· != ':')
  let portNumber := match rest.drop host.length with
    | ':' :: digits => digits
    | digits => digits
  (user, host, portNumber)

/-! ## Normal form -/

/-- The number that a scheme implies. -/
def usualPort? (scheme : List Char) : Option Int :=
  [("ftp", 21), ("http", 80), ("https", 443), ("ws", 80), ("wss", 443)].lookup
    (String.ofList scheme)

/-- The number behind a host unless it is the scheme's own. -/
def normalPort (scheme digits : List Char) : Except Fault (Option Int) :=
  if digits.isEmpty then .ok none
  else
    match Number.readWhole? (String.ofList digits) with
    | none => .error (.portNumber (String.ofList digits))
    | some n => .ok (if usualPort? scheme = some n then none else some n)

/-- A host in normal form. -/
def normalHost (host : List Char) : Except Fault (List Char) :=
  if host.isEmpty then .ok []
  else if Hostname.looksNumeric host then
    if Hostname.isQuad host then .ok host else .error (.quad (String.ofList host))
  else if host.head? = some '[' && host.getLast? = some ']' && 1 < host.length then
    let inside := host.tail.dropLast
    if Hostname.isGroupAddress inside then .ok inside else .error (.groups (String.ofList host))
  else if host.all fun c => c.toNat < 0x80 then .ok (escaped isHostChar (host.map Char.toLower))
  else
    match Hostname.asciiName? (Text.lowercase host) with
    | some name => .ok name
    | none => .error (.name (String.ofList host))

/-- The segments of a path without those that are dots: two dots take away the one before, except
for the empty one at the start. -/
def withoutDots (segments : List (List Char)) : List (List Char) :=
  (segments.foldl
    (fun (kept : List (List Char)) segment =>
      if segment = ['.'] then kept
      else if segment = ['.', '.'] then if kept = [[]] then kept else kept.tail
      else segment :: kept) []).reverse

/-- A path without dot segments. -/
def normalPath (path : List Char) : List Char :=
  let segments := Text.splitBy (· == '/') path
  if segments.contains ['.'] || segments.contains ['.', '.'] then
    ['/'].intercalate (withoutDots segments)
  else path

/-- What is wrong with the place of a path. -/
def pathFault? (hasScheme hasHost : Bool) (path : List Char) : Option Fault :=
  if hasHost then
    if path.isEmpty || path.head? = some '/' then none else some .bareAfterHost
  else if hasScheme then none
  else if ['/', '/'].isPrefixOf path then some .doubleSlash
  else if path.head? = some ':' then some .leadingColon
  else none

/-- The address that has the given parts. -/
def ofParts (p : Parts) : Except Fault Url := do
  let (user, host, digits) := splitAuthority p.authority
  let user := escaped isUserChar user
  let host ← normalHost host
  let portNumber ← normalPort p.scheme digits
  let hasHost := !user.isEmpty || !host.isEmpty || portNumber.isSome
  let hasScheme := !p.scheme.isEmpty
  match pathFault? hasScheme hasHost p.path with
  | some fault => throw fault
  | none =>
    let path := if hasScheme || hasHost then normalPath p.path else p.path
    pure
      { scheme := p.scheme.map Char.toLower
        user, host, portNumber
        path := escaped isPathChar path
        query := p.query.map (escaped isQueryChar)
        fragment := p.fragment.map (escaped isFragmentChar) }

/-- More characters than this are not taken. -/
def longest : Nat := 65536

def isControl (c : Char) : Bool := c.toNat < 0x20 || c.toNat == 0x7F

/-- The address that is written in a text. -/
def ofText (text : List Char) : Except Fault Url :=
  if longest < text.length then .error .tooLong
  else
    let front := text.takeWhile (!isControl ·)
    match (text.drop front.length).head? with
    | some c => .error (.control c front.length)
    | none => ofParts (Parts.ofText text)

/-! ## Writing -/

/-- The host and the number behind it as they are written. -/
def hostText (u : Url) : List Char :=
  (if u.host.contains ':' then '[' :: u.host ++ [']'] else u.host) ++
    (u.portNumber.map fun n => ':' :: (toString n).toList).getD []

/-- Everything between the two slashes and the path. -/
def authority (u : Url) : List Char :=
  (if u.user.isEmpty then [] else u.user ++ ['@']) ++ u.hostText

/-- An optional part behind its mark. -/
def marked (mark : Char) (part : Option (List Char)) : List Char :=
  (part.map (mark :: ·)).getD []

/-- The address without its fragment. -/
def page (u : Url) : List Char :=
  (if u.scheme.isEmpty then [] else u.scheme ++ [':']) ++
    (if u.authority.isEmpty then [] else '/' :: '/' :: u.authority) ++
    u.path ++ marked '?' u.query

def text (u : Url) : String := String.ofList (u.page ++ marked '#' u.fragment)

/-! ## Addresses below others -/

/-- Path and query, in which an empty path is a slash. -/
def target (u : Url) : List Char :=
  (if u.path.isEmpty then ['/'] else u.path) ++ marked '?' u.query

/-- The address with another path and query. Its parts are brought into normal form once more. -/
def withTarget (u : Url) (target : List Char) : Except Fault Url :=
  let (path, query) := cut '?' target
  let parts := [("authority", u.authority), ("path", path), ("query", query.getD []),
    ("fragment", u.fragment.getD [])]
  match parts.find? fun p => longest < p.2.length with
  | some (name, _) => .error (.longPart name)
  | none => ofParts ⟨u.scheme, u.authority, path, query, u.fragment⟩

/-- The address that others are put below: it ends in a slash. -/
def asBase (u : Url) : Except Fault Url :=
  if u.target.getLast? = some '/' then .ok u else u.withTarget (u.target ++ ['/'])

/-- The address of a path below a base address. -/
def below (u : Url) (path : List Char) : Except Fault Url :=
  u.withTarget (u.target ++ path.dropWhile (· == '/'))

end Url

end Workbench
