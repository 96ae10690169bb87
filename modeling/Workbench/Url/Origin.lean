import Workbench.Url.Basic

/-!
# Origins

Where an answer comes from is told by its address: by the kind in front of the first colon, and by
the host between two slashes and the next one. An address may be without a kind; and the path of
one without a host may begin with two slashes, so that it looks like one with a host.
-/
namespace Workbench.Url

/-- Why an address does not tell where an answer comes from. -/
inductive OriginFault where
  | noKind (shown : String)
  /-- A bracket in the host has no partner. -/
  | loneBracket
  /-- What is in brackets is no host by number. -/
  | noAddress (text : String)
  | noFutureAddress
  /-- What is in brackets is four decimal numbers. -/
  | bracketedQuad
  deriving DecidableEq, Repr

def OriginFault.message : OriginFault → String
  | noKind shown => "unknown url type: " ++ Text.quoted shown
  | loneBracket => "Invalid IPv6 URL"
  | noAddress text => Text.quoted text ++ " does not appear to be an IPv4 or IPv6 address"
  | noFutureAddress => "IPvFuture address is invalid"
  | bracketedQuad => "An IPv4 address cannot be in brackets"

/-- Does a kind of address come first? It ends at the first colon, before any slash. -/
def hasKind (u : Url) : Bool :=
  let kind := u.page.takeWhile fun c => c != '/' && c != ':'
  !kind.isEmpty && u.page[kind.length]? == some ':'

/-- The address as messages show it: a mark at the end with nothing behind it is left out. -/
def shown (u : Url) : String :=
  let text := u.text.toList
  String.ofList (if text.getLast? = some '#' then text.dropLast else text)

/-- What looks like the host where there is none. -/
def seemingHost (u : Url) : List Char :=
  match u.scheme, u.authority, u.path with
  | _ :: _, [], '/' :: '/' :: rest => rest.takeWhile (· != '/')
  | _, _, _ => []

/-- Is the text the number of a host in a form of the future: a version and the number? -/
def isFutureAddress (text : List Char) : Bool :=
  let version := (text.drop 1).takeWhile Hostname.isHexDigit
  !version.isEmpty && match text.drop (version.length + 1) with
    | '.' :: _ :: _ => true
    | _ => false

/-- What is wrong with a text between brackets. -/
def bracketFault? (text : List Char) : Option OriginFault :=
  if text.head? = some 'v' then if isFutureAddress text then none else some .noFutureAddress
  else if Hostname.isQuad text then some .bracketedQuad
  else if Hostname.isGroupAddress text then none
  else some (.noAddress (String.ofList text))

/-- What is wrong with brackets in a host. -/
def hostFault? (host : List Char) : Option OriginFault :=
  if host.contains '[' != host.contains ']' then some .loneBracket
  else if host.contains '[' then
    bracketFault? (((host.dropWhile (· != '[')).drop 1).takeWhile (· != ']'))
  else none

/-- Why the address does not tell where an answer comes from, if it does not. -/
def originFault? (u : Url) : Option OriginFault :=
  if !u.hasKind then some (.noKind u.shown) else hostFault? u.seemingHost

end Workbench.Url
