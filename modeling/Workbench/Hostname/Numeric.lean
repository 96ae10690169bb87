import Workbench.Text.Lines

/-!
# Hosts by number

A host may be given by its number: four decimal numbers up to 255, or eight groups of up to four
hexadecimal digits, where one run of zero groups may be left out and the last two groups may be
written as four decimal numbers.
-/
namespace Workbench.Hostname

/-- The states that a character leads to from a state of reading four runs of digits, any one
character between them. Even states wait for a run, odd ones are inside of one. -/
def runStates (c : Char) (state : Nat) : List Nat :=
  (if c.isDigit then [if state % 2 = 0 then state + 1 else state] else []) ++
    if state % 2 = 1 && state < 7 then [state + 1] else []

/-- Does the text look like four decimal numbers, with any one character between them? -/
def looksNumeric (host : List Char) : Bool :=
  (host.foldl (fun states c => (states.flatMap (runStates c)).eraseDups) [0]).contains 7

/-- Is the text a number up to 255 without superfluous zeros? -/
def isOctet (text : List Char) : Bool :=
  !text.isEmpty && text.all Char.isDigit && text.length ≤ 3 &&
    (text == ['0'] || text.head? != some '0') &&
    text.foldl (fun n c => n * 10 + (c.toNat - '0'.toNat)) 0 ≤ 255

/-- Is the text four decimal numbers? -/
def isQuad (host : List Char) : Bool :=
  let octets := Text.splitBy (· == '.') host
  octets.length = 4 && octets.all isOctet

def isHexDigit (c : Char) : Bool :=
  c.isDigit || ('a' ≤ c && c ≤ 'f') || ('A' ≤ c && c ≤ 'F')

/-- Is the text a group of hexadecimal digits? -/
def isGroup (text : List Char) : Bool :=
  !text.isEmpty && text.length ≤ 4 && text.all isHexDigit

/-- Groups between colons, the last of which may be four decimal numbers in place of two groups. -/
def groups? (address : List Char) : Option (List (List Char)) :=
  let groups := Text.splitBy (· == ':') address
  match groups.getLast? with
  | some final =>
    if groups.length < 3 then none
    else if !final.contains '.' then some groups
    else if isQuad final then some (groups.dropLast ++ [['0'], ['0']])
    else none
  | none => none

/-- The places of groups that are left out, the two ends apart. -/
def gaps (groups : List (List Char)) : List Nat :=
  (List.range groups.length).filter fun i =>
    0 < i && i + 1 < groups.length && groups[i]? == some []

/-- The groups on one side of a gap, of which the outermost may be empty if it is alone. -/
def besideGap (outermost : Option (List Char)) (groups : List (List Char)) :
    Option (List (List Char)) :=
  if outermost != some [] then some groups else if groups.length = 1 then some [] else none

/-- Are these the groups of an address? -/
def areGroups (groups : List (List Char)) : Bool :=
  match gaps groups with
  | [] => groups.length = 8 && groups.all isGroup
  | [gap] =>
    let high := groups.take gap
    let low := groups.drop (gap + 1)
    match besideGap high.head? high, besideGap low.getLast? low with
    | some high, some low => high.length + low.length < 8 && (high ++ low).all isGroup
    | _, _ => false
  | _ => false

/-- Is the text eight groups, or fewer around a gap? A zone may follow after a percent sign. -/
def isGroupAddress (host : List Char) : Bool :=
  let address := host.takeWhile (· != '%')
  let zoneFits := match host.drop address.length with
    | [] => true
    | _ :: zone => !zone.isEmpty && !zone.contains '%'
  !host.contains '/' && zoneFits && (groups? address).any areGroups

end Workbench.Hostname
