import Workbench.Text.Lines

/-!
# Ranges of code points

Sets of characters are given as arrays of ranges in ascending order, and looked up by halving. A
range may carry a value. Long tables are written as texts of hexadecimal numbers.
-/
namespace Workbench.Text

/-- The entry whose range holds a number, between the positions `low` and `high`. The ranges are in
ascending order, so each step halves the positions left. -/
def searchBetween {α : Type} (bounds : α → Nat × Nat) (table : Array α) (n : Nat) :
    Nat → Nat → Nat → Option α
  | 0, _, _ => none
  | fuel + 1, low, high =>
    if high ≤ low then none
    else
      let middle := (low + high) / 2
      match table[middle]? with
      | none => none
      | some entry =>
        let (first, last) := bounds entry
        if n < first then searchBetween bounds table n fuel low middle
        else if last < n then searchBetween bounds table n fuel (middle + 1) high
        else some entry

/-- The entry whose range holds a number. There may be up to four thousand of them. -/
def search {α : Type} (bounds : α → Nat × Nat) (table : Array α) (n : Nat) : Option α :=
  searchBetween bounds table n 12 0 table.size

/-- Is the number in one of the ranges? -/
def inSome (ranges : Array (Nat × Nat)) (n : Nat) : Bool := (search id ranges n).isSome

/-- The start and the value of the range that holds a number. -/
def valueIn (table : Array (Nat × Nat × Nat)) (n : Nat) : Option (Nat × Nat) :=
  (search (fun e => (e.1, e.2.1)) table n).map fun e => (e.1, e.2.2)

/-! ## Tables as texts -/

/-- The value of a hexadecimal digit in small letters. -/
def hexValue (c : Char) : Nat := if c.isDigit then c.toNat - 0x30 else c.toNat - 0x57

/-- The numbers of an entry, with marks between them. -/
def entryNumbers (entry : List Char) : List Nat :=
  (splitBy (fun c => c == '-' || c == '=' || c == '+') entry).map
    (·.foldl (fun n c => n * 16 + hexValue c) 0)

/-- The numbers of each entry of a table. -/
def tableEntries (table : String) : List (List Nat) :=
  ((splitBy (fun c => c == ' ' || c == '\n') table.toList).filter (!·.isEmpty)).map entryNumbers

/-- The ranges of a table: the first code point and the last one, or one that stands alone. -/
def rangeTable (table : String) : Array (Nat × Nat) :=
  ((tableEntries table).filterMap fun
    | [n] => some (n, n)
    | [first, last] => some (first, last)
    | _ => none).toArray

/-- The entries of a table that have three numbers. -/
def tripleTable (table : String) : Array (Nat × Nat × Nat) :=
  ((tableEntries table).filterMap fun
    | [a, b, c] => some (a, b, c)
    | _ => none).toArray

end Workbench.Text
