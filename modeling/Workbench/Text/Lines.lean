/-!
# Lines

Splitting a text into lines, and writing all ends of lines in one way. `splitBy_ne_nil` says that
there is always a first line.
-/
namespace Workbench.Text

/-- The pieces of a text between the characters that end a line. -/
def splitBy (isEnd : Char → Bool) : List Char → List (List Char)
  | [] => [[]]
  | c :: cs =>
    if isEnd c then [] :: splitBy isEnd cs
    else
      match splitBy isEnd cs with
      | [] => [[c]]
      | line :: rest => (c :: line) :: rest

theorem splitBy_ne_nil (isEnd : Char → Bool) (cs : List Char) : splitBy isEnd cs ≠ [] := by
  cases cs with
  | nil => simp [splitBy]
  | cons c cs =>
    rw [splitBy]
    split
    · simp
    · split <;> simp

/-- The lines of a text; one that ends with a line feed has an empty line at its end. -/
def lines (cs : List Char) : List (List Char) := splitBy (· == '\n') cs

/-- A text in which a carriage return, alone or before a line feed, has become a line feed. -/
def unifyLineEnds : List Char → List Char
  | '\r' :: '\n' :: cs => '\n' :: unifyLineEnds cs
  | '\r' :: cs => '\n' :: unifyLineEnds cs
  | c :: cs => c :: unifyLineEnds cs
  | [] => []

end Workbench.Text
