/-!
# Blank characters

A buffer is blank when it holds nothing but white space. White space is meant in the wide
sense of the character database: the ASCII controls, the four information separators, the
next-line control, and every space separator.
-/
namespace Workbench.Text

/-- The characters that count as white space. -/
def isBlankChar (c : Char) : Bool :=
  let n := c.toNat
  (0x09 ≤ n && n ≤ 0x0D) || (0x1C ≤ n && n ≤ 0x20) || n == 0x85 || n == 0xA0 || n == 0x1680 ||
    (0x2000 ≤ n && n ≤ 0x200A) || n == 0x2028 || n == 0x2029 || n == 0x202F || n == 0x205F ||
    n == 0x3000

/-- Every white-space character of the core library is blank. -/
theorem isBlankChar_of_isWhitespace {c : Char} (h : c.isWhitespace = true) :
    isBlankChar c = true := by
  simp only [Char.isWhitespace, Bool.or_eq_true, decide_eq_true_eq] at h
  rcases h with ((h | h) | h) | h <;> subst h <;> decide

/-- A list without its blank ends. -/
def trim (p : Char → Bool) (cs : List Char) : List Char :=
  ((cs.dropWhile p).reverse.dropWhile p).reverse

/-- The text without the white space at its two ends. -/
def strip (s : String) : String :=
  String.ofList (trim isBlankChar s.toList)

/-- Nothing but white space. -/
def isBlank (s : String) : Bool :=
  s.toList.all isBlankChar

end Workbench.Text
