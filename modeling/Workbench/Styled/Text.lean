/-!
# Styled text

Text with a base style and styled stretches of it, as a terminal shows it. A few control
characters that would upset a terminal are dropped from every piece that is put in, and places
count what is left.
-/
namespace Workbench.Styled

/-- A stretch from `start` up to `stop`, in characters, and its style. -/
structure Stretch where
  start : Nat
  stop : Nat
  style : String
  deriving DecidableEq, Repr

/-- Plain text, the style of the whole, and styled stretches. -/
structure Text where
  plain : String
  style : String
  stretches : List Stretch
  deriving DecidableEq, Repr

/-- The control characters that are dropped: bell, backspace, vertical tab, form feed and
carriage return. -/
def isDropped (c : Char) : Bool :=
  c == '\x07' || c == '\x08' || c == '\x0b' || c == '\x0c' || c == '\x0d'

/-- A text without the characters that are dropped. -/
def clean (s : String) : String := String.ofList (s.toList.filter (!isDropped ·))

namespace Text

/-- A text in one style. -/
def ofString (s : String) (style : String) : Text := ⟨clean s, style, []⟩

/-- The stretches of pieces put in from an offset on; a piece without style has none, nor has an
empty one. -/
def stretchesFrom : Nat → List (String × String) → List Stretch
  | _, [] => []
  | offset, (s, style) :: rest =>
    let stop := offset + (clean s).length
    let later := stretchesFrom stop rest
    if s.isEmpty || style.isEmpty then later else ⟨offset, stop, style⟩ :: later

/-- The text of pieces, each with its style, one after the other. -/
def ofPieces (pieces : List (String × String)) : Text :=
  ⟨String.join (pieces.map (clean ·.1)), "", stretchesFrom 0 pieces⟩

/-- A text with a piece in a style added at its end. -/
def append (t : Text) (s : String) (style : String) : Text :=
  { t with
    plain := t.plain ++ clean s
    stretches := t.stretches ++ stretchesFrom t.plain.length [(s, style)] }

end Text

end Workbench.Styled
