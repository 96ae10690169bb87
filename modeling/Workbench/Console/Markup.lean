import Workbench.Console.Pictograph
import Workbench.Console.Style
import Workbench.Styled.Text

/-!
# Console markup

Texts for the console may hold tags in square brackets: `[bold]` opens a style, `[/bold]` closes
it, and `[/]` closes the style opened last. A tag begins with a small letter or one of `#`, `/`
and `@`; other brackets are text. A backslash before a tag makes it text, and two of them stand
for one. Styles need not be closed, but nothing can be closed that is not open. Without colours
only the plain text is left.
-/
namespace Workbench.Console.Markup

/-- Why a text is not well-formed markup. -/
inductive Fault where
  /-- A closing tag names a style that is not open. -/
  | notOpen (name : String)
  /-- There is nothing to close. -/
  | nothingOpen
  deriving DecidableEq, Repr

def Fault.message : Fault → String
  | notOpen name => "closing tag '[/" ++ name ++ "]' doesn't match any open tag"
  | nothingOpen => "closing tag '[/]' has nothing to close"

/-- The parts of a markup text. -/
inductive Piece where
  | text (cs : List Char)
  | opening (name : String)
  /-- A closing tag; without a name it closes what was opened last. -/
  | closing (name : String)
  deriving DecidableEq, Repr

def startsTag (c : Char) : Bool := ('a' ≤ c && c ≤ 'z') || c == '#' || c == '/' || c == '@'

/-- The content of the tag at the front, after its bracket. -/
def tag? : List Char → Option (List Char)
  | [] => none
  | c :: cs =>
    let content := cs.takeWhile fun d => d != ']' && d != '['
    if startsTag c && (cs.drop content.length).head? = some ']' then some (c :: content) else none

/-- The number of backslashes at the front and the content of the tag that follows them. -/
def escapedTag? (cs : List Char) : Option (Nat × List Char) :=
  let slashes := (cs.takeWhile (· == '\\')).length
  match cs.drop slashes with
  | '[' :: rest => (tag? rest).map fun content => (slashes, content)
  | _ => none

/-- The piece that a tag is. What stands behind an equals sign does not matter. -/
def ofTag (content : List Char) : Piece :=
  match content.takeWhile (· != '=') with
  | '/' :: name => .closing (Text.strip (String.ofList name))
  | name => .opening (String.ofList name)

/-- A piece of text unless it is empty. -/
def textPiece (cs : List Char) : List Piece := if cs.isEmpty then [] else [.text cs]

/-- The pieces of a text. `plain` holds the characters since the last tag, the latest first;
`skip` characters belong to a tag that has been read. -/
def piecesFrom : Nat → List Char → List Char → List Piece
  | _, plain, [] => textPiece plain.reverse
  | skip + 1, plain, _ :: cs => piecesFrom skip plain cs
  | 0, plain, c :: cs =>
    match escapedTag? (c :: cs) with
    | some (slashes, content) =>
      textPiece plain.reverse ++ textPiece (List.replicate (slashes / 2) '\\') ++
        (if slashes % 2 = 1 then .text ('[' :: content ++ [']']) else ofTag content) ::
          piecesFrom (slashes + content.length + 1) [] cs
    | none => piecesFrom 0 (c :: plain) cs

def pieces (markup : List Char) : List Piece := piecesFrom 0 [] markup

/-- A text with the backslashes taken away that stand before a bracket. -/
def unescape : List Char → List Char
  | '\\' :: '[' :: cs => '[' :: unescape cs
  | c :: cs => c :: unescape cs
  | [] => []

/-- Text as it is shown. -/
def shown (cs : List Char) : List Char := Pictograph.replaceCodes (unescape cs)

/-- The text of pieces, given the styles that are open, the latest first. -/
def textOf : List String → List Piece → Except Fault (List Char)
  | _, [] => .ok []
  | styles, .text cs :: rest => (textOf styles rest).map (shown cs ++ ·)
  | styles, .opening name :: rest => textOf (Style.canonical name :: styles) rest
  | styles, .closing "" :: rest =>
    match styles with
    | [] => .error .nothingOpen
    | _ :: outer => textOf outer rest
  | styles, .closing name :: rest =>
    let style := Style.canonical name
    if styles.contains style then textOf (styles.erase style) rest else .error (.notOpen name)

/-- The plain text of markup, without the control characters that a console does not show. -/
def plain (markup : String) : Except Fault (List Char) :=
  (textOf [] (pieces markup.toList)).map fun cs => cs.filter (!Styled.isDropped ·)

end Workbench.Console.Markup
