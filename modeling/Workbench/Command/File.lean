import Workbench.Text.Encoding
import Workbench.Text.Lines

/-!
# Files

Paths as they are given on the command line, what can stand at a path, and how a file is read as
text.
-/
namespace Workbench.Command

/-- A path, without empty parts and without dots that mean the same directory. -/
structure Path where
  isAbsolute : Bool
  parts : List String
  deriving DecidableEq, Repr

namespace Path

def ofString (s : String) : Path :=
  { isAbsolute := s.toList.head? == some '/'
    parts := ((Text.splitBy (· == '/') s.toList).filter fun part =>
      !part.isEmpty && part != ['.']).map String.ofList }

def text (p : Path) : String :=
  if p.parts.isEmpty && !p.isAbsolute then "."
  else (if p.isAbsolute then "/" else "") ++ "/".intercalate p.parts

/-- The last part. -/
def name (p : Path) : String := p.parts.getLast?.getD ""

end Path

/-- Why a file cannot be read or written. -/
inductive FileFault where
  | notFound
  | isDirectory
  | notDirectory
  deriving DecidableEq, Repr

def FileFault.reason : FileFault → String
  | notFound => "No such file or directory"
  | isDirectory => "Is a directory"
  | notDirectory => "Not a directory"

/-- What stands at a path. -/
inductive Entry where
  | file (bytes : List Nat)
  | directory
  /-- Nothing, in a directory that exists. -/
  | absent
  /-- Nothing, and there is no directory for it either. -/
  | noDirectory
  /-- The path leads through a file. -/
  | belowFile
  deriving DecidableEq, Repr

namespace Entry

/-- The bytes of a file. -/
def read : Entry → Except FileFault (List Nat)
  | file bytes => .ok bytes
  | directory => .error .isDirectory
  | absent => .error .notFound
  | noDirectory => .error .notFound
  | belowFile => .error .notDirectory

/-- Why no file can be written there. -/
def writeFault? : Entry → Option FileFault
  | file _ => none
  | directory => some .isDirectory
  | absent => none
  | noDirectory => some .notFound
  | belowFile => some .notDirectory

end Entry

/-- Bytes as text. The ends of all lines become line feeds; a byte-order mark stays. -/
def textOfBytes (bytes : List Nat) : Except Text.Undecodable String :=
  (Text.decodeUtf8 bytes).map fun cs => String.ofList (Text.unifyLineEnds cs)

/-- The files below the working directory, each by the parts of its path. -/
abbrev Files := List (List String × List Nat)

namespace Files

/-- Does some file stand below these parts? -/
def hasDirectory (files : Files) (parts : List String) : Bool :=
  files.any fun (p, _) => parts.isPrefixOf p && parts.length < p.length

/-- What stands at the parts of a path below a directory. Nothing is known above the working
directory. -/
def entryBelow (files : Files) : List String → List String → Entry
  | _, [] => .directory
  | directory, part :: rest =>
    if part = ".." then
      if directory.isEmpty then .noDirectory else entryBelow files directory.dropLast rest
    else
      let here := directory ++ [part]
      if files.hasDirectory here then entryBelow files here rest
      else
        match files.lookup here with
        | some bytes => if rest.isEmpty then .file bytes else .belowFile
        | none => if rest.isEmpty then .absent else .noDirectory

/-- What stands at a path. -/
def entry (files : Files) (p : Path) : Entry :=
  if p.isAbsolute then (if p.parts.isEmpty then .directory else .noDirectory)
  else files.entryBelow [] p.parts

end Files

end Workbench.Command
