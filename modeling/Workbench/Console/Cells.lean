import Workbench.Console.Width

/-!
# Clusters and cells

Characters that show as one sign are a cluster: a character with the marks that combine with it, or
pictographs that a joiner makes into one. A joiner hides the character after it, and a selector
after a character that has a form as emoji makes it two cells wide. Marks at the start of a line, where
nothing is to combine with, form a cluster of their own. No character is lost
(`flatMap_chars_clusters`).

A console is a grid of cells, and a line takes the cells of its clusters. Lines are cut only
between clusters, and filled up with spaces.
-/
namespace Workbench.Console

/-! ## Clusters -/

/-- Characters that show as one sign, and how many cells it takes. -/
structure Cluster where
  chars : List Char
  cells : Nat
  deriving DecidableEq, Repr

/-- The character that makes the ones beside it into one sign. -/
def joiner : Char := '\u200d'

/-- The character that chooses the form as emoji of the one before it. -/
def emojiSelector : Char := '\ufe0f'

/-- Does the form as emoji of the character take another cell? -/
def isWidenable (c : Char) : Bool := Text.inSome widenable c.toNat

namespace Cluster

/-- Put characters and cells into the latest cluster, which is the first of the list. -/
def extend (cs : List Char) (more : Nat) : List Cluster → List Cluster
  | [] => [⟨cs, more⟩]
  | k :: ks => ⟨k.chars ++ cs, k.cells + more⟩ :: ks

/-- The clusters of a line after those read before, the latest first. `last` is the latest
character that takes cells, unless it has been widened. -/
def gather (last : Option Char) (done : List Cluster) : List Char → List Cluster
  | [] => done
  | c :: rest =>
    if c = joiner then
      match done, rest with
      | k :: ks, hidden :: rest => gather last (extend [c, hidden] 0 (k :: ks)) rest
      | done, rest => gather last (extend [c] 0 done) rest
    else if c = emojiSelector then
      if last.any isWidenable then gather none (extend [c] 1 done) rest
      else gather last (extend [c] 0 done) rest
    else if charCells c = 0 then gather last (extend [c] 0 done) rest
    else gather (some c) (⟨[c], charCells c⟩ :: done) rest

end Cluster

/-- The clusters of a line. -/
def clusters (line : List Char) : List Cluster := (Cluster.gather none [] line).reverse

namespace Cluster

theorem flatMap_chars_extend (cs : List Char) (more : Nat) (done : List Cluster) :
    (extend cs more done).reverse.flatMap chars = done.reverse.flatMap chars ++ cs := by
  cases done <;> simp [extend]

theorem flatMap_chars_gather (last : Option Char) (done : List Cluster) (line : List Char) :
    (gather last done line).reverse.flatMap chars = done.reverse.flatMap chars ++ line := by
  fun_induction gather last done line <;> simp_all [flatMap_chars_extend]

end Cluster

/-- No character is lost. -/
theorem flatMap_chars_clusters (line : List Char) : (clusters line).flatMap Cluster.chars = line := by
  simpa [clusters] using Cluster.flatMap_chars_gather none [] line

/-! ## Cells -/

/-- How many cells clusters take together. -/
def totalCells : List Cluster → Nat
  | [] => 0
  | k :: ks => k.cells + totalCells ks

/-- How many cells a line takes. A joiner at its start hides the character after it. -/
def cells : List Char → Nat
  | [] => 0
  | [c] => totalCells (clusters [c])
  | c :: d :: rest => if c = joiner then cells rest else totalCells (clusters (c :: d :: rest))

/-- The characters of the first clusters that take at most `room` cells, filled up to `room` with
spaces if the next cluster would stand across the edge. -/
def cropClusters : Nat → List Cluster → List Char
  | _, [] => []
  | room, k :: ks =>
    if k.cells ≤ room then k.chars ++ cropClusters (room - k.cells) ks
    else List.replicate room ' '

/-- A line cut down to `width` cells if it is longer. -/
def cropTo (width : Nat) (line : List Char) : List Char :=
  if cells line ≤ width then line
  else if width = 0 then []
  else cropClusters width (clusters line)

/-- A line filled up with spaces to at least `width` cells. -/
def padTo (width : Nat) (line : List Char) : List Char :=
  line ++ List.replicate (width - cells line) ' '

/-- A line of `width` cells. -/
def fit (width : Nat) (line : List Char) : List Char := padTo width (cropTo width line)

/-- Clusters in pieces that take at most `width` cells each. A cluster that is wider than that has
a piece of its own. `used` cells of the first piece are taken. -/
def chopClusters (width : Nat) : Nat → List Char → List Cluster → List (List Char)
  | _, piece, [] => [piece]
  | used, piece, k :: ks =>
    if used + k.cells ≤ width then chopClusters width (used + k.cells) (piece ++ k.chars) ks
    else piece :: chopClusters width k.cells k.chars ks

/-- A line in pieces that take at most `width` cells each. -/
def chop (width : Nat) (line : List Char) : List (List Char) :=
  chopClusters width 0 [] (clusters line)

theorem flatten_chopClusters (width used : Nat) (piece : List Char) (ks : List Cluster) :
    (chopClusters width used piece ks).flatten = piece ++ ks.flatMap Cluster.chars := by
  fun_induction chopClusters width used piece ks <;> simp_all

/-- No character is lost. -/
theorem flatten_chop (width : Nat) (line : List Char) : (chop width line).flatten = line := by
  rw [chop, flatten_chopClusters, flatMap_chars_clusters, List.nil_append]

end Workbench.Console
