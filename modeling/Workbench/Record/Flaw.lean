/-!
# Flaws of a record

Reading a record out of loosely typed data does not stop at the first field that does not fit:
it reports every flaw, in the order of the record's fields. `Checked` is a value or such a list; a
value that is put together of others is good if those are.
-/
namespace Workbench.Record

/-- What is wrong with a value. -/
inductive FlawKind where
  | missing
  | boolType
  | boolParsing
  | intType
  | intParsing
  | intParsingSize
  | intFromFloat
  | finiteNumber
  | floatType
  | floatParsing
  | stringType
  | enum
  | modelType
  | valueError
  | greaterThan
  | greaterThanEqual
  | lessThanEqual
  deriving DecidableEq, Repr

/-- A flaw and the names that lead to the value that has it. -/
structure Flaw where
  path : List String
  kind : FlawKind
  deriving DecidableEq, Repr

/-- A value, or all flaws that were found. -/
inductive Checked (α : Type) where
  | good (value : α)
  | flawed (flaws : List Flaw)
  deriving Repr

namespace Checked

variable {α β : Type}

def flaw (kind : FlawKind) : Checked α := flawed [⟨[], kind⟩]

def map (f : α → β) : Checked α → Checked β
  | good a => good (f a)
  | flawed fs => flawed fs

/-- Both parts are examined, and the flaws of both are kept. -/
def apply (f : Checked (α → β)) (x : Unit → Checked α) : Checked β :=
  match f, x () with
  | good f, good a => good (f a)
  | good _, flawed fs => flawed fs
  | flawed fs, good _ => flawed fs
  | flawed fs, flawed gs => flawed (fs ++ gs)

instance : Applicative Checked where
  pure := good
  map := map
  seq := apply

/-- A check that only makes sense once the value is there. -/
def andThen (x : Checked α) (f : α → Checked β) : Checked β :=
  match x with
  | good a => f a
  | flawed fs => flawed fs

/-- The same under a name. -/
def under (name : String) : Checked α → Checked α
  | good a => good a
  | flawed fs => flawed (fs.map fun f => { f with path := name :: f.path })

def flaws : Checked α → List Flaw
  | good _ => []
  | flawed fs => fs

/-- The value, if it is good. -/
def toOption : Checked α → Option α
  | good a => some a
  | flawed _ => none

end Checked

/-! ## Good values -/

variable {α β : Type}

theorem Checked.toOption_eq_some {x : Checked α} {a : α} : x.toOption = some a ↔ x = .good a := by
  cases x <;> simp [Checked.toOption]

theorem seq_eq_good {x : Checked (α → β)} {y : Checked α} {b : β} :
    x <*> y = .good b ↔ ∃ g a, x = .good g ∧ y = .good a ∧ g a = b := by
  change Checked.apply x (fun _ => y) = .good b ↔ _
  cases x <;> cases y <;> simp [Checked.apply]

theorem map_eq_good {g : α → β} {x : Checked α} {b : β} :
    g <$> x = .good b ↔ ∃ a, x = .good a ∧ g a = b := by
  change Checked.map g x = .good b ↔ _
  cases x <;> simp [Checked.map]

theorem under_eq_good {name : String} {x : Checked α} {a : α} :
    x.under name = .good a ↔ x = .good a := by
  cases x <;> simp [Checked.under]

end Workbench.Record
