import Workbench.Number.Decimal

/-!
# JSON values

Decoded JSON: integers are unbounded and kept apart from floating-point numbers, and an object
keeps its members in order of first appearance.
-/
namespace Workbench.Json

/-- A decoded JSON value. -/
inductive Value where
  | null
  | bool (b : Bool)
  | int (i : Int)
  | float (x : Number.Binary64)
  | string (s : String)
  | array (items : List Value)
  | object (members : List (String × Value))
  deriving Repr, BEq, Inhabited

/-- The two kinds of value that hold others. -/
inductive Container where
  | array
  | object
  deriving DecidableEq, Repr

/-- Members of an object, in order. -/
abbrev Members := List (String × Value)

namespace Members

/-- Set a member: a name that is there already keeps its place and takes the new value. -/
def put (name : String) (value : Value) : Members → Members
  | [] => [(name, value)]
  | (k, v) :: rest => if k = name then (k, value) :: rest else (k, v) :: put name value rest

/-- The value under a name. -/
def get? (name : String) : Members → Option Value
  | [] => none
  | (k, v) :: rest => if k = name then some v else get? name rest

/-- Setting a member does not repeat its name. -/
theorem map_fst_put (name : String) (value : Value) (ms : Members) :
    (ms.put name value).map Prod.fst =
      if name ∈ ms.map Prod.fst then ms.map Prod.fst else ms.map Prod.fst ++ [name] := by
  induction ms with
  | nil => simp [put]
  | cons m rest ih =>
    obtain ⟨k, v⟩ := m
    by_cases h : k = name
    · simp [put, h]
    · have h' : ¬ name = k := fun e => h e.symm
      by_cases hm : name ∈ rest.map Prod.fst
      · rw [if_pos hm] at ih
        simp only [put, if_neg h, List.map_cons, ih]
        rw [if_pos (List.mem_cons_of_mem _ hm)]
      · rw [if_neg hm] at ih
        simp only [put, if_neg h, List.map_cons, ih]
        rw [if_neg (by simpa [h'] using hm), List.cons_append]

theorem get?_put (name : String) (value : Value) (ms : Members) :
    (ms.put name value).get? name = some value := by
  induction ms with
  | nil => simp [put, get?]
  | cons m rest ih =>
    obtain ⟨k, v⟩ := m
    by_cases h : k = name <;> simp [put, get?, h, ih]

end Members

namespace Value

mutual

/-- How deep containers nest inside the value: 0 for scalars and empty containers. -/
def nesting : Value → Nat
  | array (v :: vs) => 1 + max (nesting v) (nestingItems vs)
  | object ((_, v) :: ms) => 1 + max (nesting v) (nestingMembers ms)
  | _ => 0

/-- The deepest nesting among the items of an array. -/
def nestingItems : List Value → Nat
  | [] => 0
  | v :: vs => max (nesting v) (nestingItems vs)

/-- The deepest nesting among the members of an object. -/
def nestingMembers : List (String × Value) → Nat
  | [] => 0
  | (_, v) :: ms => max (nesting v) (nestingMembers ms)

end

end Value

end Workbench.Json
