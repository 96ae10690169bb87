/-!
# Arguments

The arguments of a command are options and words. An option has a long name after two dashes and
perhaps a letter after one. It may take a value, which follows it or stands behind an equals sign;
letters may be written together, and a value right behind its letter. Two dashes alone end the
options.
-/
namespace Workbench.Command

/-- Why the arguments cannot be understood. -/
inductive UsageFault where
  | unknownOption (name : String)
  | missingValue (name : String)
  | unexpectedValue (name : String)
  | notInteger (name value : String)
  | missingArgument (name : String)
  | unexpectedArgument (word : String)
  | missingCommand
  | unknownCommand (name : String)
  deriving DecidableEq, Repr

def UsageFault.message : UsageFault → String
  | unknownOption name => "No such option: " ++ name
  | missingValue name => "Option " ++ name ++ " requires an argument."
  | unexpectedValue name => "Option " ++ name ++ " does not take a value."
  | notInteger name value => "Invalid value for " ++ name ++ ": " ++ value ++ " is no integer."
  | missingArgument name => "Missing argument " ++ name ++ "."
  | unexpectedArgument word => "Got unexpected extra argument (" ++ word ++ ")"
  | missingCommand => "Missing command."
  | unknownCommand name => "No such command " ++ name ++ "."

/-- An option: its name, its letter, and whether it takes a value. -/
structure Switch where
  name : String
  letter : Option Char := none
  takesValue : Bool := true
  deriving DecidableEq, Repr

/-- The arguments of a command in their order: options with their values, and words. -/
structure Arguments where
  options : List (String × String) := []
  words : List String := []
  deriving DecidableEq, Repr

namespace Arguments

/-- What an argument says: options with their values, and perhaps one whose value follows. -/
structure Reading where
  found : List (String × String) := []
  awaiting : Option Switch := none

/-- Letters written together. -/
def readLetters (switches : List Switch) : List Char → Except UsageFault Reading
  | [] => .ok {}
  | c :: cs =>
    match switches.find? (·.letter == some c) with
    | none => .error (.unknownOption (String.ofList ['-', c]))
    | some s =>
      if !s.takesValue then
        (readLetters switches cs).map fun r => { r with found := (s.name, "") :: r.found }
      else if cs.isEmpty then .ok { awaiting := some s }
      else .ok { found := [(s.name, String.ofList cs)] }

/-- An argument that begins with a dash. -/
def readOption (switches : List Switch) (argument : List Char) : Except UsageFault Reading :=
  let name := String.ofList (argument.takeWhile (· != '='))
  let behind := argument.drop name.length
  match switches.find? (·.name == name) with
  | some s =>
    match s.takesValue, behind with
    | true, [] => .ok { awaiting := some s }
    | true, _ :: value => .ok { found := [(s.name, String.ofList value)] }
    | false, [] => .ok { found := [(s.name, "")] }
    | false, _ :: _ => .error (.unexpectedValue name)
  | none =>
    match argument with
    | '-' :: '-' :: _ => .error (.unknownOption name)
    | _ => readLetters switches argument.tail

/-- Does the argument begin with a dash and go on? -/
def isOption (argument : String) : Bool :=
  argument.toList.head? == some '-' && 1 < argument.length

/-- Read arguments. Unless options may stand after words, the first word ends them. -/
def read (switches : List Switch) (mixed : Bool) : List String → Except UsageFault Arguments
  | [] => .ok {}
  | argument :: rest =>
    if argument = "--" then .ok { words := rest }
    else if isOption argument then
      match readOption switches argument.toList with
      | .error f => .error f
      | .ok r =>
        match r.awaiting, rest with
        | none, rest =>
          (read switches mixed rest).map fun a => { a with options := r.found ++ a.options }
        | some s, [] => .error (.missingValue s.name)
        | some s, value :: rest =>
          (read switches mixed rest).map fun a =>
            { a with options := r.found ++ (s.name, value) :: a.options }
    else if mixed then
      (read switches mixed rest).map fun a => { a with words := argument :: a.words }
    else .ok { words := argument :: rest }

/-- The value of an option; the last one counts. -/
def value? (a : Arguments) (name : String) : Option String := a.options.reverse.lookup name

def has (a : Arguments) (name : String) : Bool := a.options.any (·.1 == name)

end Arguments

end Workbench.Command
