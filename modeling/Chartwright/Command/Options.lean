/-!
# Options

Options and positional arguments on a command line. A short option is a dash and a letter, and
several can share a dash; a long one is two dashes and a name, with a value behind an equals sign or
in the next argument. Behind two dashes alone there are no further options.
-/

namespace Chartwright.Command

/-- An option that a command has. -/
structure Switch where
  /-- The long name. -/
  name : String
  letter : Option Char
  takesValue : Bool
deriving DecidableEq, Repr

/-- What a command line says: the options in order, a flag with an empty value, and the rest. -/
structure Arguments where
  options : List (String × String)
  positional : List String
deriving DecidableEq, Repr

namespace Arguments

/-- Whether an option is given. -/
def has (a : Arguments) (name : String) : Bool := a.options.any (·.1 = name)

/-- The value of an option; of several the last one counts. -/
def value? (a : Arguments) (name : String) : Option String :=
  (a.options.reverse.find? (·.1 = name)).map (·.2)

/-- Adds an option in front. -/
def withOption (a : Arguments) (name value : String) : Arguments :=
  { a with options := (name, value) :: a.options }

/-- Adds a positional argument in front. -/
def withPositional (a : Arguments) (arg : String) : Arguments :=
  { a with positional := arg :: a.positional }

end Arguments

/-- What an argument with options amounts to: the options that are complete, and the one that
takes the next argument as its value. -/
structure Reading where
  complete : List (String × String)
  pending : Option String

/-- Reads the letters behind a dash; the letter of an option with a value takes the rest. -/
def readLetters? (switches : List Switch) : List Char → Option Reading
  | [] => some ⟨[], none⟩
  | c :: cs => do
    let switch ← switches.find? (·.letter = some c)
    if switch.takesValue then
      if cs = [] then some ⟨[], some switch.name⟩
      else some ⟨[(switch.name, String.ofList cs)], none⟩
    else
      let reading ← readLetters? switches cs
      some { reading with complete := (switch.name, "") :: reading.complete }

/-- Reads what stands behind two dashes. -/
def readLong? (switches : List Switch) (cs : List Char) : Option Reading := do
  let name := String.ofList (cs.takeWhile (· ≠ '='))
  let switch ← switches.find? (·.name = name)
  match switch.takesValue, cs.dropWhile (· ≠ '=') with
  | true, [] => some ⟨[], some name⟩
  | true, _ :: value => some ⟨[(name, String.ofList value)], none⟩
  | false, [] => some ⟨[(name, "")], none⟩
  | false, _ :: _ => none

/-- Reads an argument with options; none if it is a positional one. -/
def readOptions (switches : List Switch) (arg : String) : Option (Option Reading) :=
  match arg.toList with
  | '-' :: '-' :: cs => some (readLong? switches cs)
  | '-' :: c :: cs => some (readLetters? switches (c :: cs))
  | _ => none

/-- Parses a command line. Where `stopEarly` holds, the first positional argument ends the options.
An option that is not known, or lacks its value, or has one that it does not take, is refused. -/
def parse? (switches : List Switch) (stopEarly : Bool) : List String → Option Arguments
  | [] => some ⟨[], []⟩
  | "--" :: rest => some ⟨[], rest⟩
  | arg :: rest =>
    match readOptions switches arg with
    | none =>
      if stopEarly then some ⟨[], arg :: rest⟩
      else (parse? switches stopEarly rest).map (·.withPositional arg)
    | some none => none
    | some (some ⟨complete, pending⟩) =>
      let parsed : Option Arguments :=
        match pending, rest with
        | none, rest => parse? switches stopEarly rest
        | some _, [] => none
        | some name, value :: rest => (parse? switches stopEarly rest).map (·.withOption name value)
      parsed.map fun a => { a with options := complete ++ a.options }

end Chartwright.Command
