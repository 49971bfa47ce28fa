/-!
# Arguments of a command

Arguments are options and operands. An option goes by a long name after two hyphens and perhaps by
a letter after one. Its value is the rest of the argument or the next argument, whatever that looks
like. Letters of options without values may stand together. Two hyphens alone end the options.

* `Arguments.read` takes arguments apart; it gives nothing for an option that is not known, lacks
  its value, or has one that it does not take.
-/

namespace ExtractionSchema.CommandLine

/-- An option that a command knows. -/
structure OptionForm where
  name : String
  letter : Option Char := none
  takesValue : Bool := true

/-- What arguments say: the options in their order, and the operands. -/
structure Arguments where
  options : List (String × String) := []
  operands : List String := []

namespace Arguments

/-- The value of an option; of several values the last one counts. -/
def value? (name : String) (a : Arguments) : Option String := a.options.reverse.lookup name

/-- Whether an option is given. -/
def has (name : String) (a : Arguments) : Bool := (a.value? name).isSome

/-- The options that one argument gives, and the one among them that takes the next argument. -/
structure Given where
  options : List (String × String) := []
  pending : Option String := none

/-- Takes apart an argument that starts with two hyphens. -/
def readLong (forms : List OptionForm) (cs : List Char) : Option Given := do
  let word := String.ofList (cs.takeWhile (· ≠ '='))
  let form ← forms.find? (·.name = word)
  match cs.dropWhile (· ≠ '='), form.takesValue with
  | [], true => return { pending := some form.name }
  | [], false => return { options := [(form.name, "")] }
  | _ :: value, true => return { options := [(form.name, String.ofList value)] }
  | _ :: _, false => none

/-- Takes apart the letters of an argument that starts with one hyphen. -/
def readLetters (forms : List OptionForm) : List Char → Option Given
  | [] => some {}
  | c :: cs => do
    let form ← forms.find? (·.letter = some c)
    match form.takesValue, cs with
    | true, [] => return { pending := some form.name }
    | true, cs => return { options := [(form.name, String.ofList cs)] }
    | false, cs =>
      let given ← readLetters forms cs
      return { given with options := (form.name, "") :: given.options }

/-- Takes apart an argument that starts with a hyphen. -/
def readOption (forms : List OptionForm) : List Char → Option Given
  | '-' :: '-' :: cs => readLong forms cs
  | '-' :: cs => readLetters forms cs
  | _ => none

/-- Whether an argument is an option: a hyphen and more. -/
def isOption (arg : String) : Bool :=
  arg.toList.head? = some '-' && 1 < arg.length

/-- Adds options in front. -/
def withOptions (options : List (String × String)) (a : Arguments) : Arguments :=
  { a with options := options ++ a.options }

/-- Takes arguments apart. If operands end the options, everything from the first operand on is
an operand. -/
def read (forms : List OptionForm) (operandsEnd : Bool) : List String → Option Arguments
  | [] => some {}
  | arg :: rest =>
    if arg = "--" then some { operands := rest }
    else if isOption arg then
      match readOption forms arg.toList with
      | none => none
      | some ⟨options, none⟩ => (read forms operandsEnd rest).map (withOptions options)
      | some ⟨options, some name⟩ =>
        match rest with
        | [] => none
        | value :: rest =>
          (read forms operandsEnd rest).map (withOptions (options ++ [(name, value)]))
    else if operandsEnd then some { operands := arg :: rest }
    else (read forms operandsEnd rest).map fun a => { a with operands := arg :: a.operands }

end Arguments

end ExtractionSchema.CommandLine
