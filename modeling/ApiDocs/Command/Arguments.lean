import ApiDocs.Text.Basic

/-!
# Arguments of a command line

`Arguments.read?` sorts arguments into options and the rest.  A long option starts with two hyphens
and takes its value from the next argument or after an equals sign; letters stand behind one hyphen,
and what follows a letter that takes a value is its value.  An argument of two hyphens ends the
options.  Of an option that is given more than once the last value counts (`Arguments.value?`).

What an argument has to be is its `ValueForm`; whether it is that is asked later, when all arguments
are sorted.
-/

namespace ApiDocs.Command

/-- What a path has to lead to. -/
inductive PathRule where
  /-- A file. -/
  | file
  /-- A directory. -/
  | directory
  /-- A directory, or nothing yet. -/
  | place
  deriving Repr, DecidableEq, Inhabited

/-- What can be given for an option or an argument. -/
inductive ValueForm where
  /-- Nothing: the option has no value. -/
  | nothing
  /-- Any text. -/
  | text
  /-- One of several words. -/
  | word (words : List Text)
  | path (rule : PathRule)
  deriving Repr, DecidableEq, Inhabited

/-- An option of a command. -/
structure OptionForm where
  /-- The name behind the two hyphens. -/
  name : String
  /-- The letter behind one hyphen. -/
  letter : Option Char := none
  value : ValueForm := .text
  deriving Repr, DecidableEq, Inhabited

/-- Whether a value follows the option. -/
def OptionForm.takesValue (f : OptionForm) : Bool := f.value != .nothing

/-- Sorted arguments; a given option that takes no value has the empty one. -/
structure Arguments where
  options : List (String × Text) := []
  rest : List Text := []
  deriving Repr, DecidableEq, Inhabited

/-- What one argument with options says. -/
structure Reading where
  /-- The options that it gives. -/
  given : List (String × Text) := []
  /-- The option whose value is the next argument. -/
  pending : Option String := none
  deriving Repr, DecidableEq, Inhabited

namespace Arguments

/-- Whether the argument gives options: it starts with a hyphen and goes on. -/
def isOption : Text → Bool
  | .char '-' :: _ :: _ => true
  | _ => false

/-- Reads letters. -/
def readLetters? (forms : List OptionForm) : Text → Option Reading
  | [] => some {}
  | p :: t =>
    match forms.find? (fun f => f.letter.map CodePoint.char == some p) with
    | none => none
    | some f =>
      if f.takesValue then
        if t.isEmpty then some { pending := some f.name } else some { given := [(f.name, t)] }
      else (readLetters? forms t).map (fun r => { r with given := (f.name, []) :: r.given })

/-- Reads a long option from what follows the two hyphens. -/
def readLong? (forms : List OptionForm) (t : Text) : Option Reading :=
  let name := t.takeWhile (· != .char '=')
  match forms.find? (fun f => Text.ofString f.name == name), t.dropWhile (· != .char '=') with
  | none, _ => none
  | some f, [] =>
    some (if f.takesValue then { pending := some f.name } else { given := [(f.name, [])] })
  | some f, _ :: value => if f.takesValue then some { given := [(f.name, value)] } else none

/-- Reads an argument that gives options. -/
def readOption? (forms : List OptionForm) : Text → Option Reading
  | .char '-' :: .char '-' :: t => readLong? forms t
  | _ :: t => readLetters? forms t
  | [] => none

/-- The arguments with options before them. -/
def add (given : List (String × Text)) (a : Arguments) : Arguments :=
  { a with options := given ++ a.options }

/-- Sorts arguments.  Unless options may be `mixed` with the rest, they end before it. -/
def read? (forms : List OptionForm) (mixed : Bool) : List Text → Option Arguments
  | [] => some {}
  | arg :: args =>
    if arg = Text.ofString "--" then some { rest := args }
    else if isOption arg then
      match readOption? forms arg, args with
      | none, _ => none
      | some ⟨given, none⟩, args => (read? forms mixed args).map (add given)
      | some ⟨_, some _⟩, [] => none
      | some ⟨given, some name⟩, value :: args =>
        (read? forms mixed args).map (add (given ++ [(name, value)]))
    else if mixed then
      (read? forms mixed args).map (fun a => { a with rest := arg :: a.rest })
    else some { rest := arg :: args }

/-- The value of an option. -/
def value? (name : String) (a : Arguments) : Option Text := a.options.reverse.lookup name

/-- Whether an option is given. -/
def has (name : String) (a : Arguments) : Bool := (a.value? name).isSome

end Arguments

end ApiDocs.Command
