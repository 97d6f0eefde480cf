/-! Reading command-line arguments by a grammar of options and positional values. -/
namespace DagConsole.CommandLine

/-- Why a command line runs no command: it asks for help or the version, or it is refused. -/
inductive Refusal where
  | help
  | version
  /-- There is nothing at all to go by. -/
  | nothingGiven
  | missingCommand
  | unknownCommand
  | unknownArgument
  | missingArgument
  /-- Arguments that exclude each other, or one that may be given once and was repeated. -/
  | conflict
  /-- A value where none is taken. -/
  | unexpectedValue
  /-- No value where one is needed, or one that is not among the possible ones. -/
  | notPossible
  /-- A value that cannot be read, perhaps with the reason. -/
  | unreadable (reason : Option String)
deriving DecidableEq

/-- How an argument is used. -/
inductive Usage where
  /-- It stands alone and asks for help or the version. -/
  | ask (refusal : Refusal)
  /-- It stands alone, once. -/
  | flag
  /-- It takes a value, once. -/
  | single
  /-- It takes a value each time it is given. -/
  | repeated
deriving DecidableEq

structure Argument where
  /-- The name after two hyphens, or the name of a positional value. -/
  name : String
  usage : Usage := .single
  /-- The letter after one hyphen. -/
  letter : Option Char := none
  /-- Refuses values that cannot be read. -/
  check : String → Except Refusal Unit := fun _ => .ok ()
  /-- Whether its value may look like a negative number. -/
  negative : Bool := false

namespace Argument

def takesValue (a : Argument) : Bool := a.usage == .single || a.usage == .repeated

end Argument

structure Grammar where
  options : List Argument
  positionals : List Argument := []
  /-- The commands that the arguments may lead to. -/
  commands : List String := []

/-- The arguments found so far, in order, and the one whose value is still open or unchecked. -/
structure Findings where
  found : List (String × String) := []
  pending : Option (Argument × Option String) := none
  positionals : Nat := 0

namespace Findings

/-- Notes an argument with its value, which is checked. -/
def note (f : Findings) (a : Argument) (value : String) : Except Refusal Findings :=
  if a.usage ≠ .repeated ∧ (f.found.lookup a.name).isSome then .error .conflict
  else do
    a.check value
    return { f with found := f.found ++ [(a.name, value)] }

/-- Settles the pending argument, which needs its value by now. -/
def settle (f : Findings) : Except Refusal Findings :=
  match f.pending with
  | none => .ok f
  | some (_, none) => .error .notPossible
  | some (a, some value) => { f with pending := none }.note a value

/-- Whether the next argument is the value of an option. -/
def awaitsValue (f : Findings) : Option Argument :=
  match f.pending with
  | some (a, none) => some a
  | _ => none

/-- Leaves the value of an argument open. -/
def await (f : Findings) (a : Argument) : Except Refusal Findings := do
  return { ← f.settle with pending := some (a, none) }

def flag (f : Findings) (a : Argument) : Except Refusal Findings := do
  let f ← f.settle
  match a.usage with
  | .ask refusal => throw refusal
  | _ => f.note a "true"

def value? (f : Findings) (name : String) : Option String := f.found.lookup name

def values (f : Findings) (name : String) : List String :=
  f.found.filterMap fun (other, value) => if other = name then some value else none

def has (f : Findings) (name : String) : Bool := (f.value? name).isSome

end Findings

/-- Splits the text after two hyphens at its first equals sign. -/
def splitLong (text : List Char) : String × Option String :=
  (String.ofList (text.takeWhile (· != '=')),
    match text.dropWhile (· != '=') with
    | _ :: value => some (String.ofList value)
    | [] => none)

def isExponentMark (c : Char) : Bool := c == 'e' || c == 'E'

/-- Whether a text is a number without sign: digits, with a point after the first of them and an
exponent at most once. -/
def looksNumeric (text : List Char) : Bool :=
  let body := text.takeWhile (!isExponentMark ·)
  let fraction := body.filter (· == '.')
  body.all (fun c => c.isDigit || c == '.') && fraction.length ≤ 1 && body.head? != some '.' &&
    match text.dropWhile (!isExponentMark ·) with
    | [] => true
    | _ :: exponent => !body.isEmpty && !exponent.isEmpty && exponent.all Char.isDigit

/-- Takes an argument that starts with two hyphens. -/
def takeLong (g : Grammar) (text : List Char) (f : Findings) : Except Refusal Findings :=
  let (name, attached) := splitLong text
  match g.options.find? (·.name == name) with
  | none => .error .unknownArgument
  | some a =>
    match a.takesValue, attached with
    | true, some value => do (← f.settle).note a value
    | true, none => f.await a
    | false, some _ => .error .unexpectedValue
    | false, none => f.flag a

/-- Takes letters that follow one hyphen. -/
def takeLetters (g : Grammar) : List Char → Findings → Except Refusal Findings
  | [], f => .ok f
  | letter :: rest, f =>
    match g.options.find? fun a => a.letter == some letter && !a.takesValue with
    | none => .error .unknownArgument
    | some a => do takeLetters g rest (← f.flag a)

/-- Takes a positional value. -/
def takePositional (g : Grammar) (afterHyphens : Bool) (text : String) (f : Findings) :
    Except Refusal Findings :=
  match g.positionals[f.positionals]? with
  | some a => do
    let f ← f.settle
    return { f with pending := some (a, some text), positionals := f.positionals + 1 }
  | none =>
    if g.commands.isEmpty ∨ (afterHyphens ∧ g.commands.contains text) then .error .unknownArgument
    else .error .unknownCommand

/-- Takes arguments up to the name of a command, and returns it with the arguments after it. After two
hyphens alone all that follows is positional. -/
def scan (g : Grammar) (afterHyphens : Bool) :
    List String → Findings → Except Refusal (Findings × Option (String × List String))
  | [], f => .ok (f, none)
  | arg :: rest, f =>
    if afterHyphens then do scan g true rest (← takePositional g true arg f)
    else if f.awaitsValue.isNone ∧ g.commands.contains arg then .ok (f, some (arg, rest))
    else
      let given : Option Findings := f.awaitsValue.map fun a => { f with pending := some (a, some arg) }
      match arg.toList, given with
      | ['-', '-'], _ => scan g true rest f
      | '-' :: '-' :: text, _ => do scan g false rest (← takeLong g text f)
      | '-' :: c :: text, given =>
        match given with
        | some f' =>
          if (f.awaitsValue.any Argument.negative) ∧ looksNumeric (c :: text) then
            scan g false rest f'
          else do scan g false rest (← takeLetters g (c :: text) f)
        | none => do scan g false rest (← takeLetters g (c :: text) f)
      | _, some f' => scan g false rest f'
      | _, none => do scan g false rest (← takePositional g false arg f)

end DagConsole.CommandLine
