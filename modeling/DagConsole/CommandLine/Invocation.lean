import DagConsole.Client.Config
import DagConsole.CommandLine.Arguments
import DagConsole.CommandLine.Command

/-! The options and commands of the command line. -/
namespace DagConsole.CommandLine

open Number (twoTo)

/-- A command, with the way to reach the platform. -/
structure Invocation where
  api : ApiConfig
  command : Command

def helpFlag : Argument := { name := "help", usage := .ask .help, letter := some 'h' }

def versionFlag : Argument := { name := "version", usage := .ask .version, letter := some 'V' }

/-- Reads a value, or refuses it without a reason. -/
def readable {α : Type} (read? : String → Option α) (text : String) : Except Refusal α :=
  match read? text with
  | some a => .ok a
  | none => .error (.unreadable none)

/-- Refuses what cannot be read. -/
def checking {α : Type} (read : String → Except Refusal α) (text : String) : Except Refusal Unit :=
  (read text).map fun _ => ()

def readId {kind : IdKind} : String → Except Refusal (Id kind) := readable Id.ofText?

/-- Refuses what is no identifier. -/
def checkId : String → Except Refusal Unit := checking (readId : String → Except Refusal NodeId)

def readNatural : String → Except Refusal Nat :=
  readable fun text => Text.unsigned? (twoTo 64 - 1) text.toList

def readInteger : String → Except Refusal Int :=
  readable fun text => Text.signed? (-(twoTo 63 : Int)) (twoTo 63 - 1) text.toList

def readBool : String → Except Refusal Bool
  | "true" => .ok true
  | "false" => .ok false
  | _ => .error .notPossible

/-- Reads a parameter and its value, which is JSON if it can be read as that, and else text. -/
def readParameter (text : String) : Except Refusal (String × Json) :=
  match splitLong text.toList with
  | (_, none) => .error (.unreadable (some s!"expected name=value, got '{text}'"))
  | (name, some value) =>
    let name := Text.trim name
    if name.isEmpty then .error (.unreadable (some s!"parameter name is empty in '{text}'"))
    else .ok (name, (Json.ofText? value).getD (.string value))

def workflowArgument : Argument := { name := "workflow", check := checkId }

def runOption : Argument := { name := "result", check := checkId }

/-- The arguments of each command. -/
def commandGrammars : List (String × Grammar) := [
  ("show", { options := [runOption, { name := "index", check := checking readNatural }, helpFlag]
             positionals := [workflowArgument] }),
  ("node", { options := [runOption, helpFlag]
             positionals := [workflowArgument, { name := "node", check := checkId }] }),
  ("run", { options :=
              [{ name := "param", usage := .repeated, check := checking readParameter }, helpFlag]
            positionals := [workflowArgument] }),
  ("edit", { options := [{ name := "name" }, { name := "description" }, { name := "cron" },
               { name := "manual", usage := .flag }, { name := "paused", check := checking readBool },
               { name := "keep-runs", check := checking readInteger, negative := true }, helpFlag]
             positionals := [workflowArgument] }),
  ("delete", { options := [{ name := "yes", usage := .flag }, helpFlag]
               positionals := [workflowArgument] })]

/-- The command that lists the commands or explains one of them. -/
def helpCommand : String := "help"

def mainGrammar : Grammar :=
  { options := [{ name := "api-address" }, { name := "api-https", usage := .flag },
      { name := "api-key" }, { name := "http-timeout", check := checking readNatural },
      { name := "http-user-agent" }, helpFlag, versionFlag]
    commands := helpCommand :: commandGrammars.map Prod.fst }

/-- What follows the help command: nothing, or the name of one command. -/
def refuseHelp : List String → Refusal
  | [] => .help
  | [name] => if mainGrammar.commands.contains name then .help else .unknownCommand
  | _ => .unknownCommand

/-- The value of an argument that has to be given. -/
def required {α : Type} (f : Findings) (name : String) (read : String → Except Refusal α) :
    Except Refusal α :=
  match f.value? name with
  | some text => read text
  | none => .error .missingArgument

def optional {α : Type} (f : Findings) (name : String) (read : String → Except Refusal α) :
    Except Refusal (Option α) :=
  (f.value? name).mapM read

/-- The command that arguments describe. -/
def readCommand (name : String) (f : Findings) : Except Refusal Command := do
  match name with
  | "show" =>
    if f.has "result" ∧ f.has "index" then throw .conflict
    return .show (← required f "workflow" readId) (← optional f "result" readId)
      (← optional f "index" readNatural)
  | "node" =>
    return .node (← required f "workflow" readId) (← required f "node" readId)
      (← optional f "result" readId)
  | "run" =>
    return .run (← required f "workflow" readId) (← (f.values "param").mapM readParameter)
  | "edit" =>
    if f.has "cron" ∧ f.has "manual" then throw .conflict
    let workflow ← required f "workflow" readId
    return .edit workflow {
      name := f.value? "name"
      description := f.value? "description"
      cron := f.value? "cron"
      manual := f.has "manual"
      paused := ← optional f "paused" readBool
      keepRuns := ← optional f "keep-runs" readInteger }
  | "delete" => return .delete (← required f "workflow" readId) (f.has "yes")
  | _ => throw .unknownCommand

/-- The configuration that arguments describe. -/
def readConfig (f : Findings) : Except Refusal ApiConfig := do
  let apiKey ← required f "api-key" .ok
  return {
    address := (f.value? "api-address").getD "localhost:8080"
    https := f.has "api-https"
    apiKey
    timeout := (← optional f "http-timeout" readNatural).getD ApiConfig.defaultTimeout
    userAgent := f.value? "http-user-agent" }

/-- Reads a command line. A command is read to its end before the arguments in front of it are judged
as a whole. -/
def readArguments (args : List String) : Except Refusal Invocation := do
  let (outer, rest) ← scan mainGrammar false args {}
  match rest with
  | none =>
    let outer ← outer.settle
    throw (if outer.found.isEmpty then .nothingGiven else .missingCommand)
  | some (name, rest) =>
    match commandGrammars.lookup name with
    | none => throw (refuseHelp rest)
    | some grammar =>
      let (inner, _) ← scan grammar false rest {}
      let command ← readCommand name (← inner.settle)
      let outer ← outer.settle
      return { api := ← readConfig outer, command }

end DagConsole.CommandLine
