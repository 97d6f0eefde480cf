import DagConsole.CommandLine.Invocation

/-! What is printed when a command line runs no command. -/
namespace DagConsole.CommandLine

def versionText : String := "0.1.0"

/-- How an argument is written. -/
def Argument.synopsis (a : Argument) : String :=
  match a.usage with
  | .ask _ | .flag => s!"[--{a.name}]"
  | .single => s!"[--{a.name} VALUE]"
  | .repeated => s!"[--{a.name} VALUE]..."

def Grammar.synopsis (g : Grammar) : String :=
  " ".intercalate (g.positionals.map (fun a => a.name.toUpper) ++ g.options.map Argument.synopsis)

/-- The options in front of the command, and each command with its arguments. -/
def helpText : String :=
  "\n".intercalate (("OPTIONS " ++ mainGrammar.synopsis) ::
    commandGrammars.map fun (name, grammar) => name ++ " " ++ grammar.synopsis)

namespace Refusal

/-- Whether the command line asked for what is printed, and so is no mistake. -/
def isRequest : Refusal → Bool
  | .help | .version => true
  | _ => false

def text : Refusal → String
  | .help | .nothingGiven => helpText
  | .version => versionText
  | .missingCommand => "a command is missing"
  | .unknownCommand => "there is no such command"
  | .unknownArgument => "there is no such argument"
  | .missingArgument => "a required argument is missing"
  | .conflict => "arguments exclude each other"
  | .unexpectedValue => "an argument takes no value"
  | .notPossible => "a value is missing or not possible"
  | .unreadable reason => reason.getD "a value cannot be read"

end Refusal

end DagConsole.CommandLine
