import DagConsole.Client.Basic
import DagConsole.CommandLine.Help
import DagConsole.Json.Printer

/-! The program: carries out the command of its command line and prints the output as JSON. -/
namespace DagConsole.CommandLine

/-- Without a network every connection is refused. -/
def noNetwork : Wire := fun _ => .failed .connect { text := "no network" }

/-- What is told of what the client refuses itself. -/
def plainDiagnoses : Diagnoses where
  userAgent _ := { text := "the user agent cannot be sent" }
  scheme _ := { text := "the URL is not of the web" }
  body _ _ := { text := "the answer is not the document asked for" }

/-- The output of a command line over a network, or the text of its error. -/
def outputOver (wire : Wire) (invocation : Invocation) : Except String Json := do
  invocation.api.validate.mapError fun e => "invalid API configuration: " ++ e.chain
  let client ← (ApiClient.create plainDiagnoses invocation.api).mapError fun e =>
    "failed to create API client: " ++ e.chain
  let (executed, _, _) := invocation.command.execute.run.run (client.platform wire) .empty ()
  executed.mapError CommandError.text

end DagConsole.CommandLine

open DagConsole.CommandLine in
def main (args : List String) : IO UInt32 := do
  match readArguments args with
  | .error refusal =>
    if refusal.isRequest then
      IO.println refusal.text
      return 0
    else
      IO.eprintln refusal.text
      return 2
  | .ok invocation =>
    match outputOver noNetwork invocation with
    | .ok output =>
      IO.println (output.pretty 0)
      return 0
    | .error text =>
      IO.eprintln ("Error: " ++ text)
      return 1
