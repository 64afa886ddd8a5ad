import SetupBatch.CommandLine.Help
import SetupBatch.Document.Json
import SetupBatch.SettingsFile
import SetupBatch.Text.Quoted
/-!
This module contains the commands of the program: what each does with files, what it prints, and
how it exits.
-/

namespace SetupBatch

structure Output where
  exit : Nat := 0
  text : String := ""
  crashes : List String := []
  error : Option String := none
  deriving DecidableEq, Inhabited

def printLines (lines : List String) : String := String.join (lines.map (· ++ "\n"))

namespace Output

def failed (error : String) : Output := { exit := 1, error := some error }

def misused : Output := { exit := 2 }

def aborted : Output := { exit := 101 }

def alarms (o : Output) : String :=
  printLines (o.crashes.map ("A task crashed:\n" ++ ·) ++ o.error.toList.map ("Error: " ++ ·))

end Output

def Report.output (r : Report) (json : Bool) : Output :=
  match r.fault? with
  | some f => { Output.failed f.message with text := printLines r.lines, crashes := r.crashes }
  | none =>
    let text := printLines
      (r.lines ++ if json then [Document.Json.write 0 (Form.write r.summary)] else [])
    let done : Output := { text, crashes := r.crashes }
    if r.summary.isClean then done
    else
      { done with
        exit := 1, error := some s!"{r.summary.unresolved.length} task(s) did not complete" }

namespace Command

variable {m : Type → Type} [Monad m] [Storage m]

def executeInit (path : String) : m Output := do
  match ← Settings.writeDefault path with
  | .error _ => return .failed "Failed to write configuration"
  | .ok () =>
    let lines := ["Initialized Stagehand in " ++ Text.quoted path, "Created:",
      "  .stagehand/config.toml"]
    return { text := printLines lines }

/-- Runs the plan in a file, under the settings of the working directory. The settings are read
first. -/
def executeRun (d : Discipline) (id : BatchId) (path : String) (flags : RunFlags) : m Output := do
  match ← Settings.load "." with
  | .error f => return .failed f.message
  | .ok settings =>
    match ← Storage.readText path with
    | .error _ => return .failed ("Failed to read plan " ++ Text.quoted path)
    | .ok text =>
      match Plan.ofToml? text with
      | none => return .failed "Failed to parse plan"
      | some plan =>
        match plan.run d id settings flags with
        | .error _ => return .aborted
        | .ok report => return report.output flags.json

def execute (d : Discipline) (id : BatchId) : Command → m Output
  | .init path => executeInit path
  | .run path flags => executeRun d id path flags
  | .help topic => return { text := topic.text }
  | .version => return { text := versionText }

end Command

def runProgram {m : Type → Type} [Monad m] [Storage m] (d : Discipline) (id : BatchId)
    (args : List String) : m Output :=
  match Command.parse? args with
  | some command => command.execute d id
  | none => return .misused

end SetupBatch
