import SetupBatch.Run
/-!
This module contains the arguments of the program: which command they ask for. Arguments are read
from left to right, so that a request for help counts only if nothing before it is wrong.
-/

namespace SetupBatch

inductive Topic where
  | program
  | init
  | run
  | help
  deriving DecidableEq, Inhabited

inductive Command where
  | init (path : String)
  | run (plan : String) (flags : RunFlags)
  | help (topic : Topic)
  | version
  deriving DecidableEq, Inhabited

namespace Command

def wholeNumber? (s : String) : Option Nat :=
  let digits := match s.toList with
    | '+' :: digits => digits
    | digits => digits
  let n := Text.digitsValue 10 digits
  if digits ≠ [] ∧ digits.all Text.isDigit ∧ n ≤ maxWord64 then some n else none

/-- Holds of an argument that is a flag wherever flags may stand; a single hyphen is none. -/
def isFlag (arg : String) : Bool := arg.startsWith "-" && arg != "-"

def onlyPath? (earlier : Option String) (arg : String) : Option String :=
  if earlier = none ∧ arg ≠ "" then some arg else none

def asksHelp (arg : String) : Bool := arg == "--help" || arg.startsWith "-h"

/-- The arguments of `init`: a path, which is the working directory if it is left out. After `--` no
argument is a flag. -/
def ofInit? (path : Option String) (literal : Bool) : List String → Option Command
  | [] => some (.init (path.getD "."))
  | arg :: rest =>
    if !literal && isFlag arg then
      if arg = "--" then ofInit? path true rest
      else if asksHelp arg then some (.help .init)
      else none
    else do ofInit? (some (← onlyPath? path arg)) literal rest

def withBound? (flags : RunFlags) (value : String) : Option RunFlags :=
  match flags.maxConcurrency with
  | some _ => none
  | none => do return { flags with maxConcurrency := some (← wholeNumber? value) }

def ofRun? (flags : RunFlags) (plan : Option String) (literal : Bool) :
    List String → Option Command
  | [] => plan.map (.run · flags)
  | "--max-concurrency" :: rest =>
    if literal then do ofRun? flags (some (← onlyPath? plan "--max-concurrency")) literal rest
    else
      match rest with
      | [] => none
      | value :: rest => do ofRun? (← withBound? flags value) plan literal rest
  | arg :: rest =>
    if !literal && isFlag arg then
      match arg with
      | "--" => ofRun? flags plan true rest
      | "--retry" =>
        if flags.retry then none else ofRun? { flags with retry := true } plan literal rest
      | "--json" =>
        if flags.json then none else ofRun? { flags with json := true } plan literal rest
      | "--elevated" =>
        if flags.elevated then none else ofRun? { flags with elevated := true } plan literal rest
      | arg =>
        if asksHelp arg then some (.help .run)
        else if arg.startsWith "--max-concurrency=" then do
          let value := String.ofList (arg.toList.drop "--max-concurrency=".length)
          ofRun? (← withBound? flags value) plan literal rest
        else none
    else do ofRun? flags (some (← onlyPath? plan arg)) literal rest

def ofHelp? : List String → Option Command
  | [] => some (.help .program)
  | ["init"] => some (.help .init)
  | ["run"] => some (.help .run)
  | ["help"] => some (.help .help)
  | _ => none

/-- Flags of one letter that stand together; `v` may come only once. Gives the command they ask
for, or whether `v` has come. -/
def ofLetters? (verbose : Bool) : List Char → Option (Command ⊕ Bool)
  | [] => some (.inr verbose)
  | 'v' :: rest => if verbose then none else ofLetters? true rest
  | 'h' :: _ => some (.inl (.help .program))
  | 'V' :: _ => some (.inl .version)
  | _ => none

def ofArguments? (verbose : Bool) : List String → Option Command
  | [] => none
  | "init" :: rest => ofInit? none false rest
  | "run" :: rest => ofRun? {} none false rest
  | "help" :: rest => ofHelp? rest
  | "--verbose" :: rest => if verbose then none else ofArguments? true rest
  | "--help" :: _ => some (.help .program)
  | "--version" :: _ => some .version
  | arg :: rest =>
    match arg.toList with
    | '-' :: c :: letters =>
      match ofLetters? verbose (c :: letters) with
      | some (.inl command) => some command
      | some (.inr verbose) => ofArguments? verbose rest
      | none => none
    | _ => none

def parse? (args : List String) : Option Command := ofArguments? false args

end Command

end SetupBatch
