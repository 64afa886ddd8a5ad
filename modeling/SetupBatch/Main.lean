import SetupBatch.CommandLine
/-!
This module contains the program: its commands on the files of the machine. Planned tasks take no
time of their own; how long they would take only orders what they do.
-/

namespace SetupBatch

/-- Runs an operation on files. A code of the system may come with either sign. -/
def attemptIO {α : Type} (action : IO α) : IO (Except StorageError α) := do
  match ← action.toBaseIO with
  | .ok a => return .ok a
  | .error e =>
    return .error <| match e with
      | .noFileOrDirectory .. => .notFound
      | .alreadyExists .. => .alreadyExists
      | .inappropriateType _ code _ =>
        if code = 21 ∨ code = -21 then .isDirectory else .notDirectory
      | .invalidArgument _ code message =>
        if code = 36 ∨ code = -36 then .nameTooLong else .other message
      | e => .other e.toString

instance : Storage IO where
  read path := attemptIO (IO.FS.readBinFile path)
  write path bytes := attemptIO (IO.FS.writeBinFile path bytes)
  makeDirs path := attemptIO (IO.FS.createDirAll path)

def newBatchId : IO BatchId := do
  let bytes ← IO.getRandomBytes 16
  let bits := bytes.toList.foldl (fun bits byte => 256 * bits + byte.toNat) 0
  let version := 0xffffffffffff0fff3fffffffffffffff#128
  return ⟨⟨BitVec.ofNat 128 bits &&& version ||| 0x00000000000040008000000000000000#128⟩⟩

end SetupBatch

open SetupBatch in
def main (args : List String) : IO UInt32 := do
  let output : Output ← runProgram .queued (← newBatchId) args
  (← IO.getStdout).putStr output.text
  (← IO.getStderr).putStr output.alarms
  return output.exit.toUInt32
