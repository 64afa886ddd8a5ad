/-!
This module contains what a program asks of the place where its files are kept. The same program
runs on the files of a machine and on a `FileTree`.
-/

namespace SetupBatch

inductive StorageError where
  | notFound
  | alreadyExists
  | notDirectory
  | isDirectory
  | nameTooLong
  | notText
  | other (message : String)
  deriving DecidableEq, Inhabited

def StorageError.message : StorageError → String
  | .notFound => "No such file or directory (os error 2)"
  | .alreadyExists => "File exists (os error 17)"
  | .notDirectory => "Not a directory (os error 20)"
  | .isDirectory => "Is a directory (os error 21)"
  | .nameTooLong => "File name too long (os error 36)"
  | .notText => "stream did not contain valid UTF-8"
  | .other message => message

/-- The operations on files. The names in a path are separated by slashes. -/
class Storage (m : Type → Type) where
  read : String → m (Except StorageError ByteArray)
  write : String → ByteArray → m (Except StorageError Unit)
  makeDirs : String → m (Except StorageError Unit)

namespace Storage

variable {m : Type → Type} [Monad m] [Storage m]

def readText (path : String) : m (Except StorageError String) := do
  match ← read path with
  | .error e => return .error e
  | .ok bytes =>
    match String.fromUTF8? bytes with
    | some text => return .ok text
    | none => return .error .notText

def writeText (path text : String) : m (Except StorageError Unit) := write path text.toUTF8

end Storage

end SetupBatch
