import SetupBatch.Settings
import SetupBatch.Storage
/-!
This module contains the file in which a directory keeps its settings.
-/

namespace SetupBatch

def settingsDir (root : String) : String :=
  if root.endsWith "/" then s!"{root}.stagehand" else s!"{root}/.stagehand"

def settingsPath (root : String) : String := s!"{settingsDir root}/config.toml"

namespace Settings

variable {m : Type → Type} [Monad m] [Storage m]

def load (root : String) : m (Except Fault Settings) := do
  match ← Storage.readText (settingsPath root) with
  | .ok text => return ofToml text
  | .error .notFound | .error .notDirectory | .error .nameTooLong => return .ok {}
  | .error e => return .error ⟨.io, e.message⟩

def writeDefault (root : String) : m (Except Fault Unit) := do
  match ← Storage.makeDirs (settingsDir root) with
  | .error e => return .error ⟨.io, e.message⟩
  | .ok () =>
    let written ← Storage.writeText (settingsPath root) ({} : Settings).toToml
    return written.mapError fun e => ⟨.io, e.message⟩

end Settings

end SetupBatch
