import SetupBatch.Document.Form
/-!
This module contains notices and lines as they are kept beyond a batch. A notice is kept with an
identifier that no other batch uses and with the instant at which it was made.
-/

namespace SetupBatch.Archive

structure Notice where
  id : Uuid
  content : Draft
  created : Instant
  deriving DecidableEq, Inhabited

abbrev Line := SetupBatch.Line

open Document Form

instance : Form Notice where
  read? d t := do
    let [id, title, detail, severity, created] ←
      t.fields? d ["id", "title", "detail", "severity", "created_at"] | none
    return {
      id := ← id.required fun t => do Uuid.ofString? (← t.string?)
      content := {
        title := ← title.required Tree.string?
        detail := ← Tree.optionalField? Tree.string? detail
        severity := ← severity.required (read? d) }
      created := ← created.required (read? d) }
  write n := .record [
    ("id", .ofString n.id.text), ("title", .ofString n.content.title),
    ("detail", .ofOption .ofString n.content.detail), ("severity", write n.content.severity),
    ("created_at", write n.created)]

instance : Form Line where
  read? d t := do
    let [id, text, severity, running, task, created] ← t.fields? d
      ["id", "text", "severity", "in_progress", "task_index", "created_at"] | none
    return {
      id := ← id.required (read? d)
      text := ← text.required Tree.string?
      severity := ← severity.required (read? d)
      running := ← running.required Tree.flag?
      task := ← Tree.optionalField? Tree.word64? task
      created := ← created.required (read? d) }
  write l := .record [
    ("id", write l.id), ("text", .ofString l.text), ("severity", write l.severity),
    ("in_progress", .flag l.running), ("task_index", .ofOption .ofNat l.task),
    ("created_at", write l.created)]

end SetupBatch.Archive
