import SetupBatch.Document.Tree
import SetupBatch.Event
import SetupBatch.Instant
import SetupBatch.Options
/-!
This module contains the forms in which the values of a batch stand in documents. A record is a
table of its fields, or a list of them in order; names are written exactly.
-/

namespace SetupBatch

open Document

class Form (α : Type) where
  read? : Dialect → Tree → Option α
  write : α → Tree

namespace Form

variable {α : Type}

abbrev ofNames (name : α → String) (ofName? : String → Option α) : Form α where
  read? d t := t.name? d ofName?
  write a := .ofString (name a)

instance : Form Outcome := ofNames Outcome.name Outcome.ofName?

instance : Form Severity := ofNames Severity.name Severity.ofName?

instance : Form CounterMode := ofNames CounterMode.name CounterMode.ofName?

instance : Form NoticeRequest := ofNames NoticeRequest.name NoticeRequest.ofName?

instance : Form LineId where
  read? _ t := t.word64?.map (⟨·⟩)
  write id := .ofNat id.number

instance : Form BatchId where
  read? _ t := do return ⟨← Uuid.ofString? (← t.string?)⟩
  write id := .ofString id.uuid.text

instance : Form Instant where
  read? _ t := do Instant.ofString? (← t.string?)
  write i := .ofString i.text

instance : Form Wording where
  read? d t := do
    let [executing, finished, failed, needsReboot] ←
      t.fields? d ["executing", "finished", "error", "needs_reboot"] | none
    return {
      executing := ← executing.required Tree.string?
      finished := ← finished.required Tree.string?
      failed := ← failed.required Tree.string?
      needsReboot := ← needsReboot.required Tree.string? }
  write w := .record [
    ("executing", .ofString w.executing), ("finished", .ofString w.finished),
    ("error", .ofString w.failed), ("needs_reboot", .ofString w.needsReboot)]

instance : Form Target where
  read? d t := do
    match ← t.variant? "kind" with
    | ("local", .table _) | ("local", .list []) => return .here
    | ("remote", rest) =>
      let [name] ← rest.fields? d ["name"] | none
      return .remote (← name.required Tree.string?)
    | _ => none
  write
    | .here => .record [("kind", .ofString "local")]
    | .remote name => .record [("kind", .ofString "remote"), ("name", .ofString name)]

instance : Form Progress where
  read? d t := do
    match ← t.variant? "mode" with
    | ("indeterminate", .table _) | ("indeterminate", .list []) => return .indeterminate
    | ("determinate", rest) =>
      let [started, total] ← rest.fields? d ["started", "total"] | none
      return .determinate (← started.required Tree.word64?) (← total.required Tree.word64?)
    | _ => none
  write
    | .determinate started total => .record [
      ("mode", .ofString "determinate"), ("started", .ofNat started), ("total", .ofNat total)]
    | .indeterminate => .record [("mode", .ofString "indeterminate")]

instance : Form Counts where
  read? d t := do
    let [started, completed, succeeded, needsReboot, failed] ← t.fields? d
      ["started", "completed", "succeeded", "succeeded_needs_reboot", "failed"] | none
    return {
      started := ← started.required Tree.word64?
      completed := ← completed.required Tree.word64?
      succeeded := ← succeeded.required Tree.word64?
      needsReboot := ← needsReboot.required Tree.word64?
      failed := ← failed.required Tree.word64? }
  write c := .record [
    ("started", .ofNat c.started), ("completed", .ofNat c.completed),
    ("succeeded", .ofNat c.succeeded), ("succeeded_needs_reboot", .ofNat c.needsReboot),
    ("failed", .ofNat c.failed)]

instance : Form TaskResult where
  read? d t := do
    let [index, outcome, message] ← t.fields? d ["index", "outcome", "message"] | none
    return {
      index := ← index.required Tree.word64?
      outcome := ← outcome.required (read? d)
      message := ← message.required Tree.string? }
  write r := .record [
    ("index", .ofNat r.index), ("outcome", write r.outcome), ("message", .ofString r.message)]

instance : Form Summary where
  read? d t := do
    let [batch, counts, retryCycles, exhausted, unresolved, results] ← t.fields? d
      ["batch_id", "counters", "retry_cycles", "retries_exhausted", "unresolved", "results"] | none
    return {
      batch := ← batch.required (read? d)
      counts := ← counts.required (read? d)
      retryCycles := ← retryCycles.required Tree.word32?
      exhausted := ← exhausted.required Tree.flag?
      unresolved := ← unresolved.required (Tree.list? Tree.string?)
      results := ← results.required (Tree.list? (read? d)) }
  write s := .record [
    ("batch_id", write s.batch), ("counters", write s.counts),
    ("retry_cycles", .ofNat s.retryCycles), ("retries_exhausted", .flag s.exhausted),
    ("unresolved", .list (s.unresolved.map .ofString)), ("results", .list (s.results.map write))]

end Form

end SetupBatch
