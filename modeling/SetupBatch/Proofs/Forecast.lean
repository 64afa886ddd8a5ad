import SetupBatch.CommandLine
import SetupBatch.FileTree
import SetupBatch.Proofs.Decision

/-!
This module contains the verification of runs of plans. A plan says beforehand how many attempts at
each of its tasks fail, and so what a run of it ends with.
-/

namespace SetupBatch

namespace RunFlags

def retriesUnder (flags : RunFlags) (settings : Settings) : Nat :=
  if flags.retry then settings.retry.budget else 0

def crew (flags : RunFlags) (settings : Settings) (slots : Option Slots) : Crew where
  slots
  channel := if flags.elevated then some Plan.localChannel else none
  strictElevation := settings.execution.strictElevation

end RunFlags

namespace PlannedTask

section Circumstances

variable (t : PlannedTask) (settings : Settings) (flags : RunFlags)

def isBlocked : Bool :=
  t.requiresElevation && settings.execution.strictElevation && !flags.elevated

def failures : ℕ∞ := if t.isBlocked settings flags then ⊤ else t.failAttempts

def isUnresolved : Bool :=
  t.isBlocked settings flags || flags.retriesUnder settings < t.failAttempts

def lastOutcome : Outcome :=
  if t.isUnresolved settings flags then .failed
  else if t.requiresReboot then .needsReboot
  else .succeeded

def result (index : Nat) : TaskResult where
  index
  outcome := t.lastOutcome settings flags
  message := t.profile.wording.tell (t.lastOutcome settings flags)

end Circumstances

end PlannedTask

namespace Plan

def admitted (p : Plan) : List PlannedTask := if p.target.isSome then p.tasks.take 1 else p.tasks

def unresolved (p : Plan) (settings : Settings) (flags : RunFlags) : List PlannedTask :=
  p.admitted.filter (·.isUnresolved settings flags)

/-- What a run of a plan ends with. -/
structure Ends (p : Plan) (settings : Settings) (flags : RunFlags) (r : Report) : Prop where
  answers : ∃ (passes : List Gate.State) (closing : List Summary),
    r.answers = (passes.map Batch.Answer.state ++ closing.map Batch.Answer.summary).map .ok ∧
      passes.length = r.summary.retryCycles + 1 ∧
      (closing = [r.summary] ∧ flags.retry = false ∨ closing = [] ∧ passes.getLast? =
        some (.finished (p.unresolved settings flags).length r.summary.exhausted))
  retryCycles_le : r.summary.retryCycles ≤ flags.retriesUnder settings
  retryCycles : (r.summary.retryCycles : ℕ∞) = if flags.retry then
    min (settings.retry.budget : ℕ∞) (⨆ t ∈ p.admitted, t.failures settings flags) else 0
  results : r.summary.results =
    p.admitted.zipIdx.map fun (t, index) => t.result settings flags index
  unresolved : r.summary.unresolved.Perm
    ((p.unresolved settings flags).map (·.profile.wording.failed))
  exhausted : r.summary.exhausted = true ↔
    p.unresolved settings flags ≠ [] ∧ (flags.retry = true ∨ settings.retry.budget = 0)
  success : p.unresolved settings flags = [] →
    (r.output flags.json).exit = 0 ∧ (r.output flags.json).error = none
  failure : p.unresolved settings flags ≠ [] → (r.output flags.json).exit = 1 ∧
    (r.output flags.json).error =
      some s!"{(p.unresolved settings flags).length} task(s) did not complete"

end Plan

namespace FileTree

theorem snd_readText (files : FileTree) (path : String)
    : (Storage.readText (m := StateM FileTree) path files).2 = files := by
  simp only [Storage.readText, bind, StateT.bind, Storage.read]
  cases files.read path with
  | error e => rfl
  | ok bytes =>
    dsimp only
    cases String.fromUTF8? bytes <;> rfl

theorem snd_load (files : FileTree) (root : String)
    : (Settings.load (m := StateM FileTree) root files).2 = files := by
  have hfiles := files.snd_readText (settingsPath root)
  simp only [Settings.load, bind, StateT.bind]
  rcases hread : Storage.readText (m := StateM FileTree) (settingsPath root) files
    with ⟨reply, after⟩
  rw [hread] at hfiles
  dsimp only at hfiles ⊢
  split <;> exact hfiles

end FileTree

namespace Report

theorem fault?_eq_none {r : Report} {answers : List Batch.Answer}
    (h : r.answers = answers.map .ok) : r.fault? = none := by
  unfold fault?
  rw [h, List.findSome?_eq_none_iff]
  intro reply hreply
  rcases List.mem_map.1 hreply with ⟨answer, -, rfl⟩
  rfl

theorem output_of_isClean {r : Report} (h : r.fault? = none) (hclean : r.summary.isClean = true)
    (json : Bool) : (r.output json).exit = 0 ∧ (r.output json).error = none := by
  unfold output
  rw [h]
  dsimp only
  rw [if_pos hclean]
  exact ⟨rfl, rfl⟩

theorem output_of_not_isClean {r : Report} (h : r.fault? = none)
    (hclean : ¬r.summary.isClean = true) (json : Bool)
    : (r.output json).exit = 1 ∧ (r.output json).error =
        some s!"{r.summary.unresolved.length} task(s) did not complete" := by
  unfold output
  rw [h]
  dsimp only
  rw [if_neg hclean]
  exact ⟨rfl, rfl⟩

end Report

namespace PlannedTask

variable (t : PlannedTask) (settings : Settings) (flags : RunFlags)

def ticket (index : Nat) : Ticket := { index, task := t.task }

theorem mode_eq_refused_iff (slots : Option Slots)
    : (flags.crew settings slots).mode t.profile = .refused ↔
        t.isBlocked settings flags = true := by
  unfold Crew.mode RunFlags.crew isBlocked profile
  cases t.requiresElevation <;> cases settings.execution.strictElevation <;>
    cases flags.elevated <;> simp

theorem verdict_attempt (number : Nat)
    : ((t.attempt number).ending.verdict t.requiresReboot).1 =
        if number ≤ t.failAttempts then .failed
        else if t.requiresReboot then .needsReboot
        else .succeeded := by
  unfold attempt
  split
  . split <;> rfl
  . cases t.requiresReboot <;> rfl

theorem verdict_play (mode : Mode) (number : Nat)
    : ((t.task.play mode number).ending.verdict t.requiresReboot).1 =
        if mode = .refused ∨ number ≤ t.failAttempts then .failed
        else if t.requiresReboot then .needsReboot
        else .succeeded := by
  cases mode with
  | normal => exact (t.verdict_attempt number).trans (by simp)
  | elevated channel => exact (t.verdict_attempt number).trans (by simp)
  | refused => rfl

theorem outcomeAt_ticket (slots : Option Slots) (index number : Nat)
    : (t.ticket index).outcomeAt (flags.crew settings slots) number =
        if t.isBlocked settings flags ∨ number ≤ t.failAttempts then .failed
        else if t.requiresReboot then .needsReboot
        else .succeeded := by
  simp only [← t.mode_eq_refused_iff settings flags slots]
  exact t.verdict_play _ number

theorem outcomeAt_ticket_eq_failed_iff (slots : Option Slots) (index number : Nat)
    : (t.ticket index).outcomeAt (flags.crew settings slots) number = .failed ↔
        t.isBlocked settings flags = true ∨ number ≤ t.failAttempts := by
  rw [outcomeAt_ticket]
  split
  . next hfails => exact iff_of_true rfl hfails
  . next hpast =>
    refine iff_of_false ?_ hpast
    split
    . exact nofun
    . exact nofun

theorem failures_ticket (slots : Option Slots) (index : Nat)
    : (t.ticket index).failures (flags.crew settings slots) = t.failures settings flags := by
  apply ENat.eq_of_forall_natCast_le_iff
  intro j
  rw [Ticket.le_failures_iff]
  simp only [outcomeAt_ticket_eq_failed_iff]
  unfold failures
  split
  . next hblocked => simp [hblocked]
  . next hblocked =>
    simp only [hblocked, Bool.false_eq_true, false_or, Nat.cast_le]
    constructor
    . intro hall
      by_contra hlt
      have := hall t.failAttempts (by omega)
      omega
    . intro hle k hk
      omega

theorem lt_failures_iff_isUnresolved
    : (flags.retriesUnder settings : ℕ∞) < t.failures settings flags ↔
        t.isUnresolved settings flags = true := by
  unfold failures isUnresolved
  split
  . next hblocked => simp [hblocked]
  . next hblocked => simp [hblocked]

theorem outcomeAt_retries_ticket {slots : Option Slots} {index j : Nat}
    (h : (j : ℕ∞) < (t.ticket index).failures (flags.crew settings slots) ↔
      t.isUnresolved settings flags = true)
    : (t.ticket index).outcomeAt (flags.crew settings slots)
        ((t.ticket index).retries (flags.crew settings slots) j + 1) =
          t.lastOutcome settings flags := by
  rw [← Ticket.outcomeAt_retries_eq_failed_iff] at h
  unfold lastOutcome
  split
  . next hunresolved => exact h.2 hunresolved
  . next hunresolved =>
    -- an attempt that does not fail is past the planned failures, and all of those end alike
    have hne := mt h.1 hunresolved
    rw [outcomeAt_ticket] at hne ⊢
    split at hne
    . exact absurd rfl hne
    . next hpast => rw [if_neg hpast]

end PlannedTask

namespace Plan

def tickets (p : Plan) : List Ticket := p.admitted.zipIdx.map fun (t, index) => t.ticket index

theorem exists_of_mem_tickets {p : Plan} {u : Ticket} (hu : u ∈ p.tickets)
    : ∃ t ∈ p.admitted, ∃ index, u = t.ticket index := by
  rcases List.mem_map.1 hu with ⟨⟨t, index⟩, hmem, rfl⟩
  exact ⟨t, List.fst_mem_of_mem_zipIdx hmem, index, rfl⟩

theorem exists_mem_tickets {p : Plan} {t : PlannedTask} (ht : t ∈ p.admitted)
    : ∃ index, t.ticket index ∈ p.tickets := by
  rcases List.mem_iff_getElem?.1 ht with ⟨index, hget⟩
  exact ⟨index, List.mem_map_of_mem (List.mk_mem_zipIdx_iff_getElem?.2 hget)⟩

theorem ticketsFor_setupTarget (p : Plan)
    : Batch.ticketsFor p.setupTarget (p.tasks.map (·.task)) = p.tickets := by
  unfold Batch.ticketsFor Ticket.admitAll tickets admitted setupTarget
  rw [List.zipIdx_map, List.map_map]
  cases p.target with
  | none => rfl
  | some name =>
    cases p.tasks with
    | nil => rfl
    | cons t rest => rfl

section Batch

variable {p : Plan} {id : BatchId} {settings : Settings} {flags : RunFlags}

theorem options_eq (p : Plan) (settings : Settings) (flags : RunFlags)
    : (p.options settings flags).retryBudget = settings.retry.budget ∧
        (p.options settings flags).target = p.setupTarget ∧
        (p.options settings flags).strictElevation = settings.execution.strictElevation := by
  unfold options Settings.options
  cases flags.maxConcurrency <;> cases settings.execution.maxConcurrency <;> exact ⟨rfl, rfl, rfl⟩

theorem exists_batch (id : BatchId)
    (hcap : ∀ bound, (p.options settings flags).maxConcurrency = some bound → bound ≤ maxSlots)
    : ∃ b₀, p.batch id settings flags = .ok b₀ := by
  have hslots : ∀ bound, (p.options settings flags).maxConcurrency = some bound →
      max bound 1 ≤ maxSlots := fun bound hbound => max_le (hcap bound hbound) (by decide)
  rcases Batch.exists_new id _ _ _ hslots with ⟨b₀, hnew, -⟩
  exact ⟨b₀, hnew⟩

variable {b₀ b : Batch} {j : Nat} (hbatch : p.batch id settings flags = .ok b₀)

include hbatch

theorem eq_of_batch
    : b₀.pending = p.tickets ∧ b₀.options.retryBudget = settings.retry.budget ∧
        ∃ slots, b₀.crew = flags.crew settings slots := by
  rcases Batch.eq_of_new hbatch with ⟨slots, rfl⟩
  rcases p.options_eq settings flags with ⟨hbudget, htarget, hstrict⟩
  refine ⟨?_, hbudget, slots, ?_⟩
  . dsimp only
    rw [htarget]
    exact p.ticketsFor_setupTarget
  . dsimp only
    rw [hstrict]
    rfl

theorem failures_eq (t : PlannedTask) (index : Nat)
    : (t.ticket index).failures b₀.crew = t.failures settings flags := by
  rcases eq_of_batch hbatch with ⟨-, -, slots, hcrew⟩
  rw [hcrew, t.failures_ticket]

theorem longestFailure_eq : b₀.longestFailure = ⨆ t ∈ p.admitted, t.failures settings flags := by
  unfold Batch.longestFailure
  rw [(eq_of_batch hbatch).1]
  apply le_antisymm
  . apply iSup₂_le
    intro u hu
    rcases exists_of_mem_tickets hu with ⟨t, ht, index, rfl⟩
    rw [failures_eq hbatch]
    exact le_iSup₂ (f := fun (t : PlannedTask) (_ : t ∈ p.admitted) => t.failures settings flags)
      t ht
  . apply iSup₂_le
    intro t ht
    rcases exists_mem_tickets ht with ⟨index, hmem⟩
    rw [← failures_eq hbatch t index]
    exact le_iSup₂ (f := fun (u : Ticket) (_ : u ∈ p.tickets) => u.failures b₀.crew) _ hmem

theorem run_eq (d : Discipline) : p.run d id settings flags = .ok {
    answers := (b₀.runAll d flags.retry).1
    lines := Terminal.print flags.json (b₀.runAll d flags.retry).2.board.told
    crashes := p.crashes (b₀.runAll d flags.retry).2.shared.calls
    summary := (b₀.runAll d flags.retry).2.summary } := by
  unfold run
  rw [hbatch]
  rfl

section Decided

variable (hd : b₀.Decided flags.retry j b)

include hd

theorem lt_failures_iff {t : PlannedTask} {index : Nat} (ht : t.ticket index ∈ p.tickets)
    : (j : ℕ∞) < (t.ticket index).failures b₀.crew ↔ t.isUnresolved settings flags = true := by
  rcases eq_of_batch hbatch with ⟨hpending, hbudget, -⟩
  rw [hd.lt_failures_iff _ (hpending ▸ ht), failures_eq hbatch, hbudget]
  exact t.lt_failures_iff_isUnresolved settings flags

theorem results_eq : b.summary.results =
    p.admitted.zipIdx.map fun (t, index) => t.result settings flags index := by
  rcases eq_of_batch hbatch with ⟨hpending, -, slots, hcrew⟩
  rw [hd.report_eq, hpending]
  unfold tickets
  rw [List.map_map]
  apply List.map_congr_left
  rintro ⟨t, index⟩ hmem
  have houtcome := lt_failures_iff hbatch hd (List.mem_map_of_mem hmem)
  rw [hcrew] at houtcome ⊢
  simp only [Function.comp_def]
  rw [t.outcomeAt_retries_ticket settings flags houtcome]
  rfl

theorem filter_tickets : p.tickets.filter (fun u => (j : ℕ∞) < u.failures b₀.crew) =
    (p.admitted.zipIdx.filter fun (t, _) => t.isUnresolved settings flags).map
      fun (t, index) => t.ticket index := by
  unfold tickets
  rw [List.filter_map]
  apply congrArg
  apply List.filter_congr
  rintro ⟨t, index⟩ hmem
  rw [Function.comp_apply, Bool.eq_iff_iff, decide_eq_true_iff]
  exact lt_failures_iff hbatch hd (List.mem_map_of_mem hmem)

theorem unresolved_perm
    : b.summary.unresolved.Perm ((p.unresolved settings flags).map (·.profile.wording.failed)) := by
  have hfailed := hd.failed_perm.map (·.profile.wording.failed)
  rw [(eq_of_batch hbatch).1, filter_tickets hbatch hd, List.map_map, List.map_map] at hfailed
  unfold unresolved
  rw [← List.zipIdx_map_fst 0 p.admitted, List.filter_map, List.map_map]
  exact hfailed

theorem length_unresolved
    : b.summary.unresolved.length = (p.unresolved settings flags).length := by
  rw [(unresolved_perm hbatch hd).length_eq, List.length_map]

theorem ends {r : Report} {passes : List Gate.State} {closing : List Summary}
    (hanswers : r.answers =
      (passes.map Batch.Answer.state ++ closing.map Batch.Answer.summary).map .ok)
    (hlength : passes.length = j + 1) (hsummary : r.summary = b.summary)
    (hlast : closing = [b.summary] ∧ flags.retry = false ∨
      closing = [] ∧ passes.getLast? = some b.state)
    : p.Ends settings flags r := by
  rcases eq_of_batch hbatch with ⟨-, hbudget, -⟩
  have hretryCycles : b.summary.retryCycles = j := hd.retryCycle
  have hunresolved := length_unresolved hbatch hd
  have hfailed : b.failed.length = b.summary.unresolved.length := (List.length_map _).symm
  have hretries := hd.retries
  rw [longestFailure_eq hbatch, hbudget] at hretries
  have hfault := Report.fault?_eq_none hanswers
  have hclean : r.summary.isClean = true ↔ p.unresolved settings flags = [] := by
    rw [hsummary, ← List.length_eq_zero_iff, ← hunresolved, List.length_eq_zero_iff]
    exact List.isEmpty_iff
  constructor
  . refine ⟨passes, closing, hanswers, ?_, ?_⟩
    . rw [hsummary, hretryCycles, hlength]
    . rw [hsummary, ← hunresolved, ← hfailed, ← hd.state]
      exact hlast
  . rw [hsummary, hretryCycles]
    unfold RunFlags.retriesUnder
    rw [← hbudget]
    exact hd.retries_le
  . rw [hsummary, hretryCycles, hretries]
  . rw [hsummary]
    exact results_eq hbatch hd
  . rw [hsummary]
    exact unresolved_perm hbatch hd
  . rw [hsummary, hd.exhausted_iff, hbudget, hfailed, hunresolved, List.length_pos_iff]
  . intro hnone
    exact Report.output_of_isClean hfault (hclean.2 hnone) flags.json
  . intro hsome
    rw [← hunresolved, ← hsummary]
    exact Report.output_of_not_isClean hfault (mt hclean.1 hsome) flags.json

end Decided

end Batch

/--
Every run of a plan comes to the end that the plan lets foresee, and a command that reads the plan
from a file puts that end out and leaves the files as they are.
-/
theorem ends_run (p : Plan) (d : Discipline) (id : BatchId) (settings : Settings) (flags : RunFlags)
    (hcap : ∀ bound, (p.options settings flags).maxConcurrency = some bound → bound ≤ maxSlots)
    : ∃ report, p.run d id settings flags = .ok report ∧ p.Ends settings flags report ∧
        ∀ (files : FileTree) (path text : String),
          (Settings.load (m := StateM FileTree) "." files).1 = .ok settings →
          (Storage.readText (m := StateM FileTree) path files).1 = .ok text →
          Plan.ofToml? text = some p →
          Command.executeRun (m := StateM FileTree) d id path flags files =
            (report.output flags.json, files) := by
  rcases exists_batch id hcap with ⟨b₀, hbatch⟩
  rcases (Batch.fresh_new hbatch).runAll d flags.retry
    with ⟨passes, closing, j, b, hrunAll, hlength, hlast, hdecided⟩
  have hrun := run_eq hbatch d
  rw [hrunAll] at hrun
  refine ⟨_, hrun, ends hbatch hdecided rfl hlength rfl hlast, ?_⟩
  intro files path text hsettings htext hplan
  have hload : Settings.load (m := StateM FileTree) "." files = (.ok settings, files) :=
    Prod.ext hsettings (files.snd_load ".")
  have hread : Storage.readText (m := StateM FileTree) path files = (.ok text, files) :=
    Prod.ext htext (files.snd_readText path)
  simp only [Command.executeRun, bind, StateT.bind, hload, hread, hplan, hrun]
  rfl

def sample : Plan where
  tasks := [
    { name := "Fonts", failAttempts := 1, requiresReboot := true },
    { name := "Runtime", failAttempts := 3, crashes := true },
    { name := "Firewall", requiresElevation := true }]

theorem ends_sample
    : let settings : Settings :=
        { retry := { budget := 2 }, execution := { strictElevation := true } }
      let flags : RunFlags := { retry := true, maxConcurrency := some 2 }
      ∃ report, sample.run .queued ⟨⟨0⟩⟩ settings flags = .ok report ∧
        report.summary.results.map (·.outcome) = [.needsReboot, .failed, .failed] ∧
        report.summary.retryCycles ≤ 2 ∧ report.summary.exhausted = true ∧
        (report.output false).error = some "2 task(s) did not complete" := by
  intro settings flags
  have hcap : ∀ bound, (sample.options settings flags).maxConcurrency = some bound →
      bound ≤ maxSlots := by
    rintro bound ⟨⟩
    decide
  rcases ends_run sample .queued ⟨⟨0⟩⟩ settings flags hcap with ⟨report, hrun, hends, -⟩
  have hunresolved : sample.unresolved settings flags ≠ [] := by decide
  refine ⟨report, hrun, ?_, hends.retryCycles_le, hends.exhausted.2 ⟨hunresolved, .inl rfl⟩, ?_⟩
  . rw [hends.results]
    decide
  . exact (hends.failure hunresolved).2.trans (by decide)

end Plan

end SetupBatch
