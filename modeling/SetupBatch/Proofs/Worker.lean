import SetupBatch.Discipline
import SetupBatch.Proofs.Attempts
import SetupBatch.Proofs.InStep

/-!
This module contains the verification of the workers of a phase. What one worker does concerns its
own ticket only, so that the stage of a worker tells what has become of its ticket, whatever the
others have done in the meantime.
-/

namespace SetupBatch

namespace Tally

structure SamePass (t t' : Tally) : Prop where
  admitted : t'.admitted = t.admitted
  carried : t'.standing.carried = t.standing.carried
  passSize : t'.standing.passSize = t.standing.passSize
  retryCycle : t'.standing.retryCycle = t.standing.retryCycle
  retryBudget : t'.standing.retryBudget = t.standing.retryBudget

namespace SamePass

variable {t t' t'' : Tally}

theorem refl (t : Tally) : t.SamePass t := ⟨rfl, rfl, rfl, rfl, rfl⟩

theorem trans (h : t.SamePass t') (h' : t'.SamePass t'') : t.SamePass t'' where
  admitted := h'.admitted.trans h.admitted
  carried := h'.carried.trans h.carried
  passSize := h'.passSize.trans h.passSize
  retryCycle := h'.retryCycle.trans h.retryCycle
  retryBudget := h'.retryBudget.trans h.retryBudget

theorem of_start {i : Nat} (h : t.start i = .ok t') : t.SamePass t' := by
  rcases Tally.start_eq_ok_iff.1 h with ⟨-, -, rfl⟩
  exact ⟨rfl, rfl, rfl, rfl, rfl⟩

theorem of_report {u : Ticket} {o : Outcome} (h : t.report u o = .ok t') : t.SamePass t' := by
  rcases Tally.report_eq_ok_iff.1 h with ⟨-, -, rfl⟩
  exact ⟨rfl, rfl, rfl, rfl, rfl⟩

end SamePass

end Tally

namespace Shared

def called (s : Shared) (i : Nat) : Nat := s.calls.countP (·.task == i)

theorem called_congr {s s' : Shared} (h : s'.calls = s.calls) (i : Nat)
    : s'.called i = s.called i := by
  unfold called
  rw [h]

structure SameAt (i : Nat) (s s' : Shared) : Prop where
  admitted : i ∈ s'.board.tally.admitted ↔ i ∈ s.board.tally.admitted
  started : i ∈ s'.board.tally.started ↔ i ∈ s.board.tally.started
  settled : i ∈ s'.board.tally.settled ↔ i ∈ s.board.tally.settled
  lines : ∀ l : Line, l.task = some i →
    (l ∈ s'.board.feed.running ↔ l ∈ s.board.feed.running)
  failed : ∀ u : Ticket, u.index = i →
    (u ∈ s'.board.tally.failed ↔ u ∈ s.board.tally.failed)
  begun : s'.board.begun i = s.board.begun i
  called : s'.called i = s.called i

namespace SameAt

variable {i : Nat} {s s' s'' : Shared}

theorem refl (i : Nat) (s : Shared) : s.SameAt i s :=
  ⟨.rfl, .rfl, .rfl, fun _ _ => .rfl, fun _ _ => .rfl, rfl, rfl⟩

theorem trans (h : s.SameAt i s') (h' : s'.SameAt i s'') : s.SameAt i s'' where
  admitted := h'.admitted.trans h.admitted
  started := h'.started.trans h.started
  settled := h'.settled.trans h.settled
  lines l hl := (h'.lines l hl).trans (h.lines l hl)
  failed u hu := (h'.failed u hu).trans (h.failed u hu)
  begun := h'.begun.trans h.begun
  called := h'.called.trans h.called

theorem of_alike (i : Nat) (h : s.board.Alike s'.board) (hcalls : s'.calls = s.calls)
    : s.SameAt i s' where
  admitted := by rw [h.tally]
  started := by rw [h.tally]
  settled := by rw [h.tally]
  lines l _ := by rw [h.running]
  failed u _ := by rw [h.tally]
  begun := h.begun i
  called := called_congr hcalls i

theorem of_starts {t : Ticket} {line : LineId} (h : s.board.Starts t line s'.board)
    (hi : i ≠ t.index) (hcalled : s'.called i = s.called i) : s.SameAt i s' := by
  rcases Tally.start_eq_ok_iff.1 h.tally with ⟨-, -, htally⟩
  rcases h.running with ⟨l, -, htask, hrun⟩
  constructor
  . rw [htally]
  . rw [htally, List.mem_cons, or_iff_right hi]
  . rw [htally]
  . intro l' hl'
    rw [hrun, List.mem_append, List.mem_singleton, or_iff_left]
    rintro rfl
    rw [htask, Option.some.injEq] at hl'
    exact hi hl'.symm
  . intro u _
    rw [htally]
  . rw [h.begun, if_neg hi]
    rfl
  . exact hcalled

theorem of_finishes {t : Ticket} {line : LineId} {o : Outcome}
    (h : s.board.Finishes t line o s'.board) (hi : i ≠ t.index) (hcalls : s'.calls = s.calls)
    : s.SameAt i s' := by
  rcases Tally.report_eq_ok_iff.1 h.tally with ⟨-, -, htally⟩
  rcases h.running with ⟨xs, l, ys, -, htask, hrun, hrun'⟩
  constructor
  . rw [htally]
  . rw [htally]
  . rw [htally, List.mem_cons, or_iff_right hi]
  . intro l' hl'
    have hne : l' ≠ l := by
      rintro rfl
      rw [htask, Option.some.injEq] at hl'
      exact hi hl'.symm
    rw [hrun, hrun', List.mem_append, List.mem_append, List.mem_cons, or_iff_right hne]
  . intro u hu
    rw [htally]
    dsimp only
    split
    . rw [List.mem_append, List.mem_singleton, or_iff_left]
      rintro rfl
      exact hi hu.symm
    . rfl
  . exact h.begun i
  . exact called_congr hcalls i

end SameAt

structure Advances (i : Nat) (s s' : Shared) : Prop where
  inStep : s'.board.InStep
  others : ∀ k, k ≠ i → s.SameAt k s'
  samePass : s.board.tally.SamePass s'.board.tally

theorem Advances.of_alike (i : Nat) {s s' : Shared} (hs : s.board.InStep)
    (h : s.board.Alike s'.board) (hcalls : s'.calls = s.calls) : Advances i s s' where
  inStep := h.inStep hs
  others k _ := .of_alike k h hcalls
  samePass := h.tally ▸ .refl _

theorem alike_perform {s : Shared} (h : s.board.feed.Sound) (e : Effect)
    : s.board.Alike (s.perform e).board := by
  cases e with
  | sleep ms => exact .refl _
  | say text severity => exact .say h text severity
  | write key content => exact .request s.board (s.notebook.write key content).1 .add
  | post key => exact .request s.board (s.notebook.lookUp key).1 .add
  | withdraw key => exact .request s.board (s.notebook.lookUp key).1 .remove

theorem calls_perform (s : Shared) (e : Effect) : (s.perform e).calls = s.calls := by
  cases e <;> rfl

section Dispatch

variable (s : Shared) (t : Ticket)

theorem board_dispatch (mode : Mode) : (s.dispatch t mode).2.board = s.board := by
  unfold dispatch
  dsimp only
  split <;> rfl

theorem called_dispatch_of_ne (mode : Mode) {i : Nat} (hi : i ≠ t.index)
    : (s.dispatch t mode).2.called i = s.called i := by
  unfold dispatch called
  dsimp only
  split
  . rfl
  . rw [List.countP_append, List.countP_singleton, if_neg]
    . rfl
    . simpa using hi.symm

theorem called_dispatch (crew : Crew)
    : (s.dispatch t (crew.mode t.profile)).2.called t.index =
        s.called t.index + crew.callsFor t.profile := by
  unfold dispatch called Crew.callsFor
  dsimp only
  split
  . rfl
  . rw [List.countP_append, List.countP_singleton, if_pos]
    simp

end Dispatch

end Shared

namespace Ticket

variable (crew : Crew) (s₀ s : Shared) (t : Ticket)

structure Awaited : Prop where
  admitted : t.index ∈ s.board.tally.admitted
  started : t.index ∉ s.board.tally.started
  begun : s.board.begun t.index = s₀.board.begun t.index
  called : s.called t.index = s₀.called t.index

structure Out (line : LineId) : Prop where
  started : t.index ∈ s.board.tally.started
  settled : t.index ∉ s.board.tally.settled
  line : ∃ l ∈ s.board.feed.running, l.id = line ∧ l.task = some t.index
  begun : s.board.begun t.index = s₀.board.begun t.index + 1
  called : s.called t.index = s₀.called t.index + crew.callsFor t.profile

/-- The ticket has reported the outcome of its next attempt after `s₀`. -/
structure Ended : Prop where
  settled : t.index ∈ s.board.tally.settled
  failed : ∀ u : Ticket, u.index = t.index → (u ∈ s.board.tally.failed ↔
    t.outcomeAt crew (s₀.nextAttempt t.index) = .failed ∧ u = t.withOutcome .failed)
  begun : s.board.begun t.index = s₀.board.begun t.index + 1
  called : s.called t.index = s₀.called t.index + crew.callsFor t.profile

variable {crew s₀ s t} {s' : Shared}

theorem Awaited.of_sameAt (h : t.Awaited s₀ s) (hs : s.SameAt t.index s') : t.Awaited s₀ s' where
  admitted := hs.admitted.2 h.admitted
  started := mt hs.started.1 h.started
  begun := hs.begun.trans h.begun
  called := hs.called.trans h.called

theorem Out.of_sameAt {line : LineId} (h : t.Out crew s₀ s line) (hs : s.SameAt t.index s')
    : t.Out crew s₀ s' line where
  started := hs.started.2 h.started
  settled := mt hs.settled.1 h.settled
  line := by
    rcases h.line with ⟨l, hl, hid, htask⟩
    exact ⟨l, (hs.lines l htask).2 hl, hid, htask⟩
  begun := hs.begun.trans h.begun
  called := hs.called.trans h.called

theorem Ended.of_sameAt (h : t.Ended crew s₀ s) (hs : s.SameAt t.index s')
    : t.Ended crew s₀ s' where
  settled := hs.settled.2 h.settled
  failed u hu := (hs.failed u hu).trans (h.failed u hu)
  begun := hs.begun.trans h.begun
  called := hs.called.trans h.called

theorem Awaited.start (h : t.Awaited s₀ s) (hs : s.board.InStep) {line : LineId}
    (hstarts : s.board.Starts t line s'.board)
    (hcalled : s'.called t.index = s.called t.index + crew.callsFor t.profile)
    : t.Out crew s₀ s' line := by
  rcases Tally.start_eq_ok_iff.1 hstarts.tally with ⟨-, -, htally⟩
  rcases hstarts.running with ⟨l, hid, htask, hrun⟩
  constructor
  . rw [htally]
    exact List.mem_cons_self
  . rw [htally]
    exact fun hmem => h.started (hs.regular.settled_sub _ hmem)
  . refine ⟨l, ?_, hid, htask⟩
    rw [hrun]
    simp
  . rw [hstarts.begun, if_pos rfl, h.begun]
  . rw [hcalled, h.called]

theorem Out.report {line : LineId} (h : t.Out crew s₀ s line) (hs : s.board.InStep) {o : Outcome}
    (ho : o = t.outcomeAt crew (s₀.nextAttempt t.index))
    (hfinishes : s.board.Finishes (t.withOutcome o) line o s'.board) (hcalls : s'.calls = s.calls)
    : t.Ended crew s₀ s' := by
  rcases Tally.report_eq_ok_iff.1 hfinishes.tally with ⟨-, -, htally⟩
  constructor
  . rw [htally]
    exact List.mem_cons_self
  . intro u hu
    have hnew : u ∉ s.board.tally.failed := by
      intro hmem
      apply h.settled
      rw [← hu]
      exact (hs.regular.failed_sub u hmem).1
    rw [htally, ← ho]
    dsimp only
    split
    . next hfailed =>
      rw [List.mem_append, List.mem_singleton, or_iff_right hnew, hfailed]
      simp [withOutcome]
    . next hfailed => simp [hnew, hfailed]
  . rw [hfinishes.begun, h.begun]
  . rw [Shared.called_congr hcalls, h.called]

end Ticket

namespace Worker

variable {crew : Crew} {s₀ s s' : Shared} {w w' : Worker}

inductive Steps (crew : Crew) (free : Bool) (s : Shared) (w : Worker) : Worker → Shared → Prop where
  | take : w.stage = .waiting → free = true → Steps crew free s w { w with stage := .ready } s
  | start : w.stage = .ready → Steps crew free s w (w.start crew s).1 (w.start crew s).2
  | perform (line : LineId) (effect : Effect) (rest : List Effect) (ending : Ending) :
    w.stage = .running line (effect :: rest) ending →
    Steps crew free s w { w with stage := .running line rest ending } (s.perform effect)
  | report (line : LineId) (ending : Ending) : w.stage = .running line [] ending →
    Steps crew free s w (w.report s line ending).1 (w.report s line ending).2
  | leave (result : Except Breach Ticket) : w.stage = .reported result →
    Steps crew free s w { w with stage := .gone result } s

theorem steps_of_step? {free : Bool} (h : w.step? crew free s = some (w', s'))
    : w.Steps crew free s w' s' := by
  unfold step? at h
  split at h
  . next hw =>
    split at h
    . next hfree =>
      cases h
      exact .take hw hfree
    . cases h
  . next hw =>
    have hstart : w.Steps crew free s (w.start crew s).1 (w.start crew s).2 := .start hw
    rw [Option.some.inj h] at hstart
    exact hstart
  . next line effect rest ending hw =>
    cases h
    exact .perform line effect rest ending hw
  . next line ending hw =>
    have hreport : w.Steps crew free s (w.report s line ending).1 (w.report s line ending).2 :=
      .report line ending hw
    rw [Option.some.inj h] at hreport
    exact hreport
  . next result hw =>
    cases h
    exact .leave result hw
  . cases h

/--
What the stage of a worker says, if `s₀` was shared when its phase began.
-/
def Stands (crew : Crew) (s₀ s : Shared) (w : Worker) : Prop :=
  match w.stage with
  | .waiting | .ready => w.ticket.Awaited s₀ s
  | .running line _ ending =>
    w.ticket.Out crew s₀ s line ∧
      ending = (w.ticket.attemptAt crew (s₀.nextAttempt w.ticket.index)).ending
  | .reported result | .gone result =>
    w.ticket.Ended crew s₀ s ∧ result = .ok (w.ticket.withOutcome
      (w.ticket.outcomeAt crew (s₀.nextAttempt w.ticket.index)))

theorem Stands.of_sameAt (h : w.Stands crew s₀ s) (hs : s.SameAt w.ticket.index s')
    : w.Stands crew s₀ s' := by
  unfold Stands at *
  split
  . next hw => rw [hw] at h; exact h.of_sameAt hs
  . next hw => rw [hw] at h; exact h.of_sameAt hs
  . next hw => rw [hw] at h; exact ⟨h.1.of_sameAt hs, h.2⟩
  . next hw => rw [hw] at h; exact ⟨h.1.of_sameAt hs, h.2⟩
  . next hw => rw [hw] at h; exact ⟨h.1.of_sameAt hs, h.2⟩

structure Progress (crew : Crew) (s₀ s : Shared) (w w' : Worker) (s' : Shared) : Prop where
  ticket : w'.ticket = w.ticket
  stands : w'.Stands crew s₀ s'
  advances : s.Advances w.ticket.index s'

theorem progress_start (hs : s.board.InStep) (h : w.ticket.Awaited s₀ s)
    : w.Progress crew s₀ s (w.start crew s).1 (w.start crew s).2 := by
  rcases hs.start h.admitted h.started with ⟨line, board, hstart, hstarts⟩
  have hboard := Shared.board_dispatch { s with board } w.ticket (crew.mode w.ticket.profile)
  have hcalled := Shared.called_dispatch { s with board } w.ticket crew
  have hstarts' : s.board.Starts w.ticket line
      (Shared.dispatch { s with board } w.ticket (crew.mode w.ticket.profile)).2.board :=
    hboard ▸ hstarts
  -- nobody else runs the code of this ticket, so the number is that of when the phase began
  have hnumber : s.nextAttempt w.ticket.index = s₀.nextAttempt w.ticket.index :=
    congrArg (· + 1) h.called
  unfold start
  rw [hstart]
  refine ⟨rfl, ⟨h.start hs hstarts' hcalled, ?_⟩, hstarts'.inStep, ?_, ?_⟩
  . rw [← hnumber]
    rfl
  . intro k hk
    exact .of_starts hstarts' hk (Shared.called_dispatch_of_ne _ _ _ hk)
  . exact .of_start hstarts'.tally

theorem progress_report (hs : s.board.InStep) {line : LineId} {ending : Ending}
    (h : w.ticket.Out crew s₀ s line)
    (hending : ending = (w.ticket.attemptAt crew (s₀.nextAttempt w.ticket.index)).ending)
    : w.Progress crew s₀ s (w.report s line ending).1 (w.report s line ending).2 := by
  rcases h.line with ⟨l, hl, rfl, htask⟩
  generalize hverdict : ending.verdict w.ticket.profile.requiresReboot = verdict
  have ho : verdict.1 = w.ticket.outcomeAt crew (s₀.nextAttempt w.ticket.index) := by
    unfold Ticket.outcomeAt
    rw [← hending, hverdict]
  rcases hs.finish (t := w.ticket.withOutcome verdict.1) h.started h.settled hl htask verdict.1
    verdict.2 with ⟨board, hfinish, hfinishes⟩
  unfold report
  rw [hverdict]
  dsimp only
  rw [hfinish]
  refine ⟨rfl, ⟨h.report hs ho hfinishes rfl, ?_⟩, hfinishes.inStep, ?_, ?_⟩
  . rw [← ho]
    rfl
  . intro k hk
    exact .of_finishes hfinishes hk rfl
  . exact .of_report hfinishes.tally

theorem progress_step? (hs : s.board.InStep) (h : w.Stands crew s₀ s) {free : Bool}
    (hstep : w.step? crew free s = some (w', s')) : w.Progress crew s₀ s w' s' := by
  unfold Stands at h
  have hsame : ∀ stage, Stands crew s₀ s { w with stage } →
      w.Progress crew s₀ s { w with stage } s := by
    intro stage hstage
    exact ⟨rfl, hstage, .of_alike _ hs (.refl _) rfl⟩
  cases steps_of_step? hstep with
  | take hw _ =>
    rw [hw] at h
    exact hsame .ready h
  | start hw =>
    rw [hw] at h
    apply progress_start hs h
  | perform line effect rest ending hw =>
    rw [hw] at h
    have halike := Shared.alike_perform hs.sound effect
    have hadvances := Shared.Advances.of_alike w.ticket.index hs halike (s.calls_perform effect)
    refine ⟨rfl, ⟨h.1.of_sameAt ?_, h.2⟩, hadvances⟩
    exact .of_alike _ halike (s.calls_perform effect)
  | report line ending hw =>
    rw [hw] at h
    exact progress_report hs h.1 h.2
  | leave result hw =>
    rw [hw] at h
    exact hsame (.gone result) h

end Worker

end SetupBatch
