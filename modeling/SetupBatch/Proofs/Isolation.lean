import SetupBatch.Proofs.Attendance
import SetupBatch.Proofs.Telling

/-!
This module contains the verification of one worker among others. Whatever is done to the board
between its steps, as long as nobody else starts or reports its ticket, names its line or begins a
pass: every step that it takes succeeds, and the code of its ticket runs once.
-/

namespace SetupBatch

namespace Operation

def call? : Operation → Option Tally.Call
  | .beginPass tickets => some (.begin tickets)
  | .start t => some (.start t.index)
  | .finish t _ o _ => some (.report t o)
  | .takeFailed => some .takeFailed
  | _ => none

def Avoids (i : Nat) (line? : Option LineId) : Operation → Prop
  | .beginPass _ => False
  | .start t => t.index ≠ i
  | .finish t line _ _ => t.index ≠ i ∧ line? ≠ some line
  | _ => True

end Operation

structure Tally.SameFor (i : Nat) (t t' : Tally) : Prop where
  admitted : i ∈ t'.admitted ↔ i ∈ t.admitted
  started : i ∈ t'.started ↔ i ∈ t.started
  settled : i ∈ t'.settled ↔ i ∈ t.settled

namespace Board

variable {b : Board} {i : Nat} {line : LineId} {line? : Option LineId} {op : Operation}

theorem tally_carryOut (b : Board) (op : Operation)
    : (b.carryOut op).tally = Calls.run Tally.serve b.tally op.call?.toList := by
  cases op with
  | beginPass tickets => rfl
  | endPass => exact (Alike.endPass b).tally
  | start t =>
    show (b.start t).2.tally = (b.tally.answer (b.tally.start t.index)).2
    unfold Board.start
    cases b.tally.start t.index <;> rfl
  | finish t line o detail =>
    show (b.finish t line o detail).2.tally = (b.tally.answer (b.tally.report t o)).2
    unfold Board.finish
    cases b.tally.report t o with
    | error breach => rfl
    | ok tally =>
      have hraised := (Alike.raiseFor { b with tally } t.profile o detail).tally
      dsimp only
      split
      . exact hraised
      . exact hraised
  | say text severity => rfl
  | request notice kind => exact (Alike.request b notice kind).tally
  | clearNotices => rfl
  | takeFailed => rfl

theorem sameFor_carryOut (hop : op.Avoids i line?) : b.tally.SameFor i (b.carryOut op).tally := by
  rw [tally_carryOut]
  cases op with
  | beginPass tickets => exact hop.elim
  | start t =>
    show b.tally.SameFor i (b.tally.answer (b.tally.start t.index)).2
    have hne : i ≠ t.index := Ne.symm hop
    cases htally : b.tally.start t.index with
    | error breach => exact ⟨.rfl, .rfl, .rfl⟩
    | ok tally =>
      rcases Tally.start_eq_ok_iff.1 htally with ⟨-, -, rfl⟩
      refine ⟨.rfl, ?_, .rfl⟩
      exact List.mem_cons.trans (or_iff_right hne)
  | finish t line o detail =>
    show b.tally.SameFor i (b.tally.answer (b.tally.report t o)).2
    have hne : i ≠ t.index := Ne.symm hop.1
    cases htally : b.tally.report t o with
    | error breach => exact ⟨.rfl, .rfl, .rfl⟩
    | ok tally =>
      rcases Tally.report_eq_ok_iff.1 htally with ⟨-, -, rfl⟩
      refine ⟨.rfl, .rfl, ?_⟩
      exact List.mem_cons.trans (or_iff_right hne)
  | _ => exact ⟨.rfl, .rfl, .rfl⟩

theorem exists_running_carryOut (h : b.feed.Sound) (hop : op.Avoids i (some line))
    (hline : ∃ l ∈ b.feed.running, l.id = line)
    : ∃ l ∈ (b.carryOut op).feed.running, l.id = line := by
  rcases hline with ⟨l, hl, rfl⟩
  refine ⟨l, ?_, rfl⟩
  cases op with
  | beginPass tickets => exact hop.elim
  | endPass => exact (Alike.endPass b).running ▸ hl
  | start t =>
    cases htally : b.tally.start t.index with
    | error breach => simpa only [carryOut, start, htally] using hl
    | ok tally =>
      show l ∈ (b.start t).2.feed.running
      rw [feed_start_of_ok htally, (Feed.parts_begin h _ _).2]
      exact List.mem_append_left _ hl
  | finish t id o detail =>
    show l ∈ (b.finish t id o detail).2.feed.running
    cases feed_finish_cases b t id o detail with
    | inl hsame => rwa [hsame]
    | inr hsettled =>
      rcases hsettled with ⟨changes, hsettle⟩
      rcases Feed.mem_running_of_settle h hsettle with ⟨l', hl', rfl⟩
      rcases List.append_of_mem hl' with ⟨xs, ys, hrun⟩
      -- another line settles, and this one stays among those that run
      have hne : l ≠ l' := fun heq => hop.2 (congrArg (some ·.id) heq)
      rw [(Feed.parts_settle h hrun hsettle).2]
      rw [hrun, List.mem_append, List.mem_cons, or_iff_right hne] at hl
      exact List.mem_append.2 hl
  | say text severity =>
    show l ∈ (b.feed.add text severity).2.running
    rwa [(Feed.parts_add h text severity).2]
  | request notice kind => exact (Alike.request b notice kind).running ▸ hl
  | clearNotices => exact hl
  | takeFailed => exact hl

structure Expects (b : Board) (i : Nat) : Prop where
  admitted : i ∈ b.tally.admitted
  started : i ∉ b.tally.started
  settled : i ∉ b.tally.settled

structure Carries (b : Board) (i : Nat) (line : LineId) : Prop where
  started : i ∈ b.tally.started
  settled : i ∉ b.tally.settled
  line : ∃ l ∈ b.feed.running, l.id = line

theorem Expects.carryOut (h : b.Expects i) (hop : op.Avoids i line?)
    : (b.carryOut op).Expects i := by
  have hsame := sameFor_carryOut (b := b) hop
  exact ⟨hsame.admitted.2 h.admitted, mt hsame.started.1 h.started, mt hsame.settled.1 h.settled⟩

theorem Carries.carryOut (h : b.Carries i line) (hb : b.feed.Sound)
    (hop : op.Avoids i (some line)) : (b.carryOut op).Carries i line := by
  have hsame := sameFor_carryOut (b := b) hop
  exact ⟨hsame.started.2 h.started, mt hsame.settled.1 h.settled,
    exists_running_carryOut hb hop h.line⟩

theorem Expects.start {t : Ticket} (h : b.Expects t.index) (hb : b.feed.Sound)
    : (b.start t).1 = .ok ⟨b.feed.next⟩ ∧ (b.start t).2.Carries t.index ⟨b.feed.next⟩ := by
  rcases Tally.exists_start h.admitted h.started with ⟨tally, htally⟩
  have hfeed := feed_start_of_ok htally
  have hrun := (Feed.parts_begin hb t.profile.wording.executing t.index).2
  have hboard : (b.start t).2.tally = tally := by
    simp only [Board.start, htally]
    rfl
  rcases Tally.start_eq_ok_iff.1 htally with ⟨-, -, rfl⟩
  refine ⟨?_, ?_, ?_, ?_⟩
  . simp only [Board.start, htally]
    rfl
  . rw [hboard]
    exact List.mem_cons_self
  . rw [hboard]
    exact h.settled
  . refine ⟨b.feed.opening t.profile.wording.executing t.index, ?_, rfl⟩
    rw [hfeed, hrun]
    exact List.mem_append_right _ (List.mem_singleton_self _)

theorem Carries.finish {t : Ticket} (h : b.Carries t.index line) (hb : b.feed.Sound) (o : Outcome)
    (detail : Option String)
    : (b.finish t line o detail).1 = .ok () ∧
        t.index ∈ (b.finish t line o detail).2.tally.settled := by
  rcases Tally.exists_report h.started h.settled o with ⟨tally, htally⟩
  rcases h.line with ⟨l, hl, rfl⟩
  rcases List.append_of_mem hl with ⟨xs, ys, hrun⟩
  have hsettle := Feed.settle_eq hb hrun o (t.profile.wording.tell o)
  have hboard : (b.finish t l.id o detail).2.tally = (b.tally.answer (b.tally.report t o)).2 :=
    tally_carryOut b (.finish t l.id o detail)
  constructor
  . simp only [Board.finish, htally, feed_raiseFor, hsettle]
  . rw [hboard, htally]
    rcases Tally.report_eq_ok_iff.1 htally with ⟨-, -, rfl⟩
    exact List.mem_cons_self

end Board

namespace Shared

def callsOf (s : Shared) (i : Nat) : List Call := s.calls.filter (·.task == i)

end Shared

def Ticket.callsAt (crew : Crew) (t : Ticket) (k : Nat) : List Call :=
  if crew.mode t.profile = .refused then []
  else [{ task := t.index, attempt := k, elevated := t.task.runsElevated (crew.mode t.profile) }]

namespace Shared

theorem nextAttempt_congr {s s₀ : Shared} {i : Nat} (h : s.callsOf i = s₀.callsOf i)
    : s.nextAttempt i = s₀.nextAttempt i := by
  unfold callsOf at h
  unfold nextAttempt
  rw [List.countP_eq_length_filter, List.countP_eq_length_filter, h]

theorem callsOf_dispatch (crew : Crew) (s : Shared) (t : Ticket)
    : (s.dispatch t (crew.mode t.profile)).2.callsOf t.index =
        s.callsOf t.index ++ t.callsAt crew (s.nextAttempt t.index) := by
  unfold dispatch callsOf Ticket.callsAt
  dsimp only
  split
  . exact (List.append_nil _).symm
  . rw [List.filter_append]
    simp

end Shared

def Stage.line? : Stage → Option LineId
  | .running line _ _ => some line
  | _ => none

namespace Worker

/-- What others may do between two steps of a worker: anything that avoids its ticket. -/
inductive Others (w : Worker) (s : Shared) : Shared → Prop where
  | operate (op : Operation) : op.Avoids w.ticket.index w.stage.line? →
    Others w s { s with board := s.board.carryOut op }
  | note (notebook : Notebook) : Others w s { s with notebook }
  | call (c : Call) : c.task ≠ w.ticket.index → Others w s { s with calls := s.calls ++ [c] }

/--
A worker takes this many steps of its own, and between them happens what is relied upon.
-/
inductive Runs (crew : Crew) (rely : Worker → Shared → Shared → Prop) (w₀ : Worker) (s₀ : Shared) :
    Nat → Worker → Shared → Prop where
  | refl : Runs crew rely w₀ s₀ 0 w₀ s₀
  | step {n w s w' s'} (free : Bool) : Runs crew rely w₀ s₀ n w s →
    w.step? crew free s = some (w', s') → Runs crew rely w₀ s₀ (n + 1) w' s'
  | others {n w s s'} : Runs crew rely w₀ s₀ n w s → rely w s s' → Runs crew rely w₀ s₀ n w s'

end Worker

namespace Ticket

def nextAt (crew : Crew) (s : Shared) (t : Ticket) : Attempt :=
  t.attemptAt crew (s.nextAttempt t.index)

def nextVerdict (crew : Crew) (s : Shared) (t : Ticket) : Outcome × Option String :=
  t.verdictAt crew (s.nextAttempt t.index)

def ranAt (crew : Crew) (s : Shared) (t : Ticket) : Ticket :=
  t.withOutcome (t.nextVerdict crew s).1

variable (crew : Crew) (s₀ s : Shared) (t : Ticket)

structure Ahead : Prop where
  expects : s.board.Expects t.index
  calls : s.callsOf t.index = s₀.callsOf t.index

structure Underway (line : LineId) : Prop where
  carries : s.board.Carries t.index line
  calls : s.callsOf t.index = s₀.callsOf t.index ++ t.callsAt crew (s₀.nextAttempt t.index)

structure Through : Prop where
  settled : t.index ∈ s.board.tally.settled
  calls : s.callsOf t.index = s₀.callsOf t.index ++ t.callsAt crew (s₀.nextAttempt t.index)

end Ticket

def Stage.Holds (crew : Crew) (s₀ s : Shared) (t : Ticket) (n : Nat) : Stage → Prop
  | .waiting => n = 0 ∧ t.Ahead s₀ s
  | .ready => n = 1 ∧ t.Ahead s₀ s
  | .running line rest ending =>
    n + rest.length = (t.nextAt crew s₀).effects.length + 2 ∧ ending = (t.nextAt crew s₀).ending ∧
      t.Underway crew s₀ s line
  | .reported result =>
    n = (t.nextAt crew s₀).effects.length + 3 ∧ result = .ok (t.ranAt crew s₀) ∧
      t.Through crew s₀ s
  | .gone result =>
    n = (t.nextAt crew s₀).effects.length + 4 ∧ result = .ok (t.ranAt crew s₀) ∧
      t.Through crew s₀ s

section Holds

variable {crew : Crew} {s₀ s s' : Shared} {w w' : Worker} {t : Ticket} {n : Nat}

theorem Stage.Holds.of_kept {stage : Stage} (h : stage.Holds crew s₀ s t n)
    (hexpects : s.board.Expects t.index → s'.board.Expects t.index)
    (hcarries : ∀ line, stage.line? = some line → s.board.Carries t.index line →
      s'.board.Carries t.index line)
    (hsettled : t.index ∈ s.board.tally.settled → t.index ∈ s'.board.tally.settled)
    (hcalls : s'.callsOf t.index = s.callsOf t.index) : stage.Holds crew s₀ s' t n := by
  cases stage with
  | waiting => exact ⟨h.1, hexpects h.2.expects, hcalls.trans h.2.calls⟩
  | ready => exact ⟨h.1, hexpects h.2.expects, hcalls.trans h.2.calls⟩
  | running line rest ending =>
    exact ⟨h.1, h.2.1, hcarries line rfl h.2.2.carries, hcalls.trans h.2.2.calls⟩
  | reported result => exact ⟨h.1, h.2.1, hsettled h.2.2.settled, hcalls.trans h.2.2.calls⟩
  | gone result => exact ⟨h.1, h.2.1, hsettled h.2.2.settled, hcalls.trans h.2.2.calls⟩

namespace Worker

/-- What holds of a worker that runs a ticket, whatever the others do. -/
structure Holds (crew : Crew) (s₀ : Shared) (t : Ticket) (n : Nat) (w : Worker) (s : Shared) :
    Prop where
  ticket : w.ticket = t
  tells : s.board.stream.Tells s.board.feed
  stage : w.stage.Holds crew s₀ s t n

theorem tells_perform (h : s.board.stream.Tells s.board.feed) (effect : Effect)
    : (s.perform effect).board.stream.Tells (s.perform effect).board.feed := by
  generalize hs : (s.perform effect).board = b
  have hworks : s.board.Works b := hs ▸ s.works_perform effect
  cases hworks with
  | idle => exact h
  | carryOut op _ => exact Board.tells_carryOut h op

theorem start_eq {line : LineId} (h : (s.board.start w.ticket).1 = .ok line)
    : w.start crew s = ({ w with
          stage := .running line (w.ticket.nextAt crew s).effects (w.ticket.nextAt crew s).ending },
        (Shared.dispatch { s with board := (s.board.start w.ticket).2 } w.ticket
          (crew.mode w.ticket.profile)).2) := by
  have hstart : s.board.start w.ticket = (.ok line, (s.board.start w.ticket).2) := Prod.ext h rfl
  unfold start
  rw [hstart]
  rfl

theorem report_eq {line : LineId} (ending : Ending) {o : Outcome} {detail : Option String}
    (hverdict : ending.verdict w.ticket.profile.requiresReboot = (o, detail))
    (h : (s.board.finish (w.ticket.withOutcome o) line o detail).1 = .ok ())
    : w.report s line ending = ({ w with stage := .reported (.ok (w.ticket.withOutcome o)) },
        { s with board := (s.board.finish (w.ticket.withOutcome o) line o detail).2 }) := by
  unfold report
  rw [hverdict]
  dsimp only
  rw [h]
  rfl

theorem Holds.start (h : Holds crew s₀ t n w s) (hw : w.stage = .ready)
    : Holds crew s₀ t (n + 1) (w.start crew s).1 (w.start crew s).2 := by
  have htells : (w.start crew s).2.board.stream.Tells (w.start crew s).2.board.feed := by
    rw [board_start]
    exact Board.tells_carryOut h.tells _
  rcases h with ⟨rfl, hb, hstage⟩
  rw [hw] at hstage
  rcases hstage with ⟨rfl, hahead⟩
  rcases hahead.expects.start hb.sound with ⟨hline, hcarries⟩
  have hnumber := Shared.nextAttempt_congr hahead.calls
  have hattempt : w.ticket.nextAt crew s = w.ticket.nextAt crew s₀ :=
    congrArg (w.ticket.attemptAt crew) hnumber
  rw [start_eq hline] at htells ⊢
  refine ⟨rfl, htells, ?_, ?_, ?_, ?_⟩
  . rw [hattempt, Nat.add_comm]
  . rw [hattempt]
  . rw [Shared.board_dispatch]
    exact hcarries
  . rw [Shared.callsOf_dispatch, ← hnumber, ← hahead.calls]
    rfl

theorem Holds.perform (h : Holds crew s₀ t n w s) {line : LineId} {effect : Effect}
    {rest : List Effect} {ending : Ending} (hw : w.stage = .running line (effect :: rest) ending)
    : Holds crew s₀ t (n + 1) { w with stage := .running line rest ending } (s.perform effect) := by
  rcases h with ⟨rfl, hb, hstage⟩
  rw [hw] at hstage
  rcases hstage with ⟨hn, hending, hunder⟩
  have halike := Shared.alike_perform hb.sound effect
  refine ⟨rfl, tells_perform hb effect, ?_, hending, ⟨?_, ?_, ?_⟩, ?_⟩
  . rw [List.length_cons] at hn
    omega
  . rw [halike.tally]
    exact hunder.carries.started
  . rw [halike.tally]
    exact hunder.carries.settled
  . rw [halike.running]
    exact hunder.carries.line
  . unfold Shared.callsOf
    rw [Shared.calls_perform]
    exact hunder.calls

theorem Holds.report (h : Holds crew s₀ t n w s) {line : LineId} {ending : Ending}
    (hw : w.stage = .running line [] ending)
    : Holds crew s₀ t (n + 1) (w.report s line ending).1 (w.report s line ending).2 := by
  rcases h with ⟨rfl, hb, hstage⟩
  rw [hw] at hstage
  rcases hstage with ⟨hn, rfl, hunder⟩
  have hfinish := hunder.carries.finish (t := w.ticket.ranAt crew s₀) hb.sound
    (w.ticket.nextVerdict crew s₀).1 (w.ticket.nextVerdict crew s₀).2
  rw [report_eq (w.ticket.nextAt crew s₀).ending rfl hfinish.1]
  refine ⟨rfl, ?_, ?_, rfl, hfinish.2, hunder.calls⟩
  . exact Board.tells_carryOut hb (.finish _ line _ _)
  . rw [List.length_nil] at hn
    omega

theorem Holds.step (h : Holds crew s₀ t n w s) {free : Bool}
    (hstep : w.step? crew free s = some (w', s')) : Holds crew s₀ t (n + 1) w' s' := by
  cases steps_of_step? hstep with
  | take hw _ =>
    rcases h with ⟨rfl, hb, hstage⟩
    rw [hw] at hstage
    exact ⟨rfl, hb, congrArg (· + 1) hstage.1, hstage.2⟩
  | start hw => exact h.start hw
  | perform line effect rest ending hw => exact h.perform hw
  | report line ending hw => exact h.report hw
  | leave result hw =>
    rcases h with ⟨rfl, hb, hstage⟩
    rw [hw] at hstage
    exact ⟨rfl, hb, congrArg (· + 1) hstage.1, hstage.2⟩

theorem Holds.others (h : Holds crew s₀ t n w s) (hothers : w.Others s s')
    : Holds crew s₀ t n w s' := by
  rcases h with ⟨rfl, hb, hstage⟩
  cases hothers with
  | operate op hop =>
    have hsame := Board.sameFor_carryOut (b := s.board) hop
    refine ⟨rfl, Board.tells_carryOut hb op, hstage.of_kept (·.carryOut hop) ?_ hsame.settled.2 rfl⟩
    intro line hline hcarries
    rw [hline] at hop
    exact hcarries.carryOut hb.sound hop
  | note notebook => exact ⟨rfl, hb, hstage.of_kept id (fun _ _ => id) id rfl⟩
  | call c hc =>
    refine ⟨rfl, hb, hstage.of_kept id (fun _ _ => id) id ?_⟩
    unfold Shared.callsOf
    rw [List.filter_append, List.filter_cons_of_neg, List.filter_nil, List.append_nil]
    simpa using hc

theorem Runs.holds (h : Runs crew Others { ticket := t } s₀ n w s)
    (hb : s₀.board.stream.Tells s₀.board.feed) (ht : s₀.board.Expects t.index)
    : Holds crew s₀ t n w s := by
  induction h with
  | refl => exact ⟨rfl, hb, rfl, ht, rfl⟩
  | step free _ hstep ih => exact ih.step hstep
  | others _ hothers ih => exact ih.others hothers

variable {rely : Worker → Shared → Shared → Prop}

theorem Runs.perform {w₀ : Worker} (h : Runs crew Others w₀ s₀ n w s) (effect : Effect)
    : Runs crew Others w₀ s₀ n w (s.perform effect) := by
  cases effect with
  | sleep ms => exact h
  | say text severity => exact h.others (.operate (.say text severity) trivial)
  | write key content =>
    have hnoted := h.others (.note (s.notebook.write key content).2)
    exact hnoted.others (.operate (.request (s.notebook.write key content).1 .add) trivial)
  | post key =>
    have hnoted := h.others (.note (s.notebook.lookUp key).2)
    exact hnoted.others (.operate (.request (s.notebook.lookUp key).1 .add) trivial)
  | withdraw key =>
    have hnoted := h.others (.note (s.notebook.lookUp key).2)
    exact hnoted.others (.operate (.request (s.notebook.lookUp key).1 .remove) trivial)

theorem Stands.line?_ne {v : Worker} (hs : s.board.InStep) (hw : w.Stands crew s₀ s)
    {line : LineId} (hv : v.ticket.Out crew s₀ s line) (hne : v.ticket.index ≠ w.ticket.index)
    : w.stage.line? ≠ some line := by
  intro hline
  unfold Stands at hw
  cases hstage : w.stage with
  | running line' rest ending =>
    rw [hstage] at hw hline
    cases hline
    rcases hv.line with ⟨l, hl, hid, htask⟩
    rcases hw.1.line with ⟨l', hl', hid', htask'⟩
    have heq : l' = l := List.inj_on_of_nodup_map hs.sound.ids (Feed.mem_lines.2 (.inr hl'))
      (Feed.mem_lines.2 (.inr hl)) (hid'.trans hid.symm)
    rw [heq, htask, Option.some.injEq] at htask'
    exact hne htask'
  | _ =>
    rw [hstage] at hline
    cases hline

theorem Runs.of_other {w₀ v v' : Worker} (h : Runs crew Others w₀ s₀ n w s) {s₁ : Shared}
    (hs : s.board.InStep) (hw : w.Stands crew s₁ s) (hv : v.Stands crew s₁ s)
    (hne : v.ticket.index ≠ w.ticket.index) {free : Bool}
    (hstep : v.step? crew free s = some (v', s')) : Runs crew Others w₀ s₀ n w s' := by
  unfold Stands at hv
  cases steps_of_step? hstep with
  | take _ _ => exact h
  | start hstage =>
    rw [hstage] at hv
    rcases hs.start hv.admitted hv.started with ⟨line, board, hstart, -⟩
    rw [start_eq (congrArg Prod.fst hstart)]
    have hstarted := h.others (.operate (.start v.ticket) hne)
    unfold Shared.dispatch
    dsimp only
    split
    . exact hstarted
    . exact hstarted.others (.call _ hne)
  | perform line effect rest ending _ => exact h.perform effect
  | report line ending hstage =>
    rw [hstage] at hv
    exact h.others (.operate (.finish _ line _ _) ⟨hne, hw.line?_ne hs hv.1 hne⟩)
  | leave _ _ => exact h

end Worker

/-- In whatever order the workers of a phase step, each of them runs its ticket among the others. -/
theorem Pool.Reach.runs {p q : Pool} (h : p.Reach q) (hp : p.Proceeds s₀) {i : Nat} {w₀ : Worker}
    (hi : p.workers[i]? = some w₀)
    : ∃ n w, q.workers[i]? = some w ∧
        Worker.Runs p.crew Worker.Others w₀ p.shared n w q.shared := by
  induction h with
  | refl => exact ⟨0, w₀, hi, .refl⟩
  | @step q r j hreach hstep ih =>
    rcases ih with ⟨n, w, hw, hruns⟩
    rcases hp.reach hreach with ⟨hq, hcrew, -⟩
    rcases step?_eq_some hstep with ⟨v, v', s, hv, hvstep, rfl⟩
    rw [hcrew] at hvstep
    -- the step is one of this worker, or of another, who has another ticket
    by_cases hij : i = j
    . rw [← hij, hw, Option.some.injEq] at hv
      rw [← hv] at hvstep
      refine ⟨n + 1, v', ?_, .step _ hruns hvstep⟩
      rw [← hij]
      exact List.getElem?_set_self (List.getElem?_eq_some_iff.1 hw).1
    . refine ⟨n, w, ?_, ?_⟩
      . show (q.workers.set j v')[i]? = some w
        rw [List.getElem?_set_ne (Ne.symm hij)]
        exact hw
      . have hne : v.ticket.index ≠ w.ticket.index := by
          intro heq
          have hwindex : (q.tickets.map (·.index))[i]? = some w.ticket.index := by
            simp [tickets, hw]
          have hvindex : (q.tickets.map (·.index))[j]? = some v.ticket.index := by
            simp [tickets, hv]
          apply hij
          apply (List.getElem?_inj (List.getElem?_eq_some_iff.1 hwindex).1 hq.indices).1
          rw [hwindex, hvindex, heq]
        have hwstands := hcrew ▸ hq.stands w (List.mem_of_getElem? hw)
        have hvstands := hcrew ▸ hq.stands v (List.mem_of_getElem? hv)
        exact hruns.of_other hq.inStep hwstands hvstands hne hvstep

end Holds

end SetupBatch
