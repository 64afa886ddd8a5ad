import SetupBatch.Proofs.Replay
import SetupBatch.Proofs.Session
import SetupBatch.Proofs.Work

/-!
This module contains the course of a call: the pass that it runs, if it runs one, the phases that
begin in that pass, and what the board sees of a call apart from them.
-/

namespace SetupBatch

def Event.isAnnouncement : Event → Bool
  | .retryOffered _ | .retriesExhausted _ | .batchFinished _ => true
  | _ => false

theorem prefix_or_prefix_of_concat {α : Type} {xs ys zs : List α} {x : α}
    (hxs : xs ++ [x] <+: zs) (hys : ys <+: zs) : xs ++ [x] <+: ys ∨ ys <+: xs := by
  cases List.prefix_or_prefix_of_prefix hxs hys with
  | inl hbefore => exact .inl hbefore
  | inr hafter =>
    cases List.prefix_concat_iff.1 hafter with
    | inl heq => exact .inl (heq ▸ List.prefix_rfl)
    | inr hprefix => exact .inr hprefix

theorem Event.changesLines_of_begins {e : Event} {i : Nat} (h : e.begins i = true)
    : e.changesLines = true := by
  cases e <;> simp [begins] at h
  rfl

namespace Board

/--
Between two boards no line of the feed has changed.
-/
structure Quiet (b b' : Board) : Prop where
  feed : b'.feed = b.feed
  heard : b'.stream.heard = b.stream.heard
  told : ∃ es, b'.told = b.told ++ es ∧ ∀ e ∈ es, e.changesLines = false

namespace Quiet

variable {b b' b'' : Board}

theorem refl (b : Board) : b.Quiet b := ⟨rfl, rfl, [], by simp, by simp⟩

theorem trans (h : b.Quiet b') (h' : b'.Quiet b'') : b.Quiet b'' := by
  rcases h.told with ⟨xs, htold, hxs⟩
  rcases h'.told with ⟨ys, htold', hys⟩
  refine ⟨h'.feed.trans h.feed, h'.heard.trans h.heard, xs ++ ys, ?_, ?_⟩
  . rw [htold', htold, List.append_assoc]
  . intro e he
    cases List.mem_append.1 he with
    | inl hmem => exact hxs e hmem
    | inr hmem => exact hys e hmem

theorem of_tellAll (hfeed : b'.feed = b.feed) {es : List Event}
    (hstream : b'.stream = b.stream.tellAll es) (hes : ∀ e ∈ es, e.changesLines = false)
    : b.Quiet b' := by
  refine ⟨hfeed, ?_, ?_⟩
  . rw [hstream, Stream.heard_tellAll]
  . unfold Board.told
    rw [hstream, Stream.told_tellAll]
    split
    . exact ⟨es, rfl, hes⟩
    . exact ⟨[], by simp, by simp⟩

theorem of_tell (hfeed : b'.feed = b.feed) {e : Event} (hstream : b'.stream = b.stream.tell e)
    (he : e.changesLines = false) : b.Quiet b' := by
  have hstream' : b'.stream = b.stream.tellAll [e] := hstream
  apply of_tellAll hfeed hstream'
  simpa using he

theorem beginPass (b : Board) (tickets : List Ticket) : b.Quiet (b.beginPass tickets) :=
  of_tell rfl rfl rfl

theorem endPass (b : Board) : b.Quiet b.endPass := by
  unfold Board.endPass
  split
  . exact of_tell rfl rfl rfl
  . exact refl b

theorem clearNotices (b : Board) : b.Quiet b.clearNotices := by
  have hes : ∀ e ∈ b.notices.map Event.noticeRemoved, e.changesLines = false := by
    intro e he
    rcases List.mem_map.1 he with ⟨notice, -, rfl⟩
    rfl
  exact of_tellAll rfl rfl hes

theorem takeFailed (b : Board) : b.Quiet b.takeFailed.2 := of_tell rfl rfl rfl

theorem begun (h : b.Quiet b') (i : Nat) : b'.begun i = b.begun i := by
  rcases h.told with ⟨es, htold, hes⟩
  have hnone : es.countP (·.begins i) = 0 := by
    rw [List.countP_eq_zero]
    intro e he hbegins
    have hchanges := Event.changesLines_of_begins hbegins
    rw [hes e he] at hchanges
    cases hchanges
  unfold Board.begun
  rw [htold, List.countP_append, hnone, Nat.add_zero]

theorem isPrefix_of_changesLines (h : b.Quiet b') {es : List Event} {e : Event}
    (hes : es ++ [e] <+: b'.told) (he : e.changesLines = true) : es ++ [e] <+: b.told := by
  rcases h.told with ⟨ys, htold, hys⟩
  rw [htold] at hes
  cases prefix_or_prefix_of_concat hes (List.prefix_append _ _) with
  | inl hbefore => exact hbefore
  | inr hafter =>
    -- such an event would be one of those that were told since
    rcases hafter with ⟨xs, rfl⟩
    rw [List.append_assoc, List.prefix_append_right_inj] at hes
    have hquiet := hys e (hes.subset (List.mem_append_right xs List.mem_cons_self))
    rw [he] at hquiet
    cases hquiet

theorem tells (h : b.Quiet b') (hb : b.stream.Tells b.feed) : b'.stream.Tells b'.feed := by
  rcases h.told with ⟨es, htold, hes⟩
  refine ⟨h.heard.trans hb.heard, h.feed ▸ hb.sound, ?_⟩
  show Story b'.told _ _
  rw [htold, h.feed]
  clear htold
  induction es using List.reverseRecOn with
  | nil => simpa using hb.story
  | append_singleton es e ih =>
    rw [← List.append_assoc]
    apply Story.other
    . apply ih
      intro e' he'
      exact hes e' (List.mem_append_left _ he')
    . exact hes e (by simp)

end Quiet

theorem Works.isPrefix {b b' : Board} (h : b.Works b') : b.told <+: b'.told := by
  cases h with
  | idle => exact List.prefix_rfl
  | carryOut op _ => exact isPrefix_carryOut b op

end Board

theorem Pool.Reach.exists_step {p q : Pool} (h : p.Reach q) {es : List Event} {e : Event}
    (hes : es ++ [e] <+: q.shared.board.told) (hnot : ¬es ++ [e] <+: p.shared.board.told)
    : ∃ r i r', p.Reach r ∧ r.step? i = some r' ∧ r.shared.board.told <+: es ∧
        es ++ [e] <+: r'.shared.board.told := by
  induction h with
  | refl => exact absurd hes hnot
  | @step r r' i hr hs ih =>
    rcases step?_eq_some hs with ⟨w, w', s, -, hstep, rfl⟩
    cases prefix_or_prefix_of_concat hes (Worker.works_step? hstep).isPrefix with
    | inl hbefore => exact ih hbefore
    | inr hprefix => exact ⟨r, i, _, hr, hs, hprefix, hes⟩

namespace Batch

theorem exists_step_of_runPhases (d : Discipline) {b b' : Batch} {ps : List Phase}
    (h : runPhases d b ps = (.ok (), b')) {es : List Event} {e : Event}
    (hes : es ++ [e] <+: b'.board.told) (hnot : ¬es ++ [e] <+: b.board.told)
    : ∃ before phase after c q i r, ps = before ++ phase :: after ∧
        runPhases d b before = (.ok (), c) ∧ (Pool.ofPhase c.crew c.shared phase).Reach q ∧
        q.step? i = some r ∧ q.shared.board.told <+: es ∧ es ++ [e] <+: r.shared.board.told := by
  induction ps generalizing b with
  | nil =>
    cases h
    exact absurd hes hnot
  | cons p ps ih =>
    have hshared := shared_runPhase d b p
    unfold runPhases at h
    split at h
    . cases h
    . next c hphase =>
      rw [hphase] at hshared
      -- the event is told in the first phase or in one after it
      by_cases hnow : es ++ [e] <+: c.board.told
      . unfold board at hnow
        rw [hshared] at hnow
        rcases (d.reach_drain _).exists_step hnow hnot with ⟨q, i, r, hq, hstep, htold, hr⟩
        exact ⟨[], p, ps, b, q, i, r, rfl, rfl, hq, hstep, htold, hr⟩
      . rcases ih h hnow with ⟨before, phase, after, c', q, i, r, rfl, hbefore, hq⟩
        refine ⟨p :: before, phase, after, c', q, i, r, rfl, ?_, hq⟩
        unfold runPhases
        rw [hphase]
        exact hbefore

theorem quiet_announce (b : Batch) (a : Gate.Action) : b.board.Quiet (b.announce a).board := by
  cases a with
  | log message => exact .refl _
  | runPass retry => exact .refl _
  | offerRetry failed => exact .of_tell rfl rfl rfl
  | announceExhausted failed => exact .of_tell rfl rfl rfl
  | finishBatch => exact .of_tell rfl rfl rfl

theorem quiet_announceAll (b : Batch) (as : List Gate.Action)
    : b.board.Quiet (as.foldl announce b).board := by
  induction as generalizing b with
  | nil => exact .refl _
  | cons a as ih => exact (quiet_announce b a).trans (ih _)

theorem quiet_again (b : Batch) (gate : Gate) : b.board.Quiet (b.again gate).board :=
  (Board.Quiet.clearNotices b.board).trans (.takeFailed _)

theorem quiet_opened (b : Batch) : b.board.Quiet b.opened.board := .beginPass _ _

end Batch

/-- A pass that a call runs, with the batch to whose pending tickets the call was granted. -/
structure Pass where
  discipline : Discipline
  batch : Batch
  retry : Bool

def Pass.phases (p : Pass) : List Phase :=
  Batch.phases p.batch.options.target p.retry p.batch.pending

namespace Batch

def pass? (b : Batch) : Request → Option Pass
  | .run d =>
    match b.gate.apply (.start b.pending.length) with
    | .ok (actions, gate) =>
      if .runPass false ∈ actions then some ⟨d, { b with gate }, false⟩ else none
    | .error _ => none
  | .retry d =>
    match b.gate.apply .retryRequested with
    | .ok (_, gate) => some ⟨d, b.again gate, true⟩
    | .error _ => none
  | .finish _ | .say _ _ => none

/-- A call has come to a phase, and this is the batch with which the phase begins. -/
def Begins (b : Batch) (r : Request) (phase : Phase) (b' : Batch) : Prop :=
  ∃ p before after, b.pass? r = some p ∧ p.phases = before ++ phase :: after ∧
    runPhases p.discipline p.batch.opened before = (.ok (), b')

section Pass

variable {b₀ b : Batch} {j : Nat} {dismissed : Bool} (d : Discipline)

theorem Fresh.pass?_run_of_nil (h : Fresh b₀ b) (hpending : b.pending.length = 0)
    : b.pass? (.run d) = none := by
  have hidle : b.gate.state = .idle := by rw [h.gate]
  unfold pass?
  dsimp only
  rw [hpending, Gate.apply_start_zero hidle]
  simp

theorem Fresh.pass?_run (h : Fresh b₀ b) (hpending : 0 < b.pending.length)
    : b.pass? (.run d) = some
        ⟨d, { b with gate := { b.gate with state := .running 0 b.pending.length } }, false⟩ := by
  have hidle : b.gate.state = .idle := by rw [h.gate]
  unfold pass?
  dsimp only
  rw [Gate.apply_start hidle hpending]
  simp

theorem Fresh.pass?_retry (h : Fresh b₀ b) : b.pass? (.retry d) = none := by
  unfold pass?
  rw [h.gate]
  rfl

theorem Paused.pass?_run (h : Paused b₀ j dismissed b) : b.pass? (.run d) = none := by
  unfold pass?
  dsimp only
  rw [h.apply_start]

theorem Paused.pass?_retry (h : Paused b₀ j dismissed b) (ho : Offers b₀ j dismissed b)
    : b.pass? (.retry d) =
        some ⟨d, b.again { b.gate with state := .running (j + 1) b.failed.length }, true⟩ := by
  unfold pass?
  dsimp only
  rw [Gate.apply_retryRequested (h.state_of_offers ho)]

theorem Paused.pass?_retry_of_not (h : Paused b₀ j dismissed b) (ho : ¬Offers b₀ j dismissed b)
    : b.pass? (.retry d) = none := by
  rcases h.state_of_not_offers ho with ⟨exhausted, hstate⟩
  unfold pass? Gate.apply
  dsimp only
  rw [hstate]
  rfl

end Pass

def Announces (b b' : Batch) : Prop :=
  ∃ (gate : Gate) (as : List Gate.Action), b' = as.foldl announce { b with gate }

/--
What a call makes of its batch is what the phases of its pass make of it: they go through one after
the other, and what else the call does changes no line. Every line that changes does so in a step
of a worker of a phase that has begun.
-/
structure Serves (b : Batch) (r : Request) : Prop where
  pass : ∀ p, b.pass? r = some p → b.board.Quiet p.batch.opened.board ∧
    ∃ b', runPhases p.discipline p.batch.opened p.phases = (.ok (), b') ∧
      b'.board.Quiet (b.serve r).2.board ∧
      (b'.withBoard b'.board.endPass).Announces (b.serve r).2
  rest : b.pass? r = none →
    (∃ text severity, r = .say text severity) ∨ b.Announces (b.serve r).2
  told : ∀ es e, es ++ [e] <+: (b.serve r).2.board.told → ¬es ++ [e] <+: b.board.told →
    e.changesLines = true → (∃ text severity, r = .say text severity) ∨
      ∃ phase b' q i q', b.Begins r phase b' ∧ (Pool.ofPhase b'.crew b'.shared phase).Reach q ∧
        q.step? i = some q' ∧ q.shared.board.told <+: es ∧ es ++ [e] <+: q'.shared.board.told

section Serve

variable {b b₁ : Batch} {r : Request} {p : Pass} {failed : Nat}

theorem Announces.refl (b : Batch) : b.Announces b := ⟨b.gate, [], rfl⟩

theorem Announces.shared {b' : Batch} (h : b.Announces b')
    : ∃ es, (∀ e ∈ es, e.isAnnouncement = true) ∧
        b'.shared =
          { b.shared with board := { b.board with stream := b.board.stream.tellAll es } } := by
  rcases h with ⟨gate, as, rfl⟩
  suffices hall : ∀ c : Batch, ∃ es, (∀ e ∈ es, e.isAnnouncement = true) ∧
      (as.foldl announce c).shared =
        { c.shared with board := { c.board with stream := c.board.stream.tellAll es } } from hall _
  induction as with
  | nil => exact fun c => ⟨[], by simp, rfl⟩
  | cons a as ih =>
    intro c
    rcases ih (c.announce a) with ⟨es, hes, heq⟩
    cases a with
    | log message => exact ⟨es, hes, heq⟩
    | runPass retry => exact ⟨es, hes, heq⟩
    | offerRetry failed =>
      exact ⟨.retryOffered failed :: es, by simpa [Event.isAnnouncement] using hes, heq⟩
    | announceExhausted failed =>
      exact ⟨.retriesExhausted failed :: es, by simpa [Event.isAnnouncement] using hes, heq⟩
    | finishBatch =>
      exact ⟨.batchFinished c.summary :: es, by simpa [Event.isAnnouncement] using hes, heq⟩

theorem reply_snd {α : Type} (answer : Batch → α) (x : Except Fault Unit × Batch)
    : (reply answer x).2 = x.2 := by
  unfold reply
  split <;> rfl

theorem announces_perform {d : Discipline} {retry : Bool} (message : String)
    (h : b.runPass d retry = (.ok failed, b₁))
    : b₁.Announces (b.perform d [.log message, .runPass retry]).2 := by
  show b₁.Announces (b.perform d [.runPass retry]).2
  unfold perform
  rw [h]
  dsimp only
  split
  . exact .refl b₁
  . exact ⟨_, _, rfl⟩

theorem pass?_eq_some (h : b.pass? r = some p)
    : (∃ d gate message, r = .run d ∧ p = ⟨d, { b with gate }, false⟩ ∧
        b.gate.apply (.start b.pending.length) = .ok ([.log message, .runPass false], gate)) ∨
      ∃ d gate message, r = .retry d ∧ p = ⟨d, b.again gate, true⟩ ∧
        b.gate.apply .retryRequested = .ok ([.log message, .runPass true], gate) := by
  unfold pass? at h
  cases r with
  | run d =>
    dsimp only at h
    split at h
    . next actions gate hgate =>
      split at h
      . next hruns =>
        cases h
        rcases Gate.actions_start hgate with ⟨message, rfl⟩ | hnone
        . exact .inl ⟨d, gate, message, rfl, rfl, hgate⟩
        . exact absurd hruns (hnone false)
      . cases h
    . cases h
  | retry d =>
    dsimp only at h
    split at h
    . next actions gate hgate =>
      cases h
      rcases Gate.actions_retryRequested hgate with ⟨message, rfl⟩
      exact .inr ⟨d, gate, message, rfl, rfl, hgate⟩
    . cases h
  | finish d => cases h
  | say text severity => cases h

theorem announces_of_pass?_eq_some (h : b.pass? r = some p)
    (hpass : p.batch.runPass p.discipline p.retry = (.ok failed, b₁))
    : b₁.Announces (b.serve r).2 := by
  rcases pass?_eq_some h
    with ⟨d, gate, message, rfl, rfl, hgate⟩ | ⟨d, gate, message, rfl, rfl, hgate⟩
  . have hrun : (b.serve (.run d)).2 =
        (perform d { b with gate } [.log message, .runPass false]).2 := by
      show (b.run d).2 = _
      unfold run
      rw [hgate]
      exact reply_snd _ _
    rw [hrun]
    exact announces_perform message hpass
  . have hretry : (b.serve (.retry d)).2 =
        ((b.again gate).perform d [.log message, .runPass true]).2 := by
      show (b.retry d).2 = _
      unfold retry
      rw [hgate]
      exact reply_snd _ _
    rw [hretry]
    exact announces_perform message hpass

theorem announces_of_pass?_eq_none (h : b.pass? r = none)
    : (∃ text severity, r = .say text severity) ∨ b.Announces (b.serve r).2 := by
  cases r with
  | run d =>
    right
    show b.Announces (b.run d).2
    unfold pass? at h
    unfold run
    dsimp only at h
    split
    . exact .refl b
    . next actions gate hgate =>
      rw [hgate] at h
      rcases Gate.actions_start hgate with ⟨message, rfl⟩ | hnone
      . simp at h
      . rw [reply_snd, perform_announcements d _ hnone]
        exact ⟨_, _, rfl⟩
  | retry d =>
    right
    show b.Announces (b.retry d).2
    unfold pass? at h
    unfold retry
    dsimp only at h
    split
    . exact .refl b
    . next actions gate hgate =>
      rw [hgate] at h
      cases h
  | finish d =>
    right
    show b.Announces (b.finish d).2
    unfold finish
    split
    . exact .refl b
    . next actions gate hgate =>
      rw [reply_snd, perform_announcements d _ (Gate.actions_dismissed hgate)]
      exact ⟨_, _, rfl⟩
  | say text severity => exact .inl ⟨text, severity, rfl⟩

end Serve
end Batch

namespace Session

open Batch

/-- A call of a session runs this pass, and this is what the pass makes of its batch. -/
structure Conducts (b₀ : Batch) (s : Session) (r : Request) (p : Pass) (b₁ : Batch) : Prop where
  pass : s.batch.pass? r = some p
  primed : p.batch.Primed
  crew : p.batch.crew = b₀.crew
  mem : ∀ t ∈ p.batch.pending, t ∈ b₀.pending
  calls : p.batch.shared.calls = s.batch.shared.calls
  before : s.batch.board.Quiet p.batch.board
  runPass : p.batch.runPass p.discipline p.retry = (.ok b₁.failed.length, b₁)
  done : p.batch.PassDone b₁
  after : b₁.board.Quiet (s.call r).batch.board

inductive Course (b₀ : Batch) (s : Session) : Request → Prop where
  | pass {r : Request} (p : Pass) (b₁ : Batch) : s.Conducts b₀ r p b₁ → Course b₀ s r
  | quiet {r : Request} : s.batch.pass? r = none → (∀ text severity, r ≠ .say text severity) →
    s.batch.board.Quiet (s.call r).batch.board → Course b₀ s r
  | say (text : String) (severity : Severity) : Course b₀ s (.say text severity)

section Course

variable {b₀ : Batch} {s : Session} (d : Discipline)

theorem Stands.atRest (hs : s.Stands b₀) : AtRest b₀ s.batch := by
  cases hs with
  | fresh _ _ _ hfresh => exact hfresh.toAtRest
  | paused _ hpaused => exact hpaused.toAtRest

theorem quiet_of_refuses {r : Request} (h : s.batch.Refuses r)
    : s.batch.board.Quiet (s.call r).batch.board := by
  rw [batch_of_refuses h]
  exact .refl _

theorem course_run (h : Fresh b₀ s.batch) : s.Course b₀ (.run d) := by
  have hidle : s.batch.gate.state = .idle := by rw [h.gate]
  by_cases hpending : s.batch.pending.length = 0
  . apply Course.quiet (h.pass?_run_of_nil d hpending) (by simp)
    show s.batch.board.Quiet (s.batch.run d).2.board
    rw [run_eq_of_nil d hidle hpending rfl]
    refine Board.Quiet.trans ?_ (quiet_announceAll _ _)
    apply Board.Quiet.refl
  . have hpos := Nat.pos_of_ne_zero hpending
    have hprimed := h.primed { s.batch.gate with state := .running 0 s.batch.pending.length }
    rcases perform_pass_eq d hprimed rfl s!"Starting {s.batch.pending.length} tasks" false
      with ⟨b₁, actions, gate, hpass, hdone, -, -, hperform⟩
    apply Course.pass _ b₁
    refine ⟨h.pass?_run d hpos, hprimed, h.crew, ?_, rfl, .refl _, hpass, hdone, ?_⟩
    . intro t ht
      rw [← h.pending]
      exact ht
    . show b₁.board.Quiet (s.batch.run d).2.board
      rw [run_eq d hidle hpos hperform]
      exact quiet_announceAll { b₁ with gate := gate } actions

theorem course_retry {j : Nat} {dismissed : Bool} (h : Paused b₀ j dismissed s.batch)
    (ho : Offers b₀ j dismissed s.batch) : s.Course b₀ (.retry d) := by
  let gate := { s.batch.gate with state := .running (j + 1) s.batch.failed.length }
  have hprimed : (s.batch.again gate).Primed := h.primed_again gate
  rcases perform_pass_eq d hprimed rfl s!"Retrying {s.batch.failed.length} failed tasks" true
    with ⟨b₁, actions, gate', hpass, hdone, -, -, hperform⟩
  apply Course.pass _ b₁
  refine ⟨h.pass?_retry d ho, hprimed, h.crew, ?_, rfl, quiet_again _ _, hpass, hdone, ?_⟩
  . intro t ht
    exact ((h.mem_again gate t).1 ht).1
  . show b₁.board.Quiet (s.batch.retry d).2.board
    rw [retry_eq d (h.state_of_offers ho) hperform]
    exact quiet_announceAll { b₁ with gate := gate' } actions

theorem course_finish {j : Nat} {dismissed : Bool} (h : Paused b₀ j dismissed s.batch)
    (ho : Offers b₀ j dismissed s.batch) : s.Course b₀ (.finish d) := by
  apply Course.quiet rfl (by simp)
  show s.batch.board.Quiet (s.batch.finish d).2.board
  rw [finish_eq d (h.state_of_offers ho) rfl]
  refine Board.Quiet.trans ?_ (quiet_announceAll _ _)
  apply Board.Quiet.refl

theorem Conducts.begun {r : Request} {p : Pass} {b₁ : Batch} (h : s.Conducts b₀ r p b₁) (i : Nat)
    : (s.call r).batch.board.begun i = s.batch.board.begun i +
        if i ∈ p.batch.pending.map (·.index) then 1 else 0 := by
  rw [h.after.begun, h.done.begun, h.before.begun]

theorem Conducts.opened {r : Request} {p : Pass} {b₁ : Batch} (h : s.Conducts b₀ r p b₁)
    : p.batch.opened.crew = b₀.crew ∧ s.batch.board.Quiet p.batch.opened.board ∧
        p.batch.opened.shared.Ready (p.phases.flatMap (·.tickets)) :=
  ⟨h.crew, h.before.trans p.batch.quiet_opened,
    h.primed.ready.of_perm (phases_perm p.batch.options.target p.retry p.batch.pending)⟩

theorem Conducts.worked {r : Request} {p : Pass} {b₁ : Batch} (h : s.Conducts b₀ r p b₁)
    : ∃ b₂, runPhases p.discipline p.batch.opened p.phases = (.ok (), b₂) ∧
        b₂.board.Quiet (s.call r).batch.board := by
  rcases runPhases_of_runPass p.discipline h.runPass with ⟨b₂, hphases, hb₁⟩
  have hafter := h.after
  rw [hb₁] at hafter
  exact ⟨b₂, hphases, (Board.Quiet.endPass b₂.board).trans hafter⟩

theorem Conducts.begins {r : Request} {p : Pass} {b₁ b' : Batch} {before after : List Phase}
    {phase : Phase} (h : s.Conducts b₀ r p b₁) (hphases : p.phases = before ++ phase :: after)
    (hbefore : runPhases p.discipline p.batch.opened before = (.ok (), b'))
    : b'.shared.Ready phase.tickets ∧ b'.crew = b₀.crew ∧
        p.batch.opened.shared.Ready (before.flatMap (·.tickets)) ∧
        p.batch.opened.shared.Through b₀.crew (before.flatMap (·.tickets)) b'.shared := by
  rcases h.opened with ⟨hcrew, -, hready⟩
  rw [hphases, List.flatMap_append, List.flatMap_cons] at hready
  rcases runPhases_eq p.discipline p.batch.opened before hready.left with ⟨s', heq, hthrough⟩
  rw [hbefore] at heq
  cases heq
  rw [hcrew] at hthrough
  exact ⟨(hready.right hthrough).left, hcrew, hready.left, hthrough⟩

theorem Conducts.exists_begins {r : Request} {p : Pass} {b₁ : Batch} {before after : List Phase}
    {phase : Phase} (h : s.Conducts b₀ r p b₁) (hphases : p.phases = before ++ phase :: after)
    : ∃ shared results, s.batch.Begins r phase { p.batch.opened with shared, results } := by
  have hready := h.opened.2.2
  rw [hphases, List.flatMap_append] at hready
  rcases runPhases_eq p.discipline p.batch.opened before hready.left with ⟨shared, hbefore, -⟩
  exact ⟨shared, _, p, before, after, h.pass, hphases, hbefore⟩

theorem Conducts.exists_step {r : Request} {p : Pass} {b₁ : Batch} (h : s.Conducts b₀ r p b₁)
    {es : List Event} {e : Event} (hes : es ++ [e] <+: (s.call r).batch.board.told)
    (hnot : ¬es ++ [e] <+: s.batch.board.told) (he : e.changesLines = true)
    : ∃ phase b' q i q', s.batch.Begins r phase b' ∧
        (Pool.ofPhase b'.crew b'.shared phase).Reach q ∧ q.step? i = some q' ∧
        q.shared.board.told <+: es ∧ es ++ [e] <+: q'.shared.board.told := by
  rcases h.worked with ⟨b₂, hphases, hafter⟩
  have hopened := h.opened.2.1
  -- before and after its phases the call changes no line
  have hnow := hafter.isPrefix_of_changesLines hes he
  have hnot' : ¬es ++ [e] <+: p.batch.opened.board.told := by
    intro hbefore
    exact hnot (hopened.isPrefix_of_changesLines hbefore he)
  rcases exists_step_of_runPhases p.discipline hphases hnow hnot'
    with ⟨before, phase, after, b', q, i, q', hsplit, hbefore, hq⟩
  exact ⟨phase, b', q, i, q', ⟨p, before, after, h.pass, hsplit, hbefore⟩, hq⟩

/-- Every call runs a pass that goes through, adds a line of its own, or leaves the feed alone. -/
theorem Stands.course (hs : s.Stands b₀) (r : Request) : s.Course b₀ r := by
  cases hs.granted r with
  | inl hrefuses =>
    have hquiet := quiet_of_refuses hrefuses
    cases r with
    | run d =>
      cases hs with
      | fresh _ _ _ hfresh => exact course_run d hfresh
      | paused _ hpaused => exact .quiet (hpaused.pass?_run d) (by simp) hquiet
    | retry d =>
      cases hs with
      | fresh _ _ _ hfresh => exact .quiet (hfresh.pass?_retry d) (by simp) hquiet
      | paused _ hpaused =>
        by_cases ho : Offers b₀ s.retries (0 < s.finishes) s.batch
        . exact course_retry d hpaused ho
        . exact .quiet (hpaused.pass?_retry_of_not d ho) (by simp) hquiet
    | finish d => exact .quiet rfl (by simp) hquiet
    | say text severity => exact .say text severity
  | inr hgranted =>
    cases hgranted with
    | run d _ _ _ hfresh => exact course_run d hfresh
    | retry d _ _ hpaused ho => exact course_retry d hpaused ho
    | finish d _ _ hpaused ho => exact course_finish d hpaused ho
    | say text severity => exact .say text severity

theorem Stands.conducts (hs : s.Stands b₀) {r : Request} {p : Pass}
    (hpass : s.batch.pass? r = some p) : ∃ b₁, s.Conducts b₀ r p b₁ := by
  cases hs.course r with
  | pass p' b₁ h =>
    have heq := hpass.symm.trans h.pass
    cases heq
    exact ⟨b₁, h⟩
  | quiet hnone _ _ =>
    rw [hpass] at hnone
    cases hnone
  | say text severity => cases hpass

theorem Stands.ready_of_begins (hs : s.Stands b₀) {r : Request} {phase : Phase} {b' : Batch}
    (h : s.batch.Begins r phase b') : b'.shared.Ready phase.tickets ∧ b'.crew = b₀.crew := by
  rcases h with ⟨p, before, after, hpass, hphases, hbefore⟩
  rcases hs.conducts hpass with ⟨b₁, hconducts⟩
  have hbegins := hconducts.begins hphases hbefore
  exact ⟨hbegins.1, hbegins.2.1⟩

theorem Stands.serves (hs : s.Stands b₀) (r : Request) : s.batch.Serves r := by
  refine ⟨?_, announces_of_pass?_eq_none, ?_⟩
  . intro p hpass
    rcases hs.conducts hpass with ⟨b₁, hconducts⟩
    rcases hconducts.worked with ⟨b₂, hphases, hafter⟩
    refine ⟨hconducts.opened.2.1, b₂, hphases, hafter, ?_⟩
    exact announces_of_pass?_eq_some hpass (runPass_of_runPhases p.discipline hphases)
  . intro es e hes hnot he
    cases hs.course r with
    | pass p b₁ hconducts => exact .inr (hconducts.exists_step hes hnot he)
    | quiet _ _ hquiet => exact absurd (hquiet.isPrefix_of_changesLines hes he) hnot
    | say text severity => exact .inl ⟨text, severity, rfl⟩

end Course

end Session

end SetupBatch
