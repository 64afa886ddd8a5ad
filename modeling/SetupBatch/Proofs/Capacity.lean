import SetupBatch.Proofs.Course
import SetupBatch.Proofs.Moment

/-!
This module contains the verification of the slots of a pool: never do more tasks run than there are
slots, no pool gets stuck before all of its workers are gone, and what the tickets of a phase end
with does not depend on the slots.
-/

namespace SetupBatch

namespace Event

def addsRunning : Event → Bool
  | .lineAdded _ line => line.running
  | _ => false

def removesLine : Event → Bool
  | .lineRemoved .. => true
  | _ => false

theorem addsRunning_of_changesLines {e : Event} (h : e.changesLines = false)
    : e.addsRunning = false := by
  cases e <;> simp [changesLines] at h <;> rfl

theorem removesLine_of_changesLines {e : Event} (h : e.changesLines = false)
    : e.removesLine = false := by
  cases e <;> simp [changesLines] at h <;> rfl

end Event

theorem Story.length_add {es : List Event} {s r : List Line} (h : Story es s r)
    : r.length + es.countP (·.removesLine) = es.countP (·.addsRunning) := by
  have hconcat : ∀ (p : Event → Bool) es e,
      (es ++ [e]).countP p = es.countP p + if p e then 1 else 0 := by
    intro p es e
    rw [List.countP_append, List.countP_singleton]
  induction h with
  | empty => rfl
  | other e _ he ih =>
    rw [hconcat, hconcat, Event.addsRunning_of_changesLines he,
      Event.removesLine_of_changesLines he]
    exact ih
  | begin l _ hl ih =>
    rw [hconcat, hconcat, List.length_append, ← ih]
    simp only [Event.addsRunning, Event.removesLine, hl, List.length_singleton]
    simp
    omega
  | remove xs l ys _ ih =>
    rw [hconcat, hconcat, ← ih]
    simp only [Event.addsRunning, Event.removesLine, List.length_append, List.length_cons]
    simp
    omega
  | settle l _ hl ih =>
    rw [hconcat, hconcat, ← ih]
    simp only [Event.addsRunning, Event.removesLine, hl]
    simp

theorem Feed.addsRunning_of_settle {f g : Feed} {id : LineId} {o : Outcome} {text : String}
    {changes : List Change} (h : f.settle id o text = .ok (changes, g))
    : ∀ e ∈ changes.map Event.ofChange, e.addsRunning = false := by
  unfold settle at h
  split at h
  . cases h
  . split at h
    . cases h
    . split at h
      . cases h
        simp [Event.ofChange, Event.addsRunning, fresh]
      . cases h

namespace Board

/--
The stream of a board tells how its feed came to be, and never since these events have there been
more than `m` running lines.
-/
structure Within (es₀ : List Event) (m : Nat) (b : Board) : Prop where
  tells : b.stream.Tells b.feed
  since : es₀ <+: b.told
  length_le : ∀ es s r, es₀ <+: es → es <+: b.told → Story es s r → r.length ≤ m

theorem countP_addsRunning_finish (b : Board) (t : Ticket) (line : LineId) (o : Outcome)
    (detail : Option String)
    : (b.finish t line o detail).2.told.countP (·.addsRunning) =
        b.told.countP (·.addsRunning) := by
  unfold finish
  split
  . rfl
  . next tally _ =>
    have hraised : (raiseFor { b with tally } t.profile o detail).told.countP (·.addsRunning) =
        b.told.countP (·.addsRunning) := by
      cases o with
      | succeeded => rfl
      | needsReboot => exact Stream.countP_tell _ rfl
      | failed => exact Stream.countP_tell _ rfl
    dsimp only
    split
    . exact hraised
    . next changes feed hsettle =>
      apply (Stream.countP_tell _ rfl).trans
      apply (Stream.countP_tellAll _ _).trans hraised
      exact Feed.addsRunning_of_settle hsettle

theorem Works.one_sided {b b' : Board} (h : b.Works b')
    : b'.told.countP (·.addsRunning) = b.told.countP (·.addsRunning) ∨
        b'.told.countP (·.removesLine) = b.told.countP (·.removesLine) := by
  cases h with
  | idle => exact .inl rfl
  | carryOut op hop =>
    cases op with
    | start t =>
      right
      simp only [Board.carryOut, start]
      split
      . rfl
      . apply (Stream.countP_tellAll _ _).trans
        . apply Stream.countP_tell
          unfold announcement
          split <;> rfl
        . simp [Event.ofChange, Feed.begin, Event.removesLine]
    | finish t line o detail => exact .inl (countP_addsRunning_finish b t line o detail)
    | say text severity => exact .inl (Stream.countP_tell _ rfl)
    | request notice kind =>
      left
      cases kind with
      | add => exact Stream.countP_tell _ rfl
      | remove =>
        simp only [Board.carryOut, request, withdraw]
        split
        . rfl
        . exact Stream.countP_tell _ rfl
    | _ => cases hop

namespace Within

variable {es₀ : List Event} {m : Nat} {b b' : Board}

theorem of_tells (h : b.stream.Tells b.feed) (hlive : b.feed.live ≤ m) : b.Within b.told m := by
  refine ⟨h, List.prefix_rfl, ?_⟩
  intro es s r hsince hes hstory
  rw [hes.eq_of_length_le hsince.length_le] at hstory
  have hlength := hstory.length_add
  have hnow := h.story.length_add
  rw [Feed.length_running h.sound.live_le] at hnow
  unfold told at hlength
  omega

theorem live_le (h : b.Within es₀ m) : b.feed.live ≤ m := by
  rw [← Feed.length_running h.tells.sound.live_le]
  exact h.length_le _ _ _ h.since List.prefix_rfl h.tells.story

theorem replay (h : b.Within es₀ m) {es : List Event} (hsince : es₀ <+: es) (hes : es <+: b.told)
    : ∃ lines, replay? es = some lines ∧ lines.countP (·.running) ≤ m := by
  rcases h.tells.story.of_isPrefix hes with ⟨s, r, hstory⟩
  refine ⟨s ++ r, hstory.replay?_eq, ?_⟩
  have hs : s.countP (·.running) = 0 := by
    rw [List.countP_eq_zero]
    intro l hl
    simp [hstory.running_eq_false l hl]
  rw [List.countP_append, hs, Nat.zero_add]
  apply Nat.le_trans List.countP_le_length
  exact h.length_le es s r hsince hes hstory

theorem extend (h : b.Within es₀ m) (htells : b'.stream.Tells b'.feed) (htold : b.told <+: b'.told)
    (hlive : b'.feed.live ≤ m)
    (hone : b'.told.countP (·.addsRunning) = b.told.countP (·.addsRunning) ∨
      b'.told.countP (·.removesLine) = b.told.countP (·.removesLine)) : b'.Within es₀ m := by
  refine ⟨htells, h.since.trans htold, ?_⟩
  intro es s r hsince hes hstory
  cases List.prefix_or_prefix_of_prefix hes htold with
  | inl hold => exact h.length_le es s r hsince hold hstory
  | inr hnew =>
    -- between the two streams only the one or only the other count has grown
    have hbefore := h.tells.story.length_add
    have hafter := htells.story.length_add
    have hnow := hstory.length_add
    have hlive₀ := h.live_le
    rw [Feed.length_running h.tells.sound.live_le] at hbefore
    rw [Feed.length_running htells.sound.live_le] at hafter
    have hadds := hnew.sublist.countP_le (p := (·.addsRunning))
    have hadds' := hes.sublist.countP_le (p := (·.addsRunning))
    have hremoves := hnew.sublist.countP_le (p := (·.removesLine))
    have hremoves' := hes.sublist.countP_le (p := (·.removesLine))
    unfold told at *
    omega

theorem works (h : b.Within es₀ m) (hw : b.Works b') (hlive : b'.feed.live ≤ m)
    : b'.Within es₀ m := by
  have hone := hw.one_sided
  cases hw with
  | idle => exact h
  | carryOut op hop =>
    exact h.extend (tells_carryOut h.tells op) (isPrefix_carryOut b op) hlive hone

theorem quiet (h : b.Within es₀ m) (hq : b.Quiet b') : b'.Within es₀ m := by
  have hlive : b'.feed.live ≤ m := by
    rw [hq.feed]
    exact h.live_le
  rcases hq.told with ⟨es, htold, hes⟩
  apply h.extend (hq.tells h.tells) _ hlive
  . left
    rw [htold, List.countP_append, Nat.add_eq_left, List.countP_eq_zero]
    intro e he
    simp [Event.addsRunning_of_changesLines (hes e he)]
  . rw [htold]
    apply List.prefix_append

end Within

end Board

def Worker.hasReported (w : Worker) : Bool :=
  match w.stage with
  | .reported _ | .gone _ => true
  | _ => false

namespace Pool

variable {p q : Pool} {s₀ : Shared} {slots : Slots} {m : Nat}

def free? (p : Pool) : Option Nat := p.crew.slots.map (·.count - p.taken)

def uncapped (p : Pool) : Pool := { p with crew := { p.crew with slots := none } }

theorem Reach.crew (h : p.Reach q) : q.crew = p.crew := by
  induction h with
  | refl => rfl
  | step i _ hs ih =>
    rcases step?_taken hs with ⟨w, w', -, -, hcrew, -⟩
    exact hcrew.trans ih

theorem Reach.taken_le (h : p.Reach q) (hslots : p.crew.slots = some slots)
    (hp : p.taken ≤ slots.count) : q.taken ≤ slots.count := by
  induction h with
  | refl => exact hp
  | step i hr hs ih =>
    rcases step?_taken hs with ⟨w, w', -, -, -, htaken⟩
    rcases htaken with ⟨-, hfree, htaken⟩ | ⟨-, -, htaken⟩ | ⟨-, htaken, -⟩
    . -- only a free slot is taken
      unfold hasFree at hfree
      rw [hr.crew, hslots] at hfree
      have hlt := of_decide_eq_true hfree
      omega
    . omega
    . omega

theorem countP_isRunning_le (p : Pool) : p.workers.countP (·.isRunning) ≤ p.taken := by
  apply List.countP_mono_left
  intro w _ hrunning
  unfold Worker.isRunning at hrunning
  unfold Worker.holdsSlot
  split at hrunning
  . next hstage => rw [hstage]
  . cases hrunning

theorem taken_ofPhase (crew : Crew) (s : Shared) (phase : Phase)
    : (ofPhase crew s phase).taken = 0 := by
  unfold taken ofPhase
  rw [List.countP_map, List.countP_eq_zero]
  intro t _
  simp [Worker.holdsSlot]

theorem taken_of_isDone (h : p.isDone = true) : p.taken = 0 := by
  unfold taken
  rw [List.countP_eq_zero]
  intro w hw
  have hgone := List.all_eq_true.1 h w hw
  unfold Worker.isGone at hgone
  unfold Worker.holdsSlot
  split at hgone
  . next hstage => simp [hstage]
  . cases hgone

theorem stage_of_step?_eq_none {w : Worker} (h : ∀ i, p.step? i = none) (hw : w ∈ p.workers)
    : w.stage = .waiting ∧ p.hasFree = false ∨ w.isGone = true := by
  rcases List.mem_iff_getElem?.1 hw with ⟨i, hi⟩
  have hnone := h i
  unfold step? at hnone
  rw [hi] at hnone
  exact Worker.step?_eq_none (Option.map_eq_none_iff.1 hnone)

/-- A pool gets stuck only when all of its workers are gone: whoever waits does so for a slot, and
whoever holds a slot can step. -/
theorem isDone_of_step?_eq_none (h : ∀ i, p.step? i = none) : p.isDone = true := by
  apply List.all_eq_true.2
  intro w hw
  cases stage_of_step?_eq_none h hw with
  | inr hgone => exact hgone
  | inl hwaiting =>
    have hfree := hwaiting.2
    unfold hasFree at hfree
    split at hfree
    . cases hfree
    . next slots _ =>
      have hpos : 0 < p.taken := by
        have := slots.pos
        have := of_decide_eq_false hfree
        omega
      rcases List.countP_pos_iff.1 hpos with ⟨v, hv, hholds⟩
      unfold Worker.holdsSlot at hholds
      cases stage_of_step?_eq_none h hv with
      | inl hwaiting' =>
        rw [hwaiting'.1] at hholds
        cases hholds
      | inr hgone =>
        unfold Worker.isGone at hgone
        split at hgone
        . next hstage =>
          rw [hstage] at hholds
          cases hholds
        . cases hgone

theorem Proceeds.live_eq (h : p.Proceeds s₀) (hs : s₀.board.InStep)
    (hrun : s₀.board.feed.running = [])
    : p.shared.board.feed.live = p.workers.countP (·.isRunning) := by
  have hmem := h.mem_workers hs hrun
  have hindices := h.indices
  unfold tickets at hindices
  rw [List.map_map] at hindices
  have hout : ((p.workers.filter (·.isRunning)).map fun w => some w.ticket.index).Nodup := by
    have hsub := (List.filter_sublist (l := p.workers) (p := (·.isRunning))).map
      fun w => w.ticket.index
    have := (hsub.nodup hindices).map fun _ _ => Option.some.inj
    rw [List.map_map] at this
    exact this
  have hperm : (p.shared.board.feed.running.map (·.task)).Perm
      ((p.workers.filter (·.isRunning)).map fun w => some w.ticket.index) := by
    rw [List.perm_ext_iff_of_nodup h.inStep.nodup hout]
    intro task
    rw [h.inStep.mem_iff, List.mem_map]
    constructor
    . rintro ⟨i, hstarted, hsettled, rfl⟩
      rcases (hmem i).2 ⟨hstarted, hsettled⟩ with ⟨w, hw, hrunning, rfl⟩
      exact ⟨w, List.mem_filter.2 ⟨hw, hrunning⟩, rfl⟩
    . rintro ⟨w, hw, rfl⟩
      rw [List.mem_filter] at hw
      have hout := (hmem w.ticket.index).1 ⟨w, hw.1, hw.2, rfl⟩
      exact ⟨_, hout.1, hout.2, rfl⟩
  have hlength := hperm.length_eq
  rw [List.length_map, List.length_map, Feed.length_running h.inStep.sound.live_le] at hlength
  rw [hlength, List.countP_eq_length_filter]

theorem Reach.within {es₀ : List Event} (h : p.Reach q)
    (hlive : ∀ r, p.Reach r → r.shared.board.feed.live ≤ m) (hp : p.shared.board.Within es₀ m)
    : q.shared.board.Within es₀ m := by
  induction h with
  | refl => exact hp
  | step i hr hs ih =>
    have hlive' := hlive _ (.step i hr hs)
    rcases step?_eq_some hs with ⟨w, w', s, -, hstep, rfl⟩
    exact ih.works (Worker.works_step? hstep) hlive'

/--
What holds of a pool that begins a phase with `m` slots, in whatever order its workers step.
-/
structure Capped (m : Nat) (p : Pool) : Prop where
  running_le : ∀ q, p.Reach q → q.workers.countP (·.isRunning) ≤ m
  live : ∀ q, p.Reach q → q.shared.board.feed.live = q.workers.countP (·.isRunning)
  progress : ∀ q, p.Reach q → (∃ w ∈ q.workers, w.hasReported = false) →
    ∃ i r, q.step? i = some r
  stuck : ∀ q, p.Reach q → (∀ i, q.step? i = none) → q.free? = some m ∧
    ∀ w ∈ q.workers, ∃ t, w.stage = .gone (.ok t) ∧ t.outcome.isSome = true
  results : ∀ q, p.Reach q → q.isDone = true →
    q.results = .ok (p.tickets.map (·.next p.crew p.shared)) ∧
    ∀ r, p.uncapped.Reach r → r.isDone = true → r.results = q.results

/-- In whatever a pool tells since these events, never do more than `m` lines run. -/
def Shows (es₀ : List Event) (m : Nat) (p : Pool) : Prop :=
  ∀ q, p.Reach q → ∀ es, es₀ <+: es → es <+: q.shared.board.told →
    ∃ lines, replay? es = some lines ∧ lines.countP (·.running) ≤ m

theorem exists_step?_of_not_isDone (h : ¬p.isDone = true) : ∃ i q, p.step? i = some q := by
  by_contra hnone
  apply h
  apply isDone_of_step?_eq_none
  intro i
  rw [Option.eq_none_iff_forall_ne_some]
  intro q hq
  exact hnone ⟨i, q, hq⟩

theorem exists_step? {w : Worker} (hw : w ∈ p.workers) (h : w.hasReported = false)
    : ∃ i q, p.step? i = some q := by
  apply exists_step?_of_not_isDone
  intro hdone
  have hgone := List.all_eq_true.1 hdone w hw
  unfold Worker.isGone at hgone
  unfold Worker.hasReported at h
  split at hgone
  . next hstage => simp [hstage] at h
  . cases hgone

theorem Proceeds.exists_ticket (h : p.Proceeds s₀) (hd : p.isDone = true) {w : Worker}
    (hw : w ∈ p.workers) : ∃ t, w.stage = .gone (.ok t) ∧ t.outcome.isSome = true := by
  have hgone := List.all_eq_true.1 hd w hw
  have hstands := h.stands w hw
  unfold Worker.isGone at hgone
  unfold Worker.Stands at hstands
  split at hgone
  . next result hstage =>
    rw [hstage] at hstands
    rw [hstage, hstands.2]
    exact ⟨_, rfl, rfl⟩
  . cases hgone

section Phase

variable {crew : Crew} {s : Shared} {phase : Phase} (hready : s.Ready phase.tickets)
  (hq : (ofPhase crew s phase).Reach q)

include hready hq

theorem live_of_reach : q.shared.board.feed.live = q.workers.countP (·.isRunning) :=
  (hready.reach hq).1.live_eq hready.inStep hready.running

theorem results_of_reach (hd : q.isDone = true)
    : q.results = .ok (phase.tickets.map (·.next crew s)) := by
  rcases hready.reach hq with ⟨hend, hcrew, htickets⟩
  rw [(hend.results hd).1, hcrew, htickets]
  rfl

omit hready in
theorem running_le_of_reach (hslots : crew.slots = some slots)
    : q.workers.countP (·.isRunning) ≤ slots.count := by
  apply Nat.le_trans q.countP_isRunning_le
  apply hq.taken_le hslots
  rw [taken_ofPhase]
  apply Nat.zero_le

theorem within_of_reach {es₀ : List Event} (hslots : crew.slots = some slots)
    (hwithin : s.board.Within es₀ slots.count) : q.shared.board.Within es₀ slots.count := by
  apply hq.within _ hwithin
  intro r hr
  rw [live_of_reach hready hr]
  exact running_le_of_reach hr hslots

end Phase

theorem capped_ofPhase {crew : Crew} {s : Shared} {phase : Phase}
    (hslots : crew.slots = some slots) (hready : s.Ready phase.tickets)
    : (ofPhase crew s phase).Capped slots.count := by
  constructor
  . intro q hq
    exact running_le_of_reach hq hslots
  . intro q hq
    exact live_of_reach hready hq
  . rintro q hq ⟨w, hw, hreported⟩
    exact exists_step? hw hreported
  . intro q hq hstuck
    have hdone := isDone_of_step?_eq_none hstuck
    constructor
    . unfold free?
      rw [hq.crew, taken_of_isDone hdone]
      exact congrArg (Option.map _) hslots
    . intro w hw
      exact (hready.reach hq).1.exists_ticket hdone hw
  . intro q hq hdone
    have hresult := results_of_reach hready hq hdone
    rw [tickets_ofPhase]
    refine ⟨hresult, ?_⟩
    intro r hr hdone'
    have hr' : (ofPhase { crew with slots := none } s phase).Reach r := hr
    have hresult' := results_of_reach hready hr' hdone'
    rw [hresult]
    -- the mode in which a ticket runs does not depend on the slots
    exact hresult'

theorem shows_ofPhase {crew : Crew} {s : Shared} {phase : Phase} {es₀ : List Event}
    (hslots : crew.slots = some slots) (hready : s.Ready phase.tickets)
    (hwithin : s.board.Within es₀ slots.count) : (ofPhase crew s phase).Shows es₀ slots.count := by
  intro q hq es hsince hes
  exact (within_of_reach hready hq hslots hwithin).replay hsince hes

end Pool

namespace Batch

variable {slots : Slots}

def uncapped (b : Batch) : Batch := { b with crew := { b.crew with slots := none } }

/--
What a phase gives that a batch runs, with whatever discipline: every ticket reports, and comes back
in the order of the phase with the outcome of its next attempt. Without slots it gives the same.
-/
structure Yields (phase : Phase) (b : Batch) : Prop where
  drained : ∀ d : Discipline, let p := d.drain (.ofPhase b.crew b.shared phase)
    p.results = .ok (phase.tickets.map (·.next b.crew b.shared)) ∧
      p.free? = b.crew.slots.map (·.count)
  runPhase : ∀ d, ∃ s, b.runPhase d phase = (.ok (), { b with
      shared := s, results := b.results.store (phase.tickets.map (·.next b.crew b.shared)) }) ∧
    s.board.feed.running = [] ∧ ∀ t ∈ phase.tickets, t.index ∈ s.board.tally.settled
  uncapped : ∀ d d', (b.uncapped.runPhase d' phase).1 = (b.runPhase d phase).1 ∧
    (b.uncapped.runPhase d' phase).2.results = (b.runPhase d phase).2.results ∧
    (d'.drain (.ofPhase b.uncapped.crew b.shared phase)).results =
      (d.drain (.ofPhase b.crew b.shared phase)).results

theorem yields_of_ready {b : Batch} {phase : Phase} (h : b.shared.Ready phase.tickets)
    : b.Yields phase := by
  have hdrained : ∀ (c : Crew) (d : Discipline), (d.drain (.ofPhase c b.shared phase)).results =
      .ok (phase.tickets.map (·.next c b.shared)) := by
    intro c d
    exact Pool.results_of_reach h (d.reach_drain _) (d.isDone_drain _)
  refine ⟨?_, ?_, ?_⟩
  . intro d p
    refine ⟨hdrained b.crew d, ?_⟩
    unfold Pool.free?
    rw [(d.reach_drain _).crew, Pool.taken_of_isDone (d.isDone_drain _)]
    rfl
  . intro d
    rcases runPhase_eq d b h with ⟨s, hphase, hthrough⟩
    exact ⟨s, hphase, hthrough.running, fun t ht => (hthrough.ended t ht).settled⟩
  . intro d d'
    rcases runPhase_eq d b h with ⟨s, hphase, -⟩
    rcases runPhase_eq d' b.uncapped h with ⟨s', hphase', -⟩
    rw [hphase, hphase', hdrained, hdrained]
    -- the mode in which a ticket runs does not depend on the slots
    exact ⟨rfl, rfl, rfl⟩

theorem within_runPhases (d : Discipline) {b b' : Batch} {ps : List Phase} {es₀ : List Event}
    (hslots : b.crew.slots = some slots) (hready : b.shared.Ready (ps.flatMap (·.tickets)))
    (hwithin : b.board.Within es₀ slots.count) (h : runPhases d b ps = (.ok (), b'))
    : b'.board.Within es₀ slots.count := by
  induction ps generalizing b with
  | nil =>
    cases h
    exact hwithin
  | cons p ps ih =>
    rw [List.flatMap_cons] at hready
    rcases runPhase_eq d b hready.left with ⟨s, hphase, hthrough⟩
    have hwithin' := Pool.within_of_reach hready.left (d.reach_drain _) hslots hwithin
    rw [← shared_runPhase, hphase] at hwithin'
    unfold runPhases at h
    rw [hphase] at h
    exact ih (b := { b with shared := s, results := _ }) hslots (hready.right hthrough) hwithin' h

end Batch

namespace Session

open Batch

variable {b₀ : Batch} {s : Session} {r : Request} {p : Pass} {slots : Slots}

theorem Conducts.within_begins {b₁ b' : Batch} {before after : List Phase} {phase : Phase}
    (h : s.Conducts b₀ r p b₁) (hslots : b₀.crew.slots = some slots)
    (hwithin : s.batch.board.Within [] slots.count) (hphases : p.phases = before ++ phase :: after)
    (hbefore : runPhases p.discipline p.batch.opened before = (.ok (), b'))
    : b'.board.Within [] slots.count := by
  rcases h.opened with ⟨hcrew, hquiet, -⟩
  apply within_runPhases p.discipline (hcrew ▸ hslots) _ (hwithin.quiet hquiet) hbefore
  exact (h.begins hphases hbefore).2.2.1

theorem Conducts.within_call {b₁ : Batch} (h : s.Conducts b₀ r p b₁)
    (hslots : b₀.crew.slots = some slots) (hwithin : s.batch.board.Within [] slots.count)
    : (s.call r).batch.board.Within [] slots.count := by
  rcases h.opened with ⟨hcrew, hquiet, hready⟩
  rcases h.worked with ⟨b₂, hphases, hafter⟩
  have hworked := within_runPhases p.discipline (hcrew ▸ hslots) hready (hwithin.quiet hquiet)
    hphases
  exact hworked.quiet hafter

theorem within_call (hs : s.Stands b₀) (hslots : b₀.crew.slots = some slots)
    (hwithin : s.batch.board.Within [] slots.count) (r : Request)
    : (s.call r).batch.board.Within [] slots.count := by
  cases hs.course r with
  | pass p b₁ h => exact h.within_call hslots hwithin
  | quiet _ _ hquiet => exact hwithin.quiet hquiet
  | say text severity =>
    apply hwithin.works (.carryOut (.say text severity) rfl)
    exact hwithin.live_le

theorem within_ofCalls (h : Fresh b₀ b₀) (hslots : b₀.crew.slots = some slots)
    (hwithin : b₀.board.Within [] slots.count) (requests : List Request)
    : (ofCalls b₀ requests).batch.board.Within [] slots.count := by
  induction requests using List.reverseRecOn with
  | nil => exact hwithin
  | append_singleton requests r ih =>
    rw [ofCalls_append]
    exact within_call (stands_ofCalls h requests).1 hslots ih r

end Session

namespace Batch

theorem within_new {id : BatchId} {options : Options} {tasks : List Task}
    {channel : Option String} {clock : Nat → Instant} {b₀ : Batch}
    (h : Batch.new id options tasks channel clock = .ok b₀) (m : Nat) : b₀.board.Within [] m := by
  rcases eq_of_new h with ⟨slots, rfl⟩
  have htells : ({} : Stream).Tells ({ clock } : Feed) := .empty clock
  exact Board.Within.of_tells (b := .new options.retryBudget options.target clock) htells
    (Nat.zero_le m)

theorem Begins.shows {b₀ b' : Batch} {s : Session} {r : Request} {phase : Phase} {slots : Slots}
    (h : s.batch.Begins r phase b') (hs : s.Stands b₀) (hslots : b₀.crew.slots = some slots)
    (hwithin : s.batch.board.Within [] slots.count)
    : (Pool.ofPhase b'.crew b'.shared phase).Shows [] slots.count := by
  rcases hs.ready_of_begins h with ⟨hready, hcrew⟩
  rcases h with ⟨p, before, after, hpass, hphases, hbefore⟩
  rcases hs.conducts hpass with ⟨b₁, hconducts⟩
  apply Pool.shows_ofPhase (hcrew ▸ hslots) hready
  exact hconducts.within_begins hslots hwithin hphases hbefore

/--
A bound on the tasks that run at once is kept and stops nobody: at every moment of a phase and in
every prefix of the events no more tasks run than that, some worker can step until all have
reported, and then all slots are free. What the phase gives is what it gives without a bound. This
holds of every phase whose tickets are admitted, and every phase of a batch is one.
-/
theorem capped_ofCalls {n : Nat} (hn : n ≤ maxSlots)
    : (∃ slots, Slots.ofBound n = .ok slots ∧ ∀ (b : Batch) phase, b.crew.slots = some slots →
        b.shared.Ready phase.tickets →
          (Pool.ofPhase b.crew b.shared phase).Capped (max n 1) ∧ b.Yields phase ∧
          (b.board.stream.Tells b.board.feed →
            (Pool.ofPhase b.crew b.shared phase).Shows b.board.told (max n 1))) ∧
      ∀ id options tasks channel clock, options.maxConcurrency = some n →
        ∃ b₀, Batch.new id options tasks channel clock = .ok b₀ ∧ ∀ requests,
          let s := Session.ofCalls b₀ requests
          (∀ es, es <+: s.batch.board.told →
            ∃ lines, replay? es = some lines ∧ lines.countP (·.running) ≤ max n 1) ∧
          ∀ r, s.batch.Serves r ∧ ∀ phase b', s.batch.Begins r phase b' →
            (Pool.ofPhase b'.crew b'.shared phase).Capped (max n 1) ∧ b'.Yields phase ∧
            (Pool.ofPhase b'.crew b'.shared phase).Shows [] (max n 1) := by
  have hmax : max n 1 ≤ maxSlots := Nat.max_le.2 ⟨hn, by decide⟩
  let slots : Slots := ⟨max n 1, by omega, hmax⟩
  have hslots : Slots.ofBound n = .ok slots := by
    unfold Slots.ofBound
    rw [dif_pos hmax]
  refine ⟨⟨slots, hslots, ?_⟩, ?_⟩
  . intro b phase hcrew hready
    refine ⟨Pool.capped_ofPhase hcrew hready, yields_of_ready hready, ?_⟩
    intro htells
    apply Pool.shows_ofPhase hcrew hready
    -- no line runs when the phase begins
    apply Board.Within.of_tells htells
    rw [← Feed.length_running hready.inStep.sound.live_le, hready.running]
    exact Nat.zero_le _
  . intro id options tasks channel clock hoptions
    have hnew : ∃ b₀, Batch.new id options tasks channel clock = .ok b₀ ∧
        b₀.crew.slots = some slots := by
      unfold Batch.new Slots.ofBound?
      rw [hoptions]
      dsimp only
      rw [hslots]
      exact ⟨_, rfl, rfl⟩
    rcases hnew with ⟨b₀, hnew, hcrew⟩
    refine ⟨b₀, hnew, ?_⟩
    intro requests s
    have hstands : s.Stands b₀ := (Session.stands_ofCalls (fresh_new hnew) requests).1
    have hwithin : s.batch.board.Within [] slots.count :=
      Session.within_ofCalls (fresh_new hnew) hcrew (within_new hnew _) requests
    refine ⟨fun es hes => hwithin.replay List.nil_prefix hes, ?_⟩
    intro r
    refine ⟨hstands.serves r, ?_⟩
    intro phase b' hbegins
    rcases hstands.ready_of_begins hbegins with ⟨hready, hcrew'⟩
    refine ⟨Pool.capped_ofPhase (hcrew' ▸ hcrew) hready, yields_of_ready hready, ?_⟩
    exact hbegins.shows hstands hcrew hwithin

theorem capped_sample
    : ∃ b₀ phase b', Batch.new ⟨⟨0⟩⟩ { maxConcurrency := some 0 } [.steady, .flaky] = .ok b₀ ∧
        b₀.Begins (.run .queued) phase b' ∧ phase.tickets.length = 2 ∧
        (Pool.ofPhase b'.crew b'.shared phase).Capped 1 ∧ b'.Yields phase := by
  rcases (capped_ofCalls (Nat.zero_le maxSlots)).2 ⟨⟨0⟩⟩ { maxConcurrency := some 0 }
    [.steady, .flaky] none (fun _ => default) rfl with ⟨b₀, hnew, hcapped⟩
  have hphases : phases b₀.options.target false b₀.pending =
      [⟨0, "independent", ticketsFor .here [.steady, .flaky]⟩] := by
    rcases eq_of_new hnew with ⟨slots, rfl⟩
    rfl
  have hpending : 0 < b₀.pending.length := by
    rcases eq_of_new hnew with ⟨slots, rfl⟩
    exact Nat.two_pos
  have hpass := (fresh_new hnew).pass?_run .queued hpending
  have hbegins : ∃ b', b₀.Begins (.run .queued) _ b' := ⟨_, _, [], [], hpass, hphases, rfl⟩
  rcases hbegins with ⟨b', hbegins⟩
  have hphase := ((hcapped []).2 _).2 _ b' hbegins
  exact ⟨b₀, _, b', hnew, hbegins, rfl, hphase.1, hphase.2.1⟩

end Batch

end SetupBatch
