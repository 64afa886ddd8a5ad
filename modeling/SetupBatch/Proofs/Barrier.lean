import SetupBatch.Proofs.Deeds
import SetupBatch.Proofs.Moment

/-!
This module contains the verification of the order of phases: no task that waits for the
prerequisite starts before the attempts at all tasks that do not wait for it are over, and a pass
starts each of its tasks once.
-/

namespace SetupBatch

namespace Phase

variable {tickets : List Ticket}

theorem homogeneous_of_mem_split {p : Phase} (hp : p ∈ split tickets) {t u : Ticket}
    (ht : t ∈ p.tickets) (hu : u ∈ p.tickets)
    : t.profile.dependsOnPrerequisite = u.profile.dependsOnPrerequisite := by
  unfold split at hp
  rw [List.partition_eq_filter_filter] at hp
  have hmem := List.mem_of_mem_filter hp
  rw [List.mem_cons, List.mem_singleton] at hmem
  rcases hmem with rfl | rfl
  . simp only [List.mem_filter, Function.comp_apply, Bool.not_eq_true'] at ht hu
    rw [ht.2, hu.2]
  . rw [List.mem_filter] at ht hu
    rw [ht.2, hu.2]

theorem pairwise_split (tickets : List Ticket)
    : (split tickets).Pairwise fun _ p => ∀ t ∈ p.tickets,
        t.profile.dependsOnPrerequisite = true := by
  unfold split
  rw [List.partition_eq_filter_filter]
  apply List.Pairwise.filter
  simp

theorem mem_before_of_split {before after : List Phase} {phase : Phase}
    (h : split tickets = before ++ phase :: after) {u : Ticket} (hu : u ∈ phase.tickets)
    (hdependent : u.profile.dependsOnPrerequisite = true) {t : Ticket} (ht : t ∈ tickets)
    (hindependent : t.profile.dependsOnPrerequisite = false)
    : t ∈ before.flatMap (·.tickets) := by
  have hmem := (flatMap_split_perm tickets).mem_iff.2 ht
  rw [h, List.flatMap_append, List.flatMap_cons, List.mem_append, List.mem_append] at hmem
  rcases hmem with hbefore | hphase | hafter
  . exact hbefore
  . have hmem := List.mem_append_right before (List.mem_cons_self (a := phase) (l := after))
    have hsame := homogeneous_of_mem_split (h ▸ hmem) hphase hu
    rw [hindependent, hdependent] at hsame
    cases hsame
  . have hpairwise := pairwise_split tickets
    rw [h, List.pairwise_append, List.pairwise_cons] at hpairwise
    rcases List.mem_flatMap.1 hafter with ⟨p, hp, htp⟩
    have hlater := hpairwise.2.1.1 p hp t htp
    rw [hindependent] at hlater
    cases hlater

end Phase

/-- The one attempt at a ticket is over: it began, it is counted, and its line has settled. -/
structure Ticket.Over (crew : Crew) (t : Ticket) (b : Board) : Prop where
  begun : b.begun t.index = 1
  settled : t.index ∈ b.tally.settled
  failed : t.withOutcome .failed ∈ b.tally.failed ↔ t.outcomeAt crew 1 = .failed
  told : (Deed.ends t (t.outcomeAt crew 1)).entries <:+: b.record
  lines : ∀ l ∈ b.feed.lines, l.task = some t.index → l.running = false

theorem Board.begun_lt {b b' : Board} {es : List Event} {e : Event} {i : Nat}
    (hes : b.told <+: es) (hes' : es ++ [e] <+: b'.told) (he : e.begins i = true)
    : b.begun i < b'.begun i := by
  have hbefore := hes.sublist.countP_le (p := (·.begins i))
  have hafter := hes'.sublist.countP_le (p := (·.begins i))
  rw [List.countP_append, List.countP_singleton, if_pos he] at hafter
  exact Nat.lt_of_le_of_lt hbefore hafter

namespace Pool

variable {p q r : Pool} {s₀ : Shared}

theorem Proceeds.mem_of_begun (h : q.Proceeds s₀) {i : Nat} (hs : q.step? i = some r) {k : Nat}
    (hbegun : q.shared.board.begun k < r.shared.board.begun k)
    : k ∈ q.tickets.map (·.index) := by
  rcases step?_eq_some hs with ⟨w, w', s, hw, hstep, rfl⟩
  have hmem : w ∈ q.workers := List.mem_of_getElem? hw
  have hprogress := Worker.progress_step? h.inStep (h.stands w hmem) hstep
  by_cases hk : k = w.ticket.index
  . rw [hk]
    exact List.mem_map_of_mem (List.mem_map_of_mem hmem)
  . -- a step begins nothing for the tickets of other workers
    have hsame := (hprogress.advances.others k hk).begun
    dsimp only at hbegun
    omega

end Pool

theorem Deed.isInfix_flatMap {d : Deed} {ds : List Deed} (hd : d ∈ ds)
    : d.entries <:+: ds.flatMap (·.entries) := by
  rcases List.append_of_mem hd with ⟨xs, ys, rfl⟩
  refine ⟨xs.flatMap (·.entries), ys.flatMap (·.entries), ?_⟩
  rw [List.flatMap_append, List.flatMap_cons, List.append_assoc]

theorem Shared.Recounts.isInfix {crew : Crew} {tickets : List Ticket} {ds : List Deed}
    {s s' : Shared} (h : s.Recounts crew tickets ds s') {t : Ticket} (ht : t ∈ tickets)
    : (Deed.ends t (t.outcomeAt crew (s.nextAttempt t.index))).entries <:+: s'.board.record := by
  have hmem : Deed.ends t (t.outcomeAt crew (s.nextAttempt t.index)) ∈
      ds.filter (·.author = some t.index) := by
    rw [h.deeds t ht]
    unfold Ticket.deedsAt
    simp
  rw [h.record]
  apply (Deed.isInfix_flatMap (List.mem_of_mem_filter hmem)).trans
  apply (List.suffix_append _ _).isInfix

namespace Batch

theorem over_of_reach {crew : Crew} {s₀ s₁ : Shared} {tickets : List Ticket} {ds : List Deed}
    {phase : Phase} {q : Pool} (hthrough : s₀.Through crew tickets s₁)
    (hrecounts : s₀.Recounts crew tickets ds s₁) (hready : s₁.Ready phase.tickets)
    (hq : (Pool.ofPhase crew s₁ phase).Reach q) {t : Ticket} (ht : t ∈ tickets)
    (hnot : t.index ∉ phase.tickets.map (·.index)) (hbegun : s₀.board.begun t.index = 0)
    (hcalled : s₀.called t.index = 0) : t.Over crew q.shared.board := by
  rcases hready.reach hq with ⟨hproceeds, -, htickets⟩
  have hended := (hthrough.ended t ht).of_sameAt (hproceeds.others _ (htickets ▸ hnot))
  have hnumber : s₀.nextAttempt t.index = 1 := congrArg (· + 1) hcalled
  have htold := hrecounts.isInfix ht
  rcases hq.exists_does with ⟨es, hes⟩
  rw [hnumber] at htold
  constructor
  . rw [hended.begun, hbegun]
  . exact hended.settled
  . have hfailed := hended.failed (t.withOutcome .failed) rfl
    rw [hnumber] at hfailed
    exact hfailed.trans (and_iff_left rfl)
  . rw [(hready.recorded hes).record]
    exact htold.trans (List.prefix_append _ _).isInfix
  . intro l hl htask
    rw [← Bool.not_eq_true]
    intro hrunning
    have hrun := hproceeds.inStep.sound.mem_running_iff.2 ⟨hl, hrunning⟩
    have hout := hproceeds.inStep.exists_line.1 ⟨l, hrun, htask⟩
    exact hout.2 hended.settled

end Batch

namespace Session

open Batch

variable {b₀ : Batch} {s : Session}

theorem phases_of_pass? (hfresh : Fresh b₀ s.batch)
    (htarget : s.batch.options.target.isRemote = false) {d : Discipline} {p : Pass}
    (h : s.batch.pass? (.run d) = some p) : p.phases = Phase.split b₀.pending := by
  cases Nat.eq_zero_or_pos s.batch.pending.length with
  | inl hnone =>
    rw [hfresh.pass?_run_of_nil d hnone] at h
    cases h
  | inr hpos =>
    rw [hfresh.pass?_run d hpos] at h
    cases h
    unfold Pass.phases phases
    dsimp only
    rw [htarget, hfresh.pending]
    rfl

theorem over_of_begins (hs : s.Stands b₀) (hfresh : Fresh b₀ s.batch)
    (htarget : s.batch.options.target.isRemote = false) {d : Discipline} {phase : Phase}
    {b' : Batch} (h : s.batch.Begins (.run d) phase b') {q r : Pool} {i : Nat}
    (hq : (Pool.ofPhase b'.crew b'.shared phase).Reach q) (hstep : q.step? i = some r)
    {u t : Ticket} (hu : u ∈ b₀.pending) (hdependent : u.profile.dependsOnPrerequisite = true)
    (hbegun : q.shared.board.begun u.index < r.shared.board.begun u.index) (ht : t ∈ b₀.pending)
    (hindependent : t.profile.dependsOnPrerequisite = false)
    : t.Over b₀.crew q.shared.board := by
  rcases h with ⟨p, before, after, hpass, hphases, hbefore⟩
  rcases hs.conducts hpass with ⟨b₁, hconducts⟩
  rcases hconducts.begins hphases hbefore with ⟨hready, hcrew, hreadyBefore, hthrough⟩
  have hsplit := (phases_of_pass? hfresh htarget hpass).symm.trans hphases
  have hmem : ∀ v ∈ phase.tickets, v ∈ b₀.pending := by
    intro v hv
    rw [← (Phase.flatMap_split_perm b₀.pending).mem_iff, hsplit, List.flatMap_append,
      List.flatMap_cons]
    simp [hv]
  rw [hcrew] at hq
  rcases hready.reach hq with ⟨hproceeds, -, htickets⟩
  -- indices tell tickets apart, so what begins in the phase is one of its tickets
  have huphase : u ∈ phase.tickets := by
    have hindex := hproceeds.mem_of_begun hstep hbegun
    rw [htickets] at hindex
    rcases List.mem_map.1 hindex with ⟨v, hv, heq⟩
    rw [← hs.atRest.ascending.eq_of_index (hmem v hv) hu heq]
    exact hv
  -- and the phase has no independent ticket next to a dependent one
  have hnot : t.index ∉ phase.tickets.map (·.index) := by
    intro hindex
    rcases List.mem_map.1 hindex with ⟨v, hv, heq⟩
    rw [hs.atRest.ascending.eq_of_index (hmem v hv) ht heq] at hv
    have hsame := Phase.homogeneous_of_mem_split (hsplit ▸ List.mem_append_right _
      List.mem_cons_self) hv huphase
    rw [hindependent, hdependent] at hsame
    cases hsame
  rcases exists_doesPhases p.discipline hreadyBefore with ⟨ds, hds⟩
  have hrecounts := hds.recounts hreadyBefore hbefore
  rw [hconducts.opened.1] at hrecounts
  apply over_of_reach hthrough hrecounts hready hq _ hnot
  . rw [(opened_sameAt p.batch t.index).1, hconducts.before.begun, hfresh.begun]
  . rw [(opened_sameAt p.batch t.index).2, Shared.called_congr hconducts.calls, hfresh.called]
  . exact Phase.mem_before_of_split hsplit huphase hdependent ht hindependent

theorem begun_run (hfresh : Fresh b₀ s.batch) (d : Discipline) (i : Nat)
    : (s.batch.serve (.run d)).2.board.begun i =
        if i ∈ b₀.pending.map (·.index) then 1 else 0 := by
  have hpaused := (hfresh.serve_run d).2
  split
  . next hmem =>
    rcases List.mem_map.1 hmem with ⟨t, ht, rfl⟩
    exact hpaused.begun t ht
  . next hnot => exact hpaused.begun_other i hnot

theorem over_of_told (hs : s.Stands b₀) (hfresh : Fresh b₀ s.batch)
    (htarget : s.batch.options.target.isRemote = false) {d : Discipline} {es : List Event}
    {e : Event} (hes : es ++ [e] <+: (s.batch.serve (.run d)).2.board.told) {u : Ticket}
    (hu : u ∈ b₀.pending) (hdependent : u.profile.dependsOnPrerequisite = true)
    (he : e.begins u.index = true)
    : ∃ q, s.batch.Sees (.run d) q ∧ q.shared.board.told <+: es ∧
        ∀ t ∈ b₀.pending, t.profile.dependsOnPrerequisite = false →
          t.Over b₀.crew q.shared.board ∧ es.countP (·.begins t.index) = 1 := by
  have hnot : ¬es ++ [e] <+: s.batch.board.told := by
    intro hbefore
    have hnone := List.countP_eq_zero.1 (hfresh.begun u.index)
    exact hnone e (hbefore.subset (List.mem_append_right _ List.mem_cons_self)) he
  rcases (hs.serves (.run d)).told es e hes hnot (Event.changesLines_of_begins he)
    with ⟨_, _, heq⟩ | ⟨phase, b', q, i, r, hbegins, hq, hstep, htold, hr⟩
  . cases heq
  refine ⟨q, .phase hbegins hq, htold, ?_⟩
  intro t ht hindependent
  have hover := over_of_begins hs hfresh htarget hbegins hq hstep hu hdependent
    (Board.begun_lt htold hr he) ht hindependent
  refine ⟨hover, ?_⟩
  -- one attempt has begun by then, and one is all that there will be
  have hone := begun_run hfresh d t.index
  rw [if_pos (List.mem_map_of_mem ht)] at hone
  have hsome := hover.begun
  have hmin := htold.sublist.countP_le (p := (·.begins t.index))
  have hmax := ((List.prefix_append es [e]).trans hes).sublist.countP_le (p := (·.begins t.index))
  unfold Board.begun at hone hsome
  omega

theorem Stands.single_of_retry (hs : s.Stands b₀) (d : Discipline)
    (hok : (s.batch.serve (.retry d)).1.isOk = true)
    : ∃ p, s.batch.pass? (.retry d) = some p ∧
        p.phases = [⟨0, "retry", s.batch.failed.map Ticket.reset⟩] ∧
        ∀ i, (s.batch.serve (.retry d)).2.board.begun i = s.batch.board.begun i +
          if i ∈ s.batch.failed.map (·.index) then 1 else 0 := by
  cases hs.granted (.retry d) with
  | inl hrefuses =>
    rcases hrefuses with ⟨rejection, hserve⟩
    rw [hserve] at hok
    cases hok
  | inr hgranted =>
    cases hgranted with
    | retry _ _ _ hpaused ho =>
      have hpass := hpaused.pass?_retry d ho
      rcases hs.conducts hpass with ⟨b₁, hconducts⟩
      refine ⟨_, hpass, ?_, ?_⟩
      . show Phase.single "retry" (s.batch.failed.map Ticket.reset) = _
        have hsome : s.batch.failed ≠ [] := List.length_pos_iff.1 ho.1
        unfold Phase.single
        rw [if_neg]
        simpa using hsome
      . intro i
        have hindices : (s.batch.failed.map Ticket.reset).map (·.index) =
            s.batch.failed.map (·.index) := by
          rw [List.map_map]
          rfl
        rw [← hindices]
        exact hconducts.begun i

end Session

namespace Batch

/--
How the first pass of a batch goes on this machine: a dependent task begins only when the attempts
at all independent ones are over, whatever came of them, and the pass begins one attempt at every
task.
-/
structure Ordered (crew : Crew) (tickets : List Ticket) (d : Discipline) (b : Batch) : Prop where
  barrier : ∀ phase b', b.Begins (.run d) phase b' →
    ∀ q r i, (Pool.ofPhase b'.crew b'.shared phase).Reach q → q.step? i = some r →
    ∀ u ∈ tickets, u.profile.dependsOnPrerequisite = true →
      q.shared.board.begun u.index < r.shared.board.begun u.index →
    q.shared.board.tally.Regular ∧
    ∀ t ∈ tickets, t.profile.dependsOnPrerequisite = false → t.Over crew q.shared.board
  told : ∀ es e, es ++ [e] <+: (b.serve (.run d)).2.board.told →
    ∀ u ∈ tickets, u.profile.dependsOnPrerequisite = true → e.begins u.index = true →
    ∃ q, b.Sees (.run d) q ∧ q.shared.board.told <+: es ∧
      ∀ t ∈ tickets, t.profile.dependsOnPrerequisite = false →
        t.Over crew q.shared.board ∧ es.countP (·.begins t.index) = 1
  accepted : (b.serve (.run d)).1.isOk = true
  begun : ∀ i, (b.serve (.run d)).2.board.begun i =
    if i ∈ tickets.map (·.index) then 1 else 0

theorem ordered_of_fresh {b₀ : Batch} {s : Session} (hs : s.Stands b₀) (hfresh : Fresh b₀ s.batch)
    (htarget : s.batch.options.target.isRemote = false) (d : Discipline)
    : s.batch.Ordered b₀.crew b₀.pending d := by
  constructor
  . intro phase b' hbegins q r i hq hstep u hu hdependent hbegun
    have hregular := ((hs.ready_of_begins hbegins).1.reach hq).1.inStep.regular
    refine ⟨hregular, ?_⟩
    intro t ht hindependent
    exact Session.over_of_begins hs hfresh htarget hbegins hq hstep hu hdependent hbegun ht
      hindependent
  . intro es e hes u hu hdependent he
    exact Session.over_of_told hs hfresh htarget hes hu hdependent he
  . exact (hfresh.serve_run d).1
  . exact Session.begun_run hfresh d

/--
On this machine the first pass of a batch keeps the order of the tasks, in what its workers may do
and in what the call tells. A retry begins one attempt at every task that had failed, all in one
phase.
-/
theorem ordered_ofCalls {id : BatchId} {options : Options} {tasks : List Task}
    {channel : Option String} {clock : Nat → Instant} {b₀ : Batch}
    (hnew : Batch.new id options tasks channel clock = .ok b₀) (requests : List Request)
    (d : Discipline)
    : let s := Session.ofCalls b₀ requests
      (∀ r, s.batch.Serves r) ∧
      (options.target.isRemote = false → s.runs = 0 →
        b₀.pending = Ticket.admitAll tasks ∧ s.batch.Ordered s.batch.crew b₀.pending d) ∧
      ((s.batch.serve (.retry d)).1.isOk = true → ∃ p, s.batch.pass? (.retry d) = some p ∧
        p.phases = [⟨0, "retry", s.batch.failed.map Ticket.reset⟩] ∧
        ∀ i, (s.batch.serve (.retry d)).2.board.begun i = s.batch.board.begun i +
          if i ∈ s.batch.failed.map (·.index) then 1 else 0) := by
  intro s
  have hstands : s.Stands b₀ := (Session.stands_ofCalls (fresh_new hnew) requests).1
  have hb₀ : b₀.pending = ticketsFor options.target tasks ∧ b₀.options = options := by
    rcases eq_of_new hnew with ⟨slots, rfl⟩
    exact ⟨rfl, rfl⟩
  refine ⟨hstands.serves, ?_, hstands.single_of_retry d⟩
  intro htarget hruns
  have hfresh : Fresh b₀ s.batch := by
    cases hstands with
    | fresh _ _ _ hfresh => exact hfresh
    | paused hone _ => omega
  constructor
  . rw [hb₀.1]
    unfold ticketsFor
    rw [htarget]
    rfl
  . rw [hfresh.crew]
    apply ordered_of_fresh hstands hfresh
    rw [hfresh.options, hb₀.2, htarget]

end Batch

def Task.late : Task where
  profile := { wording := .ofLabel "late", dependsOnPrerequisite := true }
  attempt _ := {}

namespace Batch

/-- The first task of this batch starts after the second has failed. -/
theorem ordered_sample
    : ∃ b₀ phase b' q r, Batch.new ⟨⟨0⟩⟩ {} [.late, .flaky] = .ok b₀ ∧
        b₀.Begins (.run .queued) phase b' ∧ (Pool.ofPhase b'.crew b'.shared phase).Reach q ∧
        q.step? 0 = some r ∧ q.shared.board.begun 0 < r.shared.board.begun 0 ∧
        Ticket.Over b₀.crew ⟨1, .flaky, none⟩ q.shared.board ∧
        Ticket.outcomeAt b₀.crew ⟨1, .flaky, none⟩ 1 = .failed := by
  let b₀ := { sample with pending := ticketsFor .here [.late, .flaky] }
  let late : Ticket := ⟨0, .late, none⟩
  let phase : Phase := ⟨1, "prerequisite-dependent", [late]⟩
  have hnew : Batch.new ⟨⟨0⟩⟩ {} [.late, .flaky] = .ok b₀ := rfl
  have hfresh := fresh_new hnew
  have hpass := hfresh.pass?_run .queued Nat.two_pos
  have hstands := (Session.stands_ofCalls hfresh []).1
  rcases hstands.conducts hpass with ⟨b₁, hconducts⟩
  have hphases : phases .here false b₀.pending =
    [⟨0, "independent", [⟨1, .flaky, none⟩]⟩] ++ phase :: [] := rfl
  rcases hconducts.exists_begins hphases with ⟨shared, results, hbegins⟩
  have hready := (hstands.ready_of_begins hbegins).1
  rcases hready.inStep.start (hready.admitted late List.mem_cons_self)
    (hready.started late List.mem_cons_self) with ⟨line, board, hstart, hstarts⟩
  -- the worker of the late task takes a slot and starts
  let q : Pool := ⟨b₀.crew, shared, [⟨late, .ready⟩]⟩
  have hq : (Pool.ofPhase b₀.crew shared phase).Reach q := .step 0 .refl rfl
  have hstep : ∃ r, q.step? 0 = some r ∧ r.shared.board = board := by
    refine ⟨_, rfl, ?_⟩
    exact (Worker.board_start {} shared ⟨late, .ready⟩).trans (congrArg Prod.snd hstart)
  rcases hstep with ⟨r, hstep, hboard⟩
  have hbegun : q.shared.board.begun 0 < r.shared.board.begun 0 := by
    rw [hboard, hstarts.begun]
    exact Nat.lt_succ_self _
  have hordered := ((ordered_ofCalls hnew [] .queued).2.1 rfl rfl).2
  have hover := (hordered.barrier phase _ hbegins q r 0 hq hstep late List.mem_cons_self rfl
    hbegun).2 ⟨1, .flaky, none⟩ (List.mem_cons_of_mem _ List.mem_cons_self) rfl
  exact ⟨b₀, phase, _, q, r, hnew, hbegins, hq, hstep, hbegun, hover, rfl⟩

end Batch

end SetupBatch
