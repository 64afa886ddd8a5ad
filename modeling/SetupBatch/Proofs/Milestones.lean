import SetupBatch.Proofs.Figures
import SetupBatch.Proofs.Work

/-!
This module contains the milestones of a batch: the beginnings of its passes, the offers to retry,
and its end. The events of a batch tell each of them once, in an order that the number of granted
retries says, and nothing that a task does is taken for one.
-/

namespace SetupBatch

inductive Milestone where
  | passBegun
  | retryOffered (failed : Nat)
  | retriesExhausted (failed : Nat)
  | batchFinished (summary : Summary)
  deriving DecidableEq

namespace Event

def opensPass : Event → Bool
  | .progress .indeterminate | .progress (.determinate 0 _) => true
  | _ => false

def concernsBatch : Event → Bool
  | .retryOffered _ | .retriesExhausted _ | .batchFinished _ => true
  | _ => false

def milestone? : Event → Option Milestone
  | .progress .indeterminate | .progress (.determinate 0 _) => some .passBegun
  | .retryOffered failed => some (.retryOffered failed)
  | .retriesExhausted failed => some (.retriesExhausted failed)
  | .batchFinished summary => some (.batchFinished summary)
  | _ => none

end Event

def Milestone.event? : Milestone → Option Event
  | .passBegun => none
  | .retryOffered failed => some (.retryOffered failed)
  | .retriesExhausted failed => some (.retriesExhausted failed)
  | .batchFinished summary => some (.batchFinished summary)

namespace Event

theorem milestone?_progress {started : Nat} (total : Nat) (h : started ≠ 0)
    : milestone? (.progress (.determinate started total)) = none := by
  rcases Nat.exists_eq_succ_of_ne_zero h with ⟨n, rfl⟩
  rfl

theorem milestone?_eq_passBegun_iff (e : Event)
    : e.milestone? = some .passBegun ↔ e.opensPass = true := by
  unfold milestone? opensPass
  split <;> simp

theorem bind_event? (e : Event)
    : e.milestone?.bind Milestone.event? = if e.concernsBatch then some e else none := by
  unfold milestone? concernsBatch
  split <;> simp [Milestone.event?]

theorem eq_of_milestone?_eq {e e' : Event} {m : Milestone} (h : e.milestone? = some m)
    (he : m.event? = some e') : e = e' := by
  have hbind := e.bind_event?
  rw [h] at hbind
  change m.event? = _ at hbind
  rw [he] at hbind
  split at hbind
  . exact (Option.some.inj hbind).symm
  . cases hbind

end Event

namespace Board

def milestones (b : Board) : List Milestone := b.told.filterMap Event.milestone?

theorem filter_told (b : Board)
    : b.told.filter (·.concernsBatch) = b.milestones.filterMap Milestone.event? := by
  unfold milestones
  rw [List.filterMap_filterMap, ← List.filterMap_eq_filter]
  congr 1
  funext e
  rw [e.bind_event?]
  rfl

theorem countP_opensPass (b : Board)
    : b.told.countP (·.opensPass) = b.milestones.count .passBegun := by
  unfold milestones
  rw [List.count, List.countP_filterMap]
  congr 1
  funext e
  rw [Bool.eq_iff_iff, ← e.milestone?_eq_passBegun_iff]
  cases e.milestone? <;> simp

theorem exists_told_of_milestones {b : Board} {ms : List Milestone} {m : Milestone} {e : Event}
    (h : b.milestones = ms ++ [m]) (he : m.event? = some e)
    : ∃ xs ys, b.told = xs ++ e :: ys ∧ ∀ e' ∈ ys, e'.milestone? = none := by
  rcases List.filterMap_eq_append_iff.1 h with ⟨xs, zs, htold, -, hzs⟩
  rcases List.filterMap_eq_cons_iff.1 hzs with ⟨ws, e', ys, rfl, -, he', hys⟩
  refine ⟨xs ++ ws, ys, ?_, List.filterMap_eq_nil_iff.1 hys⟩
  rw [htold, Event.eq_of_milestone?_eq he' he, List.append_assoc]

theorem milestones_tell_of_none (b : Board) {e : Event} (h : e.milestone? = none)
    : (b.tell e).milestones = b.milestones := by
  unfold milestones told tell
  rw [Stream.told_tell]
  split
  . simp [h]
  . rfl

theorem milestones_tell {b : Board} (hb : b.stream.heard = true) {e : Event} {m : Milestone}
    (h : e.milestone? = some m) : (b.tell e).milestones = b.milestones ++ [m] := by
  unfold milestones told tell
  rw [Stream.told_tell, if_pos hb]
  simp [h]

theorem milestones_tellAll {b : Board} {es : List Event} (h : ∀ e ∈ es, e.milestone? = none)
    : milestones { b with stream := b.stream.tellAll es } = b.milestones := by
  unfold milestones told
  rw [Stream.told_tellAll]
  split
  . rw [List.filterMap_append, List.filterMap_eq_nil_iff.2 h, List.append_nil]
  . rfl

theorem milestones_tellChanges (b : Board) (changes : List Feed.Change)
    : (b.tellChanges changes).milestones = b.milestones := by
  apply milestones_tellAll
  intro e he
  rcases List.mem_map.1 he with ⟨change, -, rfl⟩
  cases change <;> rfl

theorem milestones_raiseFor (b : Board) (p : Profile) (o : Outcome) (detail : Option String)
    : (b.raiseFor p o detail).milestones = b.milestones := by
  cases o with
  | succeeded => rfl
  | needsReboot => exact milestones_tell_of_none _ rfl
  | failed => exact milestones_tell_of_none _ rfl

theorem milestones_start (b : Board) (t : Ticket) : (b.start t).2.milestones = b.milestones := by
  unfold start
  split
  . rfl
  . next tally htally =>
    rcases Tally.start_eq_ok_iff.1 htally with ⟨-, -, rfl⟩
    dsimp only
    rw [milestones_tellChanges, milestones_tell_of_none]
    . rfl
    . unfold announcement
      split
      . rfl
      . apply Event.milestone?_progress
        simp

theorem milestones_finish (b : Board) (t : Ticket) (line : LineId) (o : Outcome)
    (detail : Option String) : (b.finish t line o detail).2.milestones = b.milestones := by
  unfold finish
  split
  . rfl
  . next tally _ =>
    have hraised := milestones_raiseFor { b with tally } t.profile o detail
    dsimp only
    split
    . exact hraised
    . rw [milestones_tell_of_none _ rfl, milestones_tellChanges]
      exact hraised

theorem milestones_carryOut (b : Board) {op : Operation} (hop : op.isWork = true)
    : (b.carryOut op).milestones = b.milestones := by
  cases op with
  | start t => exact milestones_start b t
  | finish t line o detail => exact milestones_finish b t line o detail
  | say text severity => exact milestones_tellChanges _ _
  | request notice kind =>
    cases kind with
    | add => exact milestones_tell_of_none _ rfl
    | remove =>
      simp only [carryOut, request, withdraw]
      split
      . rfl
      . exact milestones_tell_of_none _ rfl
  | _ => cases hop

theorem WorksTo.milestones {b b' : Board} (h : b.WorksTo b') : b'.milestones = b.milestones := by
  apply h.keeps (P := fun c => c.milestones = b.milestones)
  . intro c op hop hc
    rw [milestones_carryOut c hop, hc]
  . rfl

theorem milestones_beginPass {b : Board} (hb : b.stream.heard = true) (tickets : List Ticket)
    : (b.beginPass tickets).milestones = b.milestones ++ [.passBegun] := by
  refine (milestones_tell ?_ ?_).trans rfl
  . exact hb
  . cases b.target <;> rfl

theorem milestones_endPass {b : Board} (h : b.tally.standing.pass.started ≠ 0)
    : b.endPass.milestones = b.milestones := by
  unfold endPass
  split
  . apply milestones_tell_of_none
    exact Event.milestone?_progress _ h
  . rfl

theorem milestones_clearNotices (b : Board) : b.clearNotices.milestones = b.milestones := by
  apply milestones_tellAll
  intro e he
  rcases List.mem_map.1 he with ⟨notice, -, rfl⟩
  rfl

theorem milestones_takeFailed (b : Board) : b.takeFailed.2.milestones = b.milestones :=
  milestones_tell_of_none _ rfl

end Board

namespace Gate

def State.announcement (summary : Summary) : State → List Milestone
  | .awaitingRetry _ failed => [.retryOffered failed]
  | .finished failed true => [.retriesExhausted failed, .batchFinished summary]
  | .finished _ false => [.batchFinished summary]
  | _ => []

theorem runPass_notMem_of_passDrained {g g' : Gate} {failed : Nat} {actions : List Action}
    (h : g.apply (.passDrained failed) = .ok (actions, g')) (retry : Bool)
    : .runPass retry ∉ actions := by
  have hmoves := (moves_of_apply h).2
  generalize g.state = s, g'.state = s' at hmoves
  cases hmoves with
  | clean => simp
  | exhaust => simp
  | offer => simp

end Gate

namespace Batch

theorem summary_announce (b : Batch) (a : Gate.Action) : (b.announce a).summary = b.summary := by
  cases a <;> rfl

theorem heard_announce (b : Batch) (a : Gate.Action)
    : (b.announce a).board.stream.heard = b.board.stream.heard :=
  (Alike.announce b a).board.heard

theorem summary_announceAll (b : Batch) (as : List Gate.Action)
    : (as.foldl announce b).summary = b.summary := by
  induction as generalizing b with
  | nil => rfl
  | cons a as ih => rw [List.foldl_cons, ih, summary_announce]

theorem milestones_answer {b : Batch} {g g' : Gate} {event : Gate.Event}
    {actions : List Gate.Action} (h : g.apply event = .ok (actions, g'))
    (hpass : ∀ retry, .runPass retry ∉ actions) (hb : b.board.stream.heard = true)
    : (actions.foldl announce b).board.milestones =
        b.board.milestones ++ g'.state.announcement b.summary := by
  have hfinish : ∀ message, ([.log message, .finishBatch].foldl announce b).board.milestones =
      b.board.milestones ++ [.batchFinished b.summary] := by
    intro message
    exact Board.milestones_tell hb rfl
  have hmoves := (Gate.moves_of_apply h).2
  generalize g.state = s at hmoves
  generalize g'.state = s' at hmoves ⊢
  cases hmoves with
  | empty message => exact hfinish message
  | start => simp at hpass
  | clean message => exact hfinish message
  | @exhaust message used tasks failed =>
    have hexhausted : (b.announce (.announceExhausted failed)).board.milestones =
        b.board.milestones ++ [.retriesExhausted failed] := Board.milestones_tell hb rfl
    have hheard := (heard_announce b (.announceExhausted failed)).trans hb
    refine (Board.milestones_tell hheard rfl).trans ?_
    rw [hexhausted, summary_announce, List.append_assoc]
    rfl
  | offer => exact Board.milestones_tell hb rfl
  | retry => simp at hpass
  | dismiss message => exact hfinish message

theorem milestones_announceAll {b : Batch} {g : Gate} {event : Gate.Event}
    {actions : List Gate.Action} (h : g.apply event = .ok (actions, b.gate))
    (hpass : ∀ retry, .runPass retry ∉ actions) (hb : b.board.stream.heard = true)
    : (actions.foldl announce b).board.milestones = b.board.milestones ++
        (actions.foldl announce b).state.announcement (actions.foldl announce b).summary := by
  unfold state
  rw [gate_announceAll, summary_announceAll]
  exact milestones_answer h hpass hb

section Pass

variable (d : Discipline) {b b' : Batch} {retry : Bool}

theorem milestones_runPass (h : b.Primed) (hpending : b.pending ≠ []) {failed : Nat}
    (hpass : b.runPass d retry = (.ok failed, b'))
    : b'.board.milestones = b.board.milestones ++ [.passBegun] := by
  rcases board_runPass d hpass with ⟨board, hwork, hboard⟩
  rcases runPass_eq d h retry with ⟨b₁, hpass', hdone⟩
  rw [hpass] at hpass'
  cases hpass'
  -- the header that a remote pass shows at its end counts the ticket that has started
  have hstarted : board.tally.standing.pass.started ≠ 0 := by
    have htally : b'.board.tally = board.tally := by rw [hboard, (Board.Alike.endPass board).tally]
    have hlength := hdone.started
    unfold standing at hlength
    rw [← htally, hlength]
    exact mt List.length_eq_zero_iff.1 hpending
  rw [hboard, Board.milestones_endPass hstarted, hwork.milestones]
  exact Board.milestones_beginPass h.heard b.pending

theorem milestones_perform (h : b.Primed) (hpending : b.pending ≠ []) {used tasks : Nat}
    (hstate : b.gate.state = .running used tasks) {message : String}
    (hperform : b.perform d [.log message, .runPass retry] = (.ok (), b'))
    : b'.board.milestones =
        b.board.milestones ++ .passBegun :: b'.state.announcement b'.summary := by
  rcases perform_pass_eq d h hstate message retry
    with ⟨b₁, actions, gate, hpass, hdone, -, happly, heq⟩
  rw [heq] at hperform
  cases hperform
  apply (milestones_announceAll happly ?_ ?_).trans
  . show b₁.board.milestones ++ _ = _
    rw [milestones_runPass d h hpending hpass, List.append_assoc]
    rfl
  . exact Gate.runPass_notMem_of_passDrained happly
  . exact hdone.inStep.heard

end Pass

noncomputable def unresolvedAfter (b₀ : Batch) (k : Nat) : Nat :=
  b₀.pending.countP fun t => (k : ℕ∞) < t.failures b₀.crew

theorem unresolvedAfter_antitone (b₀ : Batch) {k k' : Nat} (h : k ≤ k')
    : b₀.unresolvedAfter k' ≤ b₀.unresolvedAfter k := by
  apply List.countP_mono_left
  intro t _
  simp only [decide_eq_true_iff]
  exact lt_of_le_of_lt (Nat.cast_le.2 h)

theorem Settled.length_failed {b₀ b : Batch} {j : Nat} (h : Settled b₀ j b)
    : b.failed.length = b₀.unresolvedAfter j := by
  rw [h.failed_perm.length_eq, List.length_map]
  unfold unresolvedAfter
  rw [List.countP_eq_length_filter]

/--
The milestones of a batch that began as `b₀` and is between two calls after `j` retries: each retry
was offered with the number of tickets that still failed.
-/
structure Chronicled (b₀ : Batch) (j : Nat) (dismissed : Bool) (b : Batch) : Prop where
  milestones : b.board.milestones =
    (List.range j).flatMap (fun k => [.passBegun, .retryOffered (b₀.unresolvedAfter k)]) ++
      ((if b₀.pending = [] then [] else [.passBegun]) ++
        ((if dismissed then [.retryOffered (b₀.unresolvedAfter j)] else []) ++
          b.state.announcement b.summary))
  positive : ∀ k < j + dismissed.toNat, 0 < b₀.unresolvedAfter k

section Calls

variable (d : Discipline) {b₀ b : Batch} {j : Nat} {dismissed : Bool}

theorem Chronicled.say (h : Chronicled b₀ j dismissed b) (text : String) (severity : Severity)
    : Chronicled b₀ j dismissed (b.say text severity) where
  milestones := (Board.milestones_tellChanges _ _).trans h.milestones
  positive := h.positive

theorem Fresh.chronicled_run (h : Fresh b₀ b) (hm : b.board.milestones = [])
    : Chronicled b₀ 0 false (b.run d).2 := by
  refine ⟨?_, by simp⟩
  have hidle : b.gate.state = .idle := by rw [h.gate]
  by_cases hpending : b.pending.length = 0
  . rw [run_eq_of_nil d hidle hpending rfl]
    have hnil : b₀.pending = [] := by
      rw [← h.pending]
      exact List.length_eq_zero_iff.1 hpending
    apply (milestones_announceAll (Gate.apply_start_zero hidle) ?_ ?_).trans
    . rw [if_pos hnil]
      exact congrArg (· ++ _) hm
    . simp
    . exact h.inStep.heard
  . have hprimed := h.primed { b.gate with state := .running 0 b.pending.length }
    have hne : b.pending ≠ [] := mt List.length_eq_zero_iff.2 hpending
    rcases perform_pass d hprimed rfl s!"Starting {b.pending.length} tasks" false
      with ⟨-, b', hperform, -, -, -⟩
    have hmilestones := milestones_perform d hprimed hne rfl hperform
    rw [run_eq d hidle (Nat.pos_of_ne_zero hpending) hperform]
    refine hmilestones.trans ?_
    rw [if_neg (h.pending ▸ hne)]
    exact congrArg (· ++ _) hm

theorem Paused.pending_ne_nil (hp : Paused b₀ j dismissed b) (ho : Offers b₀ j dismissed b)
    : b₀.pending ≠ [] := by
  have hpos := ho.1
  rw [hp.length_failed] at hpos
  rintro hnil
  simp [unresolvedAfter, hnil] at hpos

theorem Chronicled.milestones_of_offers (h : Chronicled b₀ j false b)
    (hp : Paused b₀ j false b) (ho : Offers b₀ j false b)
    : b.board.milestones = (List.range (j + 1)).flatMap fun k =>
        [.passBegun, .retryOffered (b₀.unresolvedAfter k)] := by
  have hstate : b.state = .awaitingRetry j (b₀.unresolvedAfter j) := by
    rw [← hp.length_failed]
    exact hp.state_of_offers ho
  rw [h.milestones, if_neg (hp.pending_ne_nil ho), hstate, List.range_succ, List.flatMap_append]
  rfl

theorem Chronicled.positive_of_offers (h : Chronicled b₀ j false b)
    (hp : Paused b₀ j false b) (ho : Offers b₀ j false b) {k : Nat} (hk : k < j + 1)
    : 0 < b₀.unresolvedAfter k := by
  cases Nat.lt_succ_iff_lt_or_eq.1 hk with
  | inl hlt => exact h.positive k hlt
  | inr heq =>
    rw [heq, ← hp.length_failed]
    exact ho.1

theorem Chronicled.retry (h : Chronicled b₀ j false b) (hp : Paused b₀ j false b)
    (ho : Offers b₀ j false b) : Chronicled b₀ (j + 1) false (b.retry d).2 := by
  have hstate := hp.state_of_offers ho
  have hbefore := h.milestones_of_offers hp ho
  have hprimed := hp.primed_again { b.gate with state := .running (j + 1) b.failed.length }
  have hpending : (b.again { b.gate with state := .running (j + 1) b.failed.length }).pending ≠
      [] := by
    have hpos := ho.1
    rw [List.length_pos_iff] at hpos
    exact mt List.map_eq_nil_iff.1 hpos
  rcases perform_pass d hprimed rfl s!"Retrying {b.failed.length} failed tasks" true
    with ⟨-, b', hperform, -, -, -⟩
  have hmilestones := milestones_perform d hprimed hpending rfl hperform
  refine ⟨?_, fun k hk => h.positive_of_offers hp ho hk⟩
  rw [retry_eq d hstate hperform]
  have hagain : (b.again { b.gate with state := .running (j + 1) b.failed.length }).board.milestones
      = b.board.milestones :=
    (Board.milestones_takeFailed _).trans (Board.milestones_clearNotices _)
  have hne : b₀.pending ≠ [] := hp.pending_ne_nil ho
  rw [hagain, hbefore] at hmilestones
  rw [if_neg hne]
  exact hmilestones

theorem Chronicled.finish (h : Chronicled b₀ j false b) (hp : Paused b₀ j false b)
    (ho : Offers b₀ j false b) : Chronicled b₀ j true (b.finish d).2 := by
  have hstate := hp.state_of_offers ho
  have hbefore := h.milestones_of_offers hp ho
  refine ⟨?_, fun k hk => h.positive_of_offers hp ho hk⟩
  rw [finish_eq d hstate rfl]
  apply (milestones_announceAll (Gate.apply_dismissed hstate) ?_ ?_).trans
  . refine (congrArg (· ++ _) hbefore).trans ?_
    rw [if_neg (hp.pending_ne_nil ho), List.range_succ, List.flatMap_append, List.append_assoc]
    rfl
  . simp
  . exact hp.inStep.heard

end Calls

/--
What the events of a batch say about it as a whole: offers of retries for ever fewer tickets, then
perhaps its end, which follows at once if the retries are exhausted.
-/
structure Announced (budget : Nat) (b : Batch) : Prop where
  form : ∃ (offers : List Nat) (exhausted : Option Nat) (finished : Option Summary),
    b.board.told.filter (·.concernsBatch) = offers.map .retryOffered ++
      (exhausted.toList.map .retriesExhausted ++ finished.toList.map .batchFinished) ∧
    (exhausted.isSome → finished.isSome) ∧ offers.length ≤ budget ∧
    (∀ failed ∈ offers ++ exhausted.toList, 0 < failed) ∧
    (offers ++ exhausted.toList).Pairwise (· ≥ ·)
  finished : ∀ summary, .batchFinished summary ∈ b.board.told ↔
    (∃ unresolved exhausted, b.state = .finished unresolved exhausted) ∧ summary = b.summary
  exhausted : (∃ failed, .retriesExhausted failed ∈ b.board.told) ↔
    b.gate.showsExhaustedBanner = true
  offered : b.gate.showsRetryButton = true ↔
    ∃ xs failed ys, b.board.told = xs ++ .retryOffered failed :: ys ∧
      ∀ e ∈ ys, e.opensPass = false ∧ ∀ summary, e ≠ .batchFinished summary

section Announced

variable {b₀ b : Batch} {j : Nat} {dismissed : Bool}

theorem pairwise_unresolvedAfter (b₀ : Batch) (n : Nat)
    : ((List.range n).map b₀.unresolvedAfter).Pairwise (· ≥ ·) := by
  rw [List.pairwise_map]
  apply List.pairwise_lt_range.imp
  intro k k' hlt
  exact b₀.unresolvedAfter_antitone (Nat.le_of_lt hlt)

theorem Chronicled.filter_told (h : Chronicled b₀ j dismissed b)
    : b.board.told.filter (·.concernsBatch) =
        ((List.range (j + dismissed.toNat)).map b₀.unresolvedAfter).map .retryOffered ++
          (b.state.announcement b.summary).filterMap Milestone.event? := by
  have hoffers : ((List.range j).flatMap fun k => [.passBegun, .retryOffered
      (b₀.unresolvedAfter k)]).filterMap Milestone.event? =
        ((List.range j).map b₀.unresolvedAfter).map .retryOffered := by
    induction List.range j with
    | nil => rfl
    | cons k ks ih =>
      rw [List.flatMap_cons, List.filterMap_append, ih]
      rfl
  have hbegun : (if b₀.pending = [] then [] else [Milestone.passBegun]).filterMap Milestone.event? =
      [] := by
    split <;> rfl
  rw [Board.filter_told, h.milestones, List.filterMap_append, List.filterMap_append,
    List.filterMap_append, hoffers, hbegun]
  cases dismissed with
  | false => rfl
  | true => simp [Milestone.event?, List.range_succ]

theorem Chronicled.mem_told_iff (h : Chronicled b₀ j dismissed b) {e : Event}
    (he : e.concernsBatch = true) (hne : ∀ failed, e ≠ .retryOffered failed)
    : e ∈ b.board.told ↔ e ∈ (b.state.announcement b.summary).filterMap Milestone.event? := by
  have hmem : e ∈ b.board.told ↔ e ∈ b.board.told.filter (·.concernsBatch) := by
    rw [List.mem_filter, and_iff_left he]
  rw [hmem, h.filter_told, List.mem_append, or_iff_right]
  intro hoffer
  rcases List.mem_map.1 hoffer with ⟨failed, -, heq⟩
  exact hne failed heq.symm

theorem Paused.answered_le (h : Paused b₀ j dismissed b)
    : j + dismissed.toNat ≤ b₀.options.retryBudget := by
  have hle := h.le_budget
  have hlt := h.in_time
  cases dismissed with
  | false => exact hle
  | true => exact hlt rfl

theorem Paused.state_cases (h : Paused b₀ j dismissed b)
    : (b.state = .awaitingRetry j b.failed.length ∧ Offers b₀ j dismissed b) ∨
        ∃ exhausted, b.state = .finished b.failed.length exhausted := by
  by_cases ho : Offers b₀ j dismissed b
  . exact .inl ⟨h.state_of_offers ho, ho⟩
  . exact .inr (h.state_of_not_offers ho)

theorem form_of_numbers {n budget : Nat} (offers : List Nat) (exhausted : Option Nat)
    (finished : Option Summary)
    (htold : b.board.told.filter (·.concernsBatch) = offers.map .retryOffered ++
      (exhausted.toList.map .retriesExhausted ++ finished.toList.map .batchFinished))
    (hended : exhausted.isSome → finished.isSome) (hlength : offers.length ≤ budget)
    (hnumbers : offers ++ exhausted.toList = (List.range n).map b₀.unresolvedAfter)
    (hpositive : ∀ k < n, 0 < b₀.unresolvedAfter k)
    : ∃ (offers : List Nat) (exhausted : Option Nat) (finished : Option Summary),
        b.board.told.filter (·.concernsBatch) = offers.map .retryOffered ++
          (exhausted.toList.map .retriesExhausted ++ finished.toList.map .batchFinished) ∧
        (exhausted.isSome → finished.isSome) ∧ offers.length ≤ budget ∧
        (∀ failed ∈ offers ++ exhausted.toList, 0 < failed) ∧
        (offers ++ exhausted.toList).Pairwise (· ≥ ·) := by
  refine ⟨offers, exhausted, finished, htold, hended, hlength, ?_, ?_⟩
  . intro failed hmem
    rw [hnumbers] at hmem
    rcases List.mem_map.1 hmem with ⟨k, hk, rfl⟩
    exact hpositive k (List.mem_range.1 hk)
  . rw [hnumbers]
    apply pairwise_unresolvedAfter

theorem Paused.dismissed_of_exhausted (h : Paused b₀ j dismissed b) {unresolved : Nat}
    (hstate : b.state = .finished unresolved true) : 0 < unresolved ∧ dismissed = false := by
  have hspent := (h.finished hstate).2.1 rfl
  have hanswered := h.answered_le
  refine ⟨hspent.1, ?_⟩
  cases dismissed with
  | false => rfl
  | true =>
    simp only [Bool.toNat_true] at hanswered
    omega

theorem Paused.form (h : Paused b₀ j dismissed b) (hc : Chronicled b₀ j dismissed b)
    : ∃ (offers : List Nat) (exhausted : Option Nat) (finished : Option Summary),
        b.board.told.filter (·.concernsBatch) = offers.map .retryOffered ++
          (exhausted.toList.map .retriesExhausted ++ finished.toList.map .batchFinished) ∧
        (exhausted.isSome → finished.isSome) ∧ offers.length ≤ b₀.options.retryBudget ∧
        (∀ failed ∈ offers ++ exhausted.toList, 0 < failed) ∧
        (offers ++ exhausted.toList).Pairwise (· ≥ ·) := by
  have hlength := h.length_failed
  have htold := hc.filter_told
  have hanswered : ((List.range (j + dismissed.toNat)).map b₀.unresolvedAfter).length ≤
      b₀.options.retryBudget := by
    rw [List.length_map, List.length_range]
    exact h.answered_le
  rcases h.state_cases with ⟨hstate, ho⟩ | ⟨exhausted, hstate⟩
  . -- the offer that stands comes after those that were answered
    cases ho.2.2
    rw [hstate, hlength] at htold
    apply form_of_numbers (n := j + 1) ((List.range (j + 1)).map b₀.unresolvedAfter) none none
    . rw [htold, List.range_succ, List.map_append, List.map_append, List.append_assoc]
      rfl
    . simp
    . rw [List.length_map, List.length_range]
      exact ho.2.1
    . exact List.append_nil _
    . exact fun k hk => hc.positive_of_offers h ho hk
  . rw [hstate] at htold
    cases exhausted with
    | false =>
      exact form_of_numbers _ none (some b.summary) htold (by simp) hanswered (List.append_nil _)
        hc.positive
    | true =>
      -- the last failures are announced like one more offer
      rcases h.dismissed_of_exhausted hstate with ⟨hpos, rfl⟩
      apply form_of_numbers (n := j + 1) _ (some b.failed.length) (some b.summary) htold (by simp)
        hanswered
      . rw [hlength, List.range_succ, List.map_append]
        rfl
      . intro k hk
        cases Nat.lt_succ_iff_lt_or_eq.1 hk with
        | inl hlt => exact hc.positive k hlt
        | inr heq =>
          rw [heq, ← hlength]
          exact hpos

theorem Paused.offered (h : Paused b₀ j dismissed b) (hc : Chronicled b₀ j dismissed b)
    : b.gate.showsRetryButton = true ↔
        ∃ xs failed ys, b.board.told = xs ++ .retryOffered failed :: ys ∧
          ∀ e ∈ ys, e.opensPass = false ∧ ∀ summary, e ≠ .batchFinished summary := by
  have hmilestones := hc.milestones
  rw [← List.append_assoc, ← List.append_assoc] at hmilestones
  unfold Gate.showsRetryButton
  rcases h.state_cases with ⟨hstate, -⟩ | ⟨exhausted, hstate⟩
  . rw [hstate] at hmilestones
    rcases Board.exists_told_of_milestones hmilestones rfl with ⟨xs, ys, htold, hys⟩
    unfold state at hstate
    rw [hstate]
    refine iff_of_true rfl ⟨xs, _, ys, htold, ?_⟩
    intro e he
    have hnone := hys e he
    constructor
    . rw [← Bool.not_eq_true, ← e.milestone?_eq_passBegun_iff, hnone]
      simp
    . rintro summary rfl
      cases hnone
  . -- the end of the batch is its last milestone, so it comes after every offer
    have hlast : b.board.milestones.getLast? = some (.batchFinished b.summary) := by
      rw [hmilestones, hstate]
      cases exhausted <;> simp [Gate.State.announcement]
    unfold state at hstate
    rw [hstate]
    apply iff_of_false Bool.false_ne_true
    rintro ⟨xs, failed, ys, htold, hys⟩
    unfold Board.milestones at hlast
    rw [htold, List.filterMap_append, List.getLast?_append_of_ne_nil _ (by simp [Event.milestone?])]
      at hlast
    cases List.mem_filterMap.1 (List.mem_of_getLast? hlast) with
    | intro e he =>
      have heq := Event.eq_of_milestone?_eq he.2 rfl
      cases List.mem_cons.1 he.1 with
      | inl hoffer =>
        rw [heq] at hoffer
        cases hoffer
      | inr hmem => exact (hys e hmem).2 b.summary heq

theorem Paused.announced (h : Paused b₀ j dismissed b) (hc : Chronicled b₀ j dismissed b)
    : b.Announced b₀.options.retryBudget := by
  constructor
  . exact h.form hc
  . intro summary
    rw [hc.mem_told_iff rfl (by simp)]
    rcases h.state_cases with ⟨hstate, -⟩ | ⟨exhausted, hstate⟩
    . simp [hstate, Gate.State.announcement, Milestone.event?]
    . cases exhausted <;> simp [hstate, Gate.State.announcement, Milestone.event?]
  . have hmem := fun failed => hc.mem_told_iff (e := .retriesExhausted failed) rfl (by simp)
    simp only [hmem]
    unfold Gate.showsExhaustedBanner
    rcases h.state_cases with ⟨hstate, -⟩ | ⟨exhausted, hstate⟩
    . rw [hstate]
      unfold state at hstate
      simp [hstate, Gate.State.announcement, Milestone.event?]
    . rw [hstate]
      unfold state at hstate
      cases exhausted <;> simp [hstate, Gate.State.announcement, Milestone.event?]
  . exact h.offered hc

theorem Fresh.announced (h : Fresh b₀ b) (hm : b.board.milestones = []) (budget : Nat)
    : b.Announced budget := by
  have hstate : b.state = .idle := by
    unfold state
    rw [h.gate]
  have htold : ∀ e ∈ b.board.told, e.milestone? = none := List.filterMap_eq_nil_iff.1 hm
  have hnot : ∀ e : Event, e.milestone? ≠ none → e ∉ b.board.told := fun e he hmem =>
    he (htold e hmem)
  constructor
  . refine ⟨[], none, none, ?_, by simp, Nat.zero_le _, by simp, by simp⟩
    rw [Board.filter_told, hm]
    rfl
  . intro summary
    simp [hnot (.batchFinished summary) (by simp [Event.milestone?]), hstate]
  . unfold Gate.showsExhaustedBanner
    unfold state at hstate
    rw [hstate]
    apply iff_of_false _ Bool.false_ne_true
    rintro ⟨failed, hmem⟩
    exact hnot _ (by simp [Event.milestone?]) hmem
  . unfold Gate.showsRetryButton
    unfold state at hstate
    rw [hstate]
    apply iff_of_false Bool.false_ne_true
    rintro ⟨xs, failed, ys, hsplit, -⟩
    apply hnot (.retryOffered failed) (by simp [Event.milestone?])
    rw [hsplit]
    simp

theorem Chronicled.countP_opensPass (h : Chronicled b₀ j dismissed b)
    : b.board.told.countP (·.opensPass) = if b₀.pending = [] then 0 else j + 1 := by
  have hearlier : ((List.range j).flatMap fun k => [Milestone.passBegun, .retryOffered
      (b₀.unresolvedAfter k)]).count .passBegun = j := by
    clear h
    induction j with
    | zero => rfl
    | succ j ih => simp [List.range_succ, ih]
  have hlast : (b.state.announcement b.summary).count .passBegun = 0 := by
    unfold Gate.State.announcement
    split <;> simp
  have hanswered : (if dismissed then [Milestone.retryOffered (b₀.unresolvedAfter j)] else []).count
      .passBegun = 0 := by
    split <;> simp
  rw [Board.countP_opensPass, h.milestones, List.count_append, List.count_append,
    List.count_append, hearlier, hlast, hanswered]
  split
  . next hnil =>
    -- without tickets no retry is ever offered
    have hnone : ¬0 < j := by
      intro hpos
      have := h.positive 0 (by omega)
      simp [unresolvedAfter, hnil] at this
    simp
    omega
  . rfl

end Announced

end Batch

namespace Session

open Batch

/-- What a session has announced whose batch began as `b₀`, before and after its first run. -/
inductive Heralded (b₀ : Batch) (s : Session) : Prop where
  | fresh (runs : s.runs = 0) (retries : s.retries = 0) (milestones : s.batch.board.milestones = [])
  | paused (runs : s.runs = 1) (batch : Chronicled b₀ s.retries (0 < s.finishes) s.batch)

variable {b₀ : Batch} {s : Session} {r : Request}

theorem Heralded.of_refuses (h : s.Heralded b₀) (hr : s.batch.Refuses r)
    : (s.call r).Heralded b₀ := by
  have haccepted := accepted_of_refuses hr
  cases h with
  | fresh hruns hretries hm =>
    apply fresh ((haccepted _).trans hruns) ((haccepted _).trans hretries)
    rw [batch_of_refuses hr]
    exact hm
  | paused hruns hc =>
    apply paused ((haccepted _).trans hruns)
    unfold retries finishes
    rw [batch_of_refuses hr, haccepted, haccepted]
    exact hc

theorem Heralded.say (h : s.Heralded b₀) (text : String) (severity : Severity)
    : (s.call (.say text severity)).Heralded b₀ := by
  have haccepted : ∀ kind : Request → Bool, kind (.say text severity) = false →
      (s.call (.say text severity)).accepted kind = s.accepted kind := fun _ => accepted_of_kind
  cases h with
  | fresh hruns hretries hm =>
    apply fresh ((haccepted _ rfl).trans hruns) ((haccepted _ rfl).trans hretries)
    exact (Board.milestones_tellChanges _ _).trans hm
  | paused hruns hc =>
    apply paused ((haccepted _ rfl).trans hruns)
    unfold retries finishes
    rw [haccepted _ rfl, haccepted _ rfl]
    exact hc.say text severity

theorem Heralded.chronicled (h : s.Heralded b₀) (hruns : s.runs = 1) (hfinishes : s.finishes = 0)
    : Chronicled b₀ s.retries false s.batch := by
  cases h with
  | fresh hzero _ _ => omega
  | paused _ hc =>
    rw [hfinishes] at hc
    exact hc

theorem Heralded.call (h : s.Heralded b₀) (hs : s.Stands b₀) (r : Request)
    : (s.call r).Heralded b₀ := by
  cases hs.granted r with
  | inl hrefuses => exact h.of_refuses hrefuses
  | inr hgranted =>
    cases hgranted with
    | run d hruns hretries hfinishes hfresh =>
      have haccepted := accepted_run d hruns hfresh
      apply paused haccepted.1
      rw [haccepted.2.1, haccepted.2.2, hretries, hfinishes]
      cases h with
      | fresh _ _ hm => exact hfresh.chronicled_run d hm
      | paused hone _ => omega
    | retry d hruns hfinishes hpaused ho =>
      have haccepted := accepted_retry d hpaused ho
      apply paused (haccepted.1.trans hruns)
      rw [haccepted.2.1, haccepted.2.2, hfinishes]
      exact (h.chronicled hruns hfinishes).retry d hpaused ho
    | finish d hruns hfinishes hpaused ho =>
      have haccepted := accepted_finish d hpaused ho
      apply paused (haccepted.1.trans hruns)
      rw [haccepted.2.1, haccepted.2.2, decide_eq_true (Nat.succ_pos s.finishes)]
      exact (h.chronicled hruns hfinishes).finish d hpaused ho
    | say text severity => exact h.say text severity

theorem heralded_ofCalls (h : Fresh b₀ b₀) (hm : b₀.board.milestones = [])
    (requests : List Request) : (ofCalls b₀ requests).Heralded b₀ := by
  induction requests using List.reverseRecOn with
  | nil => exact .fresh rfl rfl hm
  | append_singleton requests r ih =>
    rw [ofCalls_append]
    exact ih.call (stands_ofCalls h requests).1 r

theorem Stands.frozen (hs : s.Stands b₀) {unresolved : Nat} {exhausted : Bool}
    (hstate : s.batch.state = .finished unresolved exhausted) (r : Request)
    : (s.call r).batch.state = s.batch.state ∧ (s.call r).batch.summary = s.batch.summary := by
  cases hs.granted r with
  | inl hrefuses =>
    rw [batch_of_refuses hrefuses]
    exact ⟨rfl, rfl⟩
  | inr hgranted =>
    cases hgranted with
    | run d _ _ _ hfresh =>
      unfold state at hstate
      rw [hfresh.gate] at hstate
      cases hstate
    | retry d _ _ hpaused ho => cases (hpaused.state_of_offers ho).symm.trans hstate
    | finish d _ _ hpaused ho => cases (hpaused.state_of_offers ho).symm.trans hstate
    | say text severity => exact ⟨rfl, rfl⟩

theorem summary_append (h : Fresh b₀ b₀) (requests more : List Request) {unresolved : Nat}
    {exhausted : Bool}
    (hstate : (ofCalls b₀ requests).batch.state = .finished unresolved exhausted)
    : (ofCalls b₀ (requests ++ more)).batch.state = .finished unresolved exhausted ∧
        (ofCalls b₀ (requests ++ more)).batch.summary = (ofCalls b₀ requests).batch.summary := by
  induction more using List.reverseRecOn with
  | nil =>
    rw [List.append_nil]
    exact ⟨hstate, rfl⟩
  | append_singleton more r ih =>
    have hfrozen := (stands_ofCalls h (requests ++ more)).1.frozen ih.1 r
    rw [← List.append_assoc, ofCalls_append]
    exact ⟨hfrozen.1.trans ih.1, hfrozen.2.trans ih.2⟩

theorem Stands.told_finish (hs : s.Stands b₀) {d : Discipline} {summary : Summary}
    (hfinish : (s.batch.finish d).1 = .ok summary)
    : (s.batch.finish d).2.board.told = s.batch.board.told ++ [.batchFinished summary] := by
  cases hs.granted (.finish d) with
  | inl hrefuses =>
    rcases hrefuses with ⟨rejection, hserve⟩
    have herror := congrArg Prod.fst hserve
    change (s.batch.finish d).1.map _ = _ at herror
    rw [hfinish] at herror
    cases herror
  | inr hgranted =>
    cases hgranted with
    | finish _ _ _ hpaused ho =>
      have heq := finish_eq d (hpaused.state_of_offers ho) rfl
      rw [heq] at hfinish
      rw [heq]
      cases hfinish
      exact (Stream.told_tell _ _).trans (if_pos hpaused.inStep.heard)

end Session

namespace Batch

/--
The law of the events about a whole batch, whatever is asked of it: they have the form of a batch
that ends at most once, the state of the gate tells which of them there are, and the summary in the
last of them stays what the batch shows.
-/
theorem announced_ofCalls {id : BatchId} {options : Options} {tasks : List Task}
    {channel : Option String} {clock : Nat → Instant} {b₀ : Batch}
    (hnew : Batch.new id options tasks channel clock = .ok b₀) (requests : List Request)
    : let s := Session.ofCalls b₀ requests
      s.batch.Announced options.retryBudget ∧
      (s.batch.board.told.countP (·.opensPass) =
        if ticketsFor options.target tasks = [] then 0 else s.runs + s.retries) ∧
      (∀ more summary, .batchFinished summary ∈ s.batch.board.told →
        (Session.ofCalls b₀ (requests ++ more)).batch.summary = summary) ∧
      (∀ d summary, (s.batch.finish d).1 = .ok summary →
        (s.batch.finish d).2.board.told = s.batch.board.told ++ [.batchFinished summary]) := by
  intro s
  have hfresh := fresh_new hnew
  have hstands : s.Stands b₀ := (Session.stands_ofCalls hfresh requests).1
  have hb₀ : b₀.board.milestones = [] ∧ b₀.pending = ticketsFor options.target tasks ∧
      b₀.options = options := by
    rcases eq_of_new hnew with ⟨slots, rfl⟩
    exact ⟨rfl, rfl, rfl⟩
  have hheralded : s.Heralded b₀ := Session.heralded_ofCalls hfresh hb₀.1 requests
  have hannounced : s.batch.Announced options.retryBudget := by
    cases hstands with
    | fresh hruns _ _ hbatch =>
      cases hheralded with
      | fresh _ _ hm => exact hbatch.announced hm _
      | paused hone _ => omega
    | paused hruns hpaused =>
      cases hheralded with
      | fresh hzero _ _ => omega
      | paused _ hc =>
        rw [← hb₀.2.2]
        exact hpaused.announced hc
  refine ⟨hannounced, ?_, ?_, ?_⟩
  . rw [← hb₀.2.1]
    cases hheralded with
    | fresh hruns hretries hm =>
      rw [Board.countP_opensPass, hm, hruns, hretries]
      simp
    | paused hruns hc =>
      rw [hc.countP_opensPass, hruns, Nat.add_comm]
  . intro more summary hmem
    rcases (hannounced.finished summary).1 hmem with ⟨⟨unresolved, exhausted, hstate⟩, rfl⟩
    exact (Session.summary_append hfresh requests more hstate).2
  . intro d summary hfinish
    exact hstands.told_finish hfinish

theorem announced_sample
    : let s := Session.ofCalls sample [.run .queued]
      s.batch.Announced 1 ∧ s.batch.board.told.countP (·.opensPass) = 1 := by
  intro s
  have hrun := (fresh_new new_sample).serve_run .queued
  have hruns : s.runs = 1 := Session.accepted_of_ok rfl hrun.1
  have hretries : s.retries = 0 := Session.accepted_of_kind rfl
  have hannounced := announced_ofCalls new_sample [.run .queued]
  refine ⟨hannounced.1, hannounced.2.1.trans ?_⟩
  rw [if_neg (by simp [ticketsFor, Ticket.admitAll, Target.isRemote]), hruns, hretries]

end Batch

end SetupBatch
