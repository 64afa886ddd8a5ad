import Mathlib.Algebra.BigOperators.Group.List.Basic
import SetupBatch.Proofs.Deeds

/-!
This module contains the transcript of a batch: whatever is asked of it, the lines of its feed are
those of its deeds, and its deeds are the attempts at its tasks and the lines that were added.
-/

namespace SetupBatch

theorem Board.Quiet.record {b b' : Board} (h : b.Quiet b') : b'.record = b.record := by
  unfold Board.record
  rw [h.feed]

namespace Ticket

variable (crew : Crew) (t : Ticket)

theorem deedsAt_mul_callsFor (n : Nat)
    : t.deedsAt crew (crew.callsFor t.profile * n + 1) = t.deedsAt crew (n + 1) := by
  unfold deedsAt
  rw [attemptAt_mul_callsFor, outcomeAt_mul_callsFor]

theorem countP_deedsAt (k : Nat) : (t.deedsAt crew k).countP (! ·.isAddition) = 1 := by
  have hnone : ((t.attemptAt crew k).effects.filterMap (·.deed? t.index)).countP
      (! ·.isAddition) = 0 := by
    rw [List.countP_eq_zero]
    intro d hd
    rcases List.mem_filterMap.1 hd with ⟨effect, -, heffect⟩
    cases effect <;> cases heffect
    simp [Deed.isAddition]
  unfold deedsAt
  rw [List.countP_append, hnone]
  rfl

end Ticket

namespace Deed

theorem length_flatMap_entries (ds : List Deed)
    : (ds.flatMap (·.entries)).length =
        2 * ds.countP (! ·.isAddition) + ds.countP (·.isAddition) := by
  induction ds with
  | nil => rfl
  | cons d ds ih =>
    rw [List.flatMap_cons, List.length_append, ih]
    cases d <;> simp [entries, isAddition] <;> omega

theorem sum_countP_author {ts : List Ticket} (hindices : (ts.map (·.index)).Nodup) {ds : List Deed}
    (hauthors : ∀ d ∈ ds, ∀ i, d.author = some i → i ∈ ts.map (·.index))
    : (ts.map fun t => (ds.filter (·.author = some t.index)).countP (! ·.isAddition)).sum =
        ds.countP (! ·.isAddition) := by
  simp only [List.countP_filter]
  induction ds with
  | nil => simp
  | cons d ds ih =>
    have hrest := ih fun d' hd' => hauthors d' (List.mem_cons_of_mem _ hd')
    simp only [List.countP_cons]
    rw [List.sum_map_add, hrest, Nat.add_left_cancel_iff]
    cases d with
    | adds author text severity => simp [isAddition]
    | ends u o =>
      have hmem : u.index ∈ ts.map (·.index) := hauthors _ List.mem_cons_self u.index rfl
      have hone := List.sum_map_eq_nsmul_single (l := ts.map (·.index)) u.index
        (fun i => if u.index = i then 1 else 0) fun i hi _ => if_neg hi.symm
      rw [List.count_eq_one_of_mem hindices hmem, List.map_map] at hone
      simpa [isAddition, author, Function.comp_def] using hone

end Deed

namespace Batch

def Request.deeds : Request → List Deed
  | .say text severity => [.adds none text severity]
  | _ => []

def Does (b : Batch) (r : Request) (ds : List Deed) : Prop :=
  match b.pass? r with
  | some p => DoesPhases p.discipline p.batch.opened p.phases ds
  | none => ds = r.deeds

end Batch

namespace Session

open Batch

/--
The lines of a batch tell these deeds in order, and they are the deeds of its attempts and of the
calls on it.
-/
structure Transcribed (b₀ : Batch) (requests : List Request) (ds : List Deed) (b : Batch) :
    Prop where
  record : b.board.record = ds.flatMap (·.entries)
  attempts : ∀ t ∈ b₀.pending, ds.filter (·.author = some t.index) =
    (List.range (b.board.begun t.index)).flatMap fun k => t.deedsAt b₀.crew (k + 1)
  presentation : ds.filter (·.author = none) = requests.flatMap (·.deeds)
  authors : ∀ d ∈ ds, ∀ i, d.author = some i → i ∈ b₀.pending.map (·.index)

/-- These may be the deeds of a session in which all of these calls were made. -/
inductive History (b₀ : Batch) : List Request → List Deed → Prop where
  | nil : History b₀ [] []
  | call {requests : List Request} {r : Request} {xs ys : List Deed} : History b₀ requests xs →
    (ofCalls b₀ requests).batch.Does r ys → History b₀ (requests ++ [r]) (xs ++ ys)

variable {b₀ b₁ : Batch} {s : Session} {requests : List Request} {r : Request} {p : Pass}
  {xs ys : List Deed}

theorem Stands.called_eq (hs : s.Stands b₀) {t : Ticket} (ht : t ∈ b₀.pending)
    : s.batch.shared.called t.index =
        b₀.crew.callsFor t.profile * s.batch.board.begun t.index := by
  cases hs with
  | fresh _ _ _ hfresh => rw [hfresh.called, hfresh.begun, Nat.mul_zero]
  | paused _ hpaused => rw [hpaused.called t ht, hpaused.begun t ht]

theorem Conducts.recounts (h : s.Conducts b₀ r p b₁)
    (hys : DoesPhases p.discipline p.batch.opened p.phases ys)
    : (s.call r).batch.board.record = s.batch.board.record ++ ys.flatMap (·.entries) ∧
        (∀ d ∈ ys, ∃ t ∈ p.batch.pending, d.author = some t.index) ∧
        ∀ t ∈ p.batch.pending, ys.filter (·.author = some t.index) =
          t.deedsAt b₀.crew (s.batch.shared.nextAttempt t.index) := by
  have hperm := phases_perm p.batch.options.target p.retry p.batch.pending
  rcases h.opened with ⟨hcrew, hbefore, hready⟩
  rcases h.worked with ⟨b₂, hphases, hafter⟩
  have hrecounts := (hys.recounts hready hphases).of_perm hperm.symm
  have hnumber : ∀ i, p.batch.opened.shared.nextAttempt i = s.batch.shared.nextAttempt i :=
    fun i => congrArg (· + 1) (Shared.called_congr h.calls i)
  refine ⟨?_, hrecounts.authors, ?_⟩
  . rw [hafter.record, ← hbefore.record]
    exact hrecounts.record
  . intro t ht
    rw [hrecounts.deeds t ht, hcrew, hnumber]

theorem Conducts.filter_deeds (h : s.Conducts b₀ r p b₁) (hs : s.Stands b₀)
    (hys : DoesPhases p.discipline p.batch.opened p.phases ys) {t : Ticket} (ht : t ∈ b₀.pending)
    : ys.filter (·.author = some t.index) = if t.index ∈ p.batch.pending.map (·.index) then
        t.deedsAt b₀.crew (s.batch.board.begun t.index + 1) else [] := by
  rcases h.recounts hys with ⟨-, hauthors, hdeeds⟩
  split
  . next hmem =>
    rcases List.mem_map.1 hmem with ⟨u, hu, heq⟩
    have hut : u = t := hs.atRest.ascending.eq_of_index (h.mem u hu) ht heq
    have hnumber : s.batch.shared.nextAttempt t.index =
        b₀.crew.callsFor t.profile * s.batch.board.begun t.index + 1 :=
      congrArg (· + 1) (hs.called_eq ht)
    rw [hut] at hu
    rw [hdeeds t hu, hnumber, t.deedsAt_mul_callsFor]
  . next hnot =>
    rw [List.filter_eq_nil_iff]
    intro d hd hauthor
    rcases hauthors d hd with ⟨u, hu, heq⟩
    rw [heq, decide_eq_true_iff, Option.some.injEq] at hauthor
    apply hnot
    rw [← hauthor]
    exact List.mem_map_of_mem hu

theorem Transcribed.pass (h : Transcribed b₀ requests xs s.batch) (hs : s.Stands b₀)
    (hp : s.Conducts b₀ r p b₁) (hys : DoesPhases p.discipline p.batch.opened p.phases ys)
    : Transcribed b₀ (requests ++ [r]) (xs ++ ys) (s.call r).batch := by
  rcases hp.recounts hys with ⟨hrecord, hauthors, -⟩
  constructor
  . rw [hrecord, h.record, List.flatMap_append]
  . intro t ht
    rw [List.filter_append, h.attempts t ht, hp.filter_deeds hs hys ht, hp.begun]
    split
    . rw [List.range_succ, List.flatMap_append, List.flatMap_singleton]
    . rw [List.append_nil, Nat.add_zero]
  . have hnone : ys.filter (·.author = none) = [] := by
      rw [List.filter_eq_nil_iff]
      intro d hd
      rcases hauthors d hd with ⟨u, -, heq⟩
      simp [heq]
    have hdeeds : r.deeds = [] := by
      cases r with
      | say text severity => cases hp.pass
      | _ => rfl
    rw [List.filter_append, h.presentation, hnone, List.flatMap_append, List.flatMap_singleton,
      hdeeds]
  . intro d hd i hi
    cases List.mem_append.1 hd with
    | inl hmem => exact h.authors d hmem i hi
    | inr hmem =>
      rcases hauthors d hmem with ⟨u, hu, heq⟩
      rw [heq, Option.some.injEq] at hi
      rw [← hi]
      exact List.mem_map_of_mem (hp.mem u hu)

theorem Transcribed.quiet (h : Transcribed b₀ requests xs s.batch)
    (hr : ∀ text severity, r ≠ .say text severity)
    (hq : s.batch.board.Quiet (s.call r).batch.board)
    : Transcribed b₀ (requests ++ [r]) (xs ++ r.deeds) (s.call r).batch := by
  have hdeeds : r.deeds = [] := by
    cases r with
    | say text severity => exact absurd rfl (hr text severity)
    | _ => rfl
  rw [hdeeds, List.append_nil]
  constructor
  . rw [hq.record, h.record]
  . intro t ht
    rw [hq.begun, h.attempts t ht]
  . rw [List.flatMap_append, List.flatMap_singleton, hdeeds, List.append_nil, h.presentation]
  . exact h.authors

theorem Transcribed.say (h : Transcribed b₀ requests xs s.batch) (hsound : s.batch.board.feed.Sound)
    (text : String) (severity : Severity)
    : Transcribed b₀ (requests ++ [.say text severity]) (xs ++ [.adds none text severity])
        (s.call (.say text severity)).batch := by
  have halike : s.batch.board.Alike (s.call (.say text severity)).batch.board :=
    .say hsound text severity
  constructor
  . refine (Board.record_say hsound text severity).trans ?_
    rw [h.record, List.flatMap_append]
    rfl
  . intro t ht
    rw [List.filter_append, h.attempts t ht, halike.begun]
    simp [Deed.author]
  . rw [List.filter_append, h.presentation, List.flatMap_append]
    rfl
  . intro d hd i hi
    cases List.mem_append.1 hd with
    | inl hmem => exact h.authors d hmem i hi
    | inr hnew =>
      rw [List.mem_singleton.1 hnew] at hi
      cases hi

theorem Transcribed.call (h : Transcribed b₀ requests xs s.batch) (hs : s.Stands b₀)
    (hys : s.batch.Does r ys) : Transcribed b₀ (requests ++ [r]) (xs ++ ys) (s.call r).batch := by
  unfold Batch.Does at hys
  cases hs.course r with
  | pass p b₁ hp =>
    rw [hp.pass] at hys
    exact h.pass hs hp hys
  | quiet hnone hr hq =>
    rw [hnone] at hys
    rw [hys]
    exact h.quiet hr hq
  | say text severity =>
    rw [hys]
    exact h.say hs.atRest.inStep.sound text severity

theorem Stands.exists_does (hs : s.Stands b₀) (r : Request) : ∃ ds, s.batch.Does r ds := by
  unfold Batch.Does
  cases hs.course r with
  | pass p b₁ hp =>
    rw [hp.pass]
    exact exists_doesPhases p.discipline hp.opened.2.2
  | quiet hnone _ _ =>
    rw [hnone]
    exact ⟨_, rfl⟩
  | say text severity => exact ⟨_, rfl⟩

theorem exists_history (h : Fresh b₀ b₀) (requests : List Request)
    : ∃ ds, History b₀ requests ds := by
  induction requests using List.reverseRecOn with
  | nil => exact ⟨[], .nil⟩
  | append_singleton requests r ih =>
    rcases ih with ⟨xs, hxs⟩
    rcases (stands_ofCalls h requests).1.exists_does r with ⟨ys, hys⟩
    exact ⟨xs ++ ys, .call hxs hys⟩

theorem History.transcribed {ds : List Deed} (h : History b₀ requests ds) (hfresh : Fresh b₀ b₀)
    (hrecord : b₀.board.record = [])
    : Transcribed b₀ requests ds (ofCalls b₀ requests).batch := by
  induction h with
  | nil =>
    constructor
    . exact hrecord
    . intro t _
      have hbegun : (ofCalls b₀ []).batch.board.begun t.index = 0 := hfresh.begun t.index
      rw [hbegun]
      rfl
    . rfl
    . simp
  | @call requests r xs ys _ hys ih =>
    rw [ofCalls_append]
    exact ih.call (stands_ofCalls hfresh requests).1 hys

theorem Transcribed.length_record {b₀ b : Batch} {requests : List Request} {ds : List Deed}
    (h : Transcribed b₀ requests ds b) (hpending : Ascending b₀.pending)
    : b.board.record.length =
        2 * (b₀.pending.map fun t => b.board.begun t.index).sum + ds.countP (·.isAddition) := by
  have hattempts : (b₀.pending.map fun t =>
      (ds.filter (·.author = some t.index)).countP (! ·.isAddition)) =
        b₀.pending.map fun t => b.board.begun t.index := by
    apply List.map_congr_left
    intro t ht
    rw [h.attempts t ht, List.countP_flatMap]
    simp [Function.comp_def, Ticket.countP_deedsAt]
  rw [h.record, Deed.length_flatMap_entries, ← hattempts,
    Deed.sum_countP_author hpending.indices h.authors]

end Session

namespace Batch

/--
No line of a batch is lost or doubled. Between two calls all of its lines are settled, and they tell
its deeds in the order in which they were done: two lines next to each other for every attempt, and
one for every line that a task or the presentation has added. The deeds of a task are those of its
attempts, one attempt after the other.
-/
theorem transcribed_ofCalls {id : BatchId} {options : Options} {tasks : List Task}
    {channel : Option String} {clock : Nat → Instant} {b₀ : Batch}
    (hnew : Batch.new id options tasks channel clock = .ok b₀) (requests : List Request)
    : let b := (Session.ofCalls b₀ requests).batch
      (∀ l ∈ b.messages, l.running = false) ∧ (∃ ds, Session.History b₀ requests ds) ∧
      ∀ ds, Session.History b₀ requests ds →
        b.messages.map (·.entry) = ds.flatMap (·.entries) ∧
        (∀ t ∈ b₀.pending, ds.filter (·.author = some t.index) =
          (List.range (b.board.begun t.index)).flatMap fun k => t.deedsAt b₀.crew (k + 1)) ∧
        ds.filter (·.author = none) = requests.flatMap (·.deeds) ∧
        (∀ d ∈ ds, ∀ i, d.author = some i → i ∈ b₀.pending.map (·.index)) ∧
        b.messages.length =
          2 * (b₀.pending.map fun t => b.board.begun t.index).sum + ds.countP (·.isAddition) := by
  intro b
  have hfresh := fresh_new hnew
  have hstands : (Session.ofCalls b₀ requests).Stands b₀ :=
    (Session.stands_ofCalls hfresh requests).1
  have hmessages : b.messages = b.board.feed.settled := by
    have hparts := Feed.settled_append_running b.board.feed
    rw [hstands.atRest.running, List.append_nil] at hparts
    exact hparts.symm
  have hrecord : b.messages.map (·.entry) = b.board.record := by
    rw [hmessages]
    rfl
  refine ⟨?_, Session.exists_history hfresh requests, ?_⟩
  . rw [hmessages]
    exact hstands.atRest.inStep.sound.settled
  . intro ds hds
    have hempty : b₀.board.record = [] := by
      rcases eq_of_new hnew with ⟨slots, rfl⟩
      rfl
    have htranscribed := hds.transcribed hfresh hempty
    have hlength := htranscribed.length_record hfresh.ascending
    rw [← hrecord, List.length_map] at hlength
    exact ⟨hrecord.trans htranscribed.record, htranscribed.attempts, htranscribed.presentation,
      htranscribed.authors, hlength⟩

theorem transcribed_sample
    : let requests : List Request := [.say "hello" .info, .run .queued]
      let b := (Session.ofCalls sample requests).batch
      ∃ ds, Session.History sample requests ds ∧
        b.messages.map (·.entry) = ds.flatMap (·.entries) ∧
        ds.filter (·.author = none) = [.adds none "hello" .info] ∧
        ds.filter (·.author = some 1) = [.ends ⟨1, .flaky, none⟩ .failed] := by
  intro requests b
  have hfresh : Fresh sample (sample.say "hello" .info) :=
    (fresh_new new_sample).alike (.say (fresh_new new_sample).inStep.sound _ _) rfl
  have hpaused : Paused sample 0 false b := (hfresh.serve_run .queued).2
  have hmem : ⟨1, .flaky, none⟩ ∈ sample.pending := List.mem_cons_of_mem _ List.mem_cons_self
  have hbegun : b.board.begun 1 = 1 := hpaused.begun _ hmem
  rcases transcribed_ofCalls new_sample requests with ⟨-, ⟨ds, hds⟩, hall⟩
  rcases hall ds hds with ⟨hmessages, hattempts, hpresentation, -, -⟩
  have hflaky := hattempts _ hmem
  refine ⟨ds, hds, hmessages, hpresentation, ?_⟩
  change ds.filter _ = (List.range (b.board.begun 1)).flatMap _ at hflaky
  rw [hbegun] at hflaky
  exact hflaky

end Batch

end SetupBatch
