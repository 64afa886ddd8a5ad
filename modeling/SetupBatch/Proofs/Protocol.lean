import Mathlib.Data.List.Infix
import SetupBatch.Proofs.Calls
import SetupBatch.Proofs.Gate

/-!
This module contains the protocol of the gate: the words that its accepted events may spell. A batch
starts, goes through rounds of a pass with failures and a retry, and ends with a pass without
failures, with a dismissal, or with the pass after the last retry.
-/

namespace SetupBatch

namespace Gate

def serve (g : Gate) (e : Event) : Except Rejection (List Action) × Gate :=
  match g.apply e with
  | .ok (actions, g') => (.ok actions, g')
  | .error r => (.error r, g)

def rounds (fs : List Nat) : List Event := fs.flatMap fun f => [.passDrained f, .retryRequested]

inductive Word (budget : Nat) : List Event → Prop where
  | empty : Word budget [.start 0]
  | clean {n : Nat} {fs : List Nat} : 0 < n → (∀ f ∈ fs, 0 < f) → fs.length ≤ budget →
      Word budget (.start n :: rounds fs ++ [.passDrained 0])
  | dismissed {n : Nat} {fs : List Nat} {f : Nat} : 0 < n → (∀ f ∈ fs, 0 < f) →
      fs.length < budget → 0 < f →
      Word budget (.start n :: rounds fs ++ [.passDrained f, .dismissed])
  | exhausted {n : Nat} {fs : List Nat} {f : Nat} : 0 < n → (∀ f ∈ fs, 0 < f) →
      fs.length = budget → 0 < f → Word budget (.start n :: rounds fs ++ [.passDrained f])

variable {budget : Nat} {g g' : Gate} {e : Event} {h : List Event}

theorem serve_of_apply {actions : List Action} (h : g.apply e = .ok (actions, g'))
    : g.serve e = (.ok actions, g') := by
  unfold serve
  rw [h]

theorem apply_of_serve {actions : List Action} (h : g.serve e = (.ok actions, g'))
    : g.apply e = .ok (actions, g') := by
  unfold serve at h
  split at h
  . next happly =>
    cases h
    exact happly
  . cases h

theorem serve_of_apply_error {r : Rejection} (h : g.apply e = .error r)
    : g.serve e = (.error r, g) := by
  unfold serve
  rw [h]

theorem atomic_serve : Calls.Atomic serve := by
  intro g e r h
  unfold serve at h ⊢
  split at h
  . cases h
  . rfl

theorem rounds_append (fs fs' : List Nat) : rounds (fs ++ fs') = rounds fs ++ rounds fs' :=
  List.flatMap_append

theorem length_rounds (fs : List Nat) : (rounds fs).length = 2 * fs.length := by
  induction fs with
  | nil => rfl
  | cons f fs ih =>
    have hcons : rounds (f :: fs) = [.passDrained f, .retryRequested] ++ rounds fs :=
      List.flatMap_cons
    rw [hcons, List.length_append, ih, List.length_cons]
    simp only [List.length_cons, List.length_nil]
    omega

theorem count_rounds (fs : List Nat) : (rounds fs).count .retryRequested = fs.length := by
  induction fs with
  | nil => rfl
  | cons f fs ih =>
    have hcons : rounds (f :: fs) = [.passDrained f, .retryRequested] ++ rounds fs :=
      List.flatMap_cons
    rw [hcons, List.count_append, ih, List.length_cons, Nat.add_comm]
    rfl

theorem Word.length_le {w : List Event} (hw : Word budget w) : w.length ≤ 2 * budget + 2 := by
  cases hw with
  | empty =>
    rw [List.length_singleton]
    omega
  | clean _ _ hlength =>
    simp only [List.length_append, List.length_cons, List.length_nil, length_rounds]
    omega
  | dismissed _ _ hlength _ =>
    simp only [List.length_append, List.length_cons, List.length_nil, length_rounds]
    omega
  | exhausted _ _ hlength _ =>
    simp only [List.length_append, List.length_cons, List.length_nil, length_rounds]
    omega

theorem Word.count_le {w : List Event} (hw : Word budget w)
    : w.count .retryRequested ≤ budget := by
  cases hw with
  | empty => exact Nat.zero_le _
  | clean _ _ hlength => simpa [List.count_cons, count_rounds] using hlength
  | dismissed _ _ hlength _ =>
    simpa [List.count_cons, count_rounds] using Nat.le_of_lt hlength
  | exhausted _ _ hlength _ => simp [count_rounds, hlength]

/-!
Every accepted event leads from one state to the next along a word.
-/

/--
The state of a gate that has accepted these events and no others.
-/
inductive Heard (budget : Nat) : List Event → State → Prop where
  | idle : Heard budget [] .idle
  | running {n : Nat} {fs : List Nat} (tasks : Nat) : 0 < n → (∀ f ∈ fs, 0 < f) →
      fs.length ≤ budget → Heard budget (.start n :: rounds fs) (.running fs.length tasks)
  | awaiting {n : Nat} {fs : List Nat} {f : Nat} : 0 < n → (∀ f ∈ fs, 0 < f) →
      fs.length < budget → 0 < f →
      Heard budget (.start n :: rounds fs ++ [.passDrained f]) (.awaitingRetry fs.length f)
  | finished {w : List Event} (unresolved : Nat) (exhausted : Bool) : Word budget w →
      Heard budget w (.finished unresolved exhausted)

theorem Heard.moves {s s' : State} {actions : List Action} (hs : Heard budget h s)
    (hm : Moves budget s e actions s') : Heard budget (h ++ [e]) s' := by
  cases hm with
  | empty =>
    cases hs
    exact .finished 0 false .empty
  | start _ hpos =>
    cases hs
    exact @Heard.running budget _ [] _ hpos (by simp) (Nat.zero_le _)
  | clean =>
    cases hs with
    | running _ hpos hfs hlength => exact .finished 0 false (.clean hpos hfs hlength)
  | exhaust _ _ hspent hfailed =>
    cases hs with
    | running _ hpos hfs hlength =>
      exact .finished _ true (.exhausted hpos hfs (Nat.le_antisymm hlength hspent) hfailed)
  | offer _ _ hleft hfailed =>
    cases hs with
    | running _ hpos hfs hlength => exact .awaiting hpos hfs hleft hfailed
  | retry _ used failed =>
    cases hs with
    | @awaiting n fs _ hpos hfs hlength hfailed =>
      -- the granted retry closes the round that ended with the drained pass
      have hround : .start n :: rounds fs ++ [.passDrained failed] ++ [.retryRequested] =
          .start n :: rounds (fs ++ [failed]) := by
        rw [rounds_append, List.append_assoc]
        rfl
      have hmore : fs.length + 1 = (fs ++ [failed]).length := by simp
      rw [hround, hmore]
      apply Heard.running _ hpos
      . intro k hk
        cases List.mem_append.1 hk with
        | inl hk => exact hfs k hk
        | inr hk =>
          rw [List.mem_singleton.1 hk]
          exact hfailed
      . omega
  | dismiss _ used failed =>
    cases hs with
    | awaiting hpos hfs hlength hfailed =>
      rw [List.append_assoc]
      exact .finished _ false (.dismissed hpos hfs hlength hfailed)

theorem Heard.exists_word {s : State} (hs : Heard budget h s) : ∃ w, Word budget w ∧ h <+: w := by
  cases hs with
  | idle => exact ⟨_, .empty, List.nil_prefix⟩
  | running _ hpos hfs hlength => exact ⟨_, .clean hpos hfs hlength, List.prefix_append _ _⟩
  | awaiting hpos hfs hlength hfailed =>
    refine ⟨_, .dismissed hpos hfs hlength hfailed, ?_⟩
    rw [List.prefix_append_right_inj]
    exact List.prefix_append [_] [_]
  | finished _ _ hword => exact ⟨_, hword, List.prefix_rfl⟩

/-!
The actions that are asked for along the way.
-/

def Event.pass? : Event → Option Bool
  | .start 0 => none
  | .start _ => some false
  | .retryRequested => some true
  | _ => none

def Action.pass? : Action → Option Bool
  | .runPass retry => some retry
  | _ => none

def Action.isExhausted : Action → Bool
  | .announceExhausted _ => true
  | _ => false

structure Issued (h : List Event) (actions : List Action) (g : Gate) : Prop where
  passes : actions.filterMap Action.pass? = h.filterMap Event.pass?
  finishes : actions.count .finishBatch = g.isFinished.toNat
  announces : actions.countP (·.isExhausted) = g.showsExhaustedBanner.toNat

theorem Issued.moves {s s' : State} {actions more : List Action}
    (hi : Issued h actions ⟨budget, s⟩) (hm : Moves budget s e more s')
    : Issued (h ++ [e]) (actions ++ more) ⟨budget, s'⟩ := by
  -- no event is accepted any more by a gate that is through
  have hopen : (⟨budget, s⟩ : Gate).isFinished = false ∧
      (⟨budget, s⟩ : Gate).showsExhaustedBanner = false := by
    cases hm <;> exact ⟨rfl, rfl⟩
  constructor
  . rw [List.filterMap_append, List.filterMap_append, hi.passes]
    congr 1
    cases hm with
    | start _ hpos =>
      rcases Nat.exists_eq_succ_of_ne_zero (Nat.ne_of_gt hpos) with ⟨n, rfl⟩
      rfl
    | _ => rfl
  . rw [List.count_append, hi.finishes, hopen.1]
    cases hm <;> rfl
  . rw [List.countP_append, hi.announces, hopen.2]
    cases hm <;> rfl

theorem heard_issued_run (budget : Nat) (es : List Event)
    : let g := Calls.run serve ⟨budget, .idle⟩ es
      let h := Calls.accepted serve ⟨budget, .idle⟩ es
      g.budget = budget ∧ Heard budget h g.state ∧
        Issued h (Calls.answers serve ⟨budget, .idle⟩ es).flatten g := by
  apply Calls.keeps_record (P := fun rec g => g.budget = budget ∧
    Heard budget (rec.map (·.1)) g.state ∧ Issued (rec.map (·.1)) (rec.map (·.2)).flatten g)
    atomic_serve
  . rintro rec ⟨b, s⟩ e actions ⟨b', s'⟩ ⟨rfl, hheard, hissued⟩ hserve
    rcases moves_of_apply (apply_of_serve hserve) with ⟨rfl, hmoves⟩
    rw [List.map_append, List.map_append, List.flatten_append]
    refine ⟨rfl, hheard.moves hmoves, ?_⟩
    simpa using hissued.moves hmoves
  . exact ⟨rfl, .idle, rfl, rfl, rfl⟩

/-!
Conversely, the gate goes along with every word.
-/

theorem leads_rounds {used tasks : Nat} {fs : List Nat} (hstate : g.state = .running used tasks)
    (hfs : ∀ f ∈ fs, 0 < f) (hleft : used + fs.length ≤ g.budget)
    : ∃ tasks', Calls.Leads serve g (rounds fs)
        { g with state := .running (used + fs.length) tasks' } := by
  induction fs generalizing g used tasks with
  | nil =>
    refine ⟨tasks, ?_⟩
    have hsame : { g with state := .running (used + 0) tasks } = g := by
      rw [Nat.add_zero, ← hstate]
    rw [List.length_nil, hsame]
    exact .nil g
  | cons f fs ih =>
    rw [List.length_cons] at hleft
    have hfailed : 0 < f := hfs f (by simp)
    rcases apply_passDrained hstate f with ⟨actions, hdrained⟩
    have hawaiting : State.paused g.budget used f false = .awaitingRetry used f := by
      unfold State.paused
      simp [Nat.ne_of_gt hfailed, show used < g.budget by omega]
    rw [hawaiting] at hdrained
    have hretry := apply_retryRequested (g := { g with state := .awaitingRetry used f }) rfl
    rcases ih (g := { g with state := .running (used + 1) f }) rfl
      (fun k hk => hfs k (List.mem_cons_of_mem _ hk)) (by dsimp only; omega) with ⟨tasks', hrest⟩
    refine ⟨tasks', ?_⟩
    have hlength : used + 1 + fs.length = used + (fs.length + 1) := by omega
    rw [List.length_cons, ← hlength]
    exact .cons (serve_of_apply hdrained) (.cons (serve_of_apply hretry) hrest)

theorem leads_opening {n : Nat} {fs : List Nat} (hpos : 0 < n) (hfs : ∀ f ∈ fs, 0 < f)
    (hlength : fs.length ≤ budget)
    : ∃ tasks, Calls.Leads serve ⟨budget, .idle⟩ (.start n :: rounds fs)
        ⟨budget, .running fs.length tasks⟩ := by
  have hstart := apply_start (g := ⟨budget, .idle⟩) rfl hpos
  have hleft : 0 + fs.length ≤ budget := by omega
  rcases leads_rounds (g := ⟨budget, .running 0 n⟩) rfl hfs hleft with ⟨tasks, hrounds⟩
  rw [Nat.zero_add] at hrounds
  exact ⟨tasks, .cons (serve_of_apply hstart) hrounds⟩

theorem leads_passDrained (budget used tasks failed : Nat)
    : Calls.Leads serve ⟨budget, .running used tasks⟩ [.passDrained failed]
        ⟨budget, .paused budget used failed false⟩ := by
  rcases apply_passDrained (g := ⟨budget, .running used tasks⟩) rfl failed with ⟨actions, happly⟩
  exact .cons (serve_of_apply happly) (.nil _)

theorem Word.leads {w : List Event} (hw : Word budget w)
    : ∃ g, Calls.Leads serve ⟨budget, .idle⟩ w g ∧ g.isFinished = true := by
  cases hw with
  | empty =>
    have hstart := apply_start_zero (g := ⟨budget, .idle⟩) rfl
    exact ⟨_, .cons (serve_of_apply hstart) (.nil _), rfl⟩
  | clean hpos hfs hlength =>
    rcases leads_opening hpos hfs hlength with ⟨tasks, hopening⟩
    exact ⟨_, hopening.append (leads_passDrained _ _ _ _), rfl⟩
  | @dismissed n fs failed hpos hfs hlength hfailed =>
    rcases leads_opening hpos hfs (Nat.le_of_lt hlength) with ⟨tasks, hopening⟩
    have hdrained := leads_passDrained budget fs.length tasks failed
    have hawaiting : State.paused budget fs.length failed false =
        .awaitingRetry fs.length failed := by
      unfold State.paused
      simp [Nat.ne_of_gt hfailed, hlength]
    rw [hawaiting] at hdrained
    have hdismissed := apply_dismissed (g := ⟨budget, .awaitingRetry fs.length failed⟩) rfl
    have hends := hdrained.append (.cons (serve_of_apply hdismissed) (.nil _))
    exact ⟨_, hopening.append hends, rfl⟩
  | @exhausted n fs failed hpos hfs hlength hfailed =>
    rcases leads_opening hpos hfs (Nat.le_of_eq hlength) with ⟨tasks, hopening⟩
    have hdrained := leads_passDrained budget fs.length tasks failed
    have hspent : State.paused budget fs.length failed false = .finished failed true := by
      unfold State.paused
      simp [Nat.ne_of_gt hfailed, hlength]
    rw [hspent] at hdrained
    exact ⟨_, hopening.append hdrained, rfl⟩

theorem Heard.awaiting_left {used failed : Nat} (hs : Heard budget h (.awaitingRetry used failed))
    : 0 < failed ∧ used < budget := by
  cases hs with
  | awaiting _ _ hlength hfailed => exact ⟨hfailed, hlength⟩

theorem Heard.word_of_isFinished {s : State} (hs : Heard budget h s)
    (hfinished : (⟨budget, s⟩ : Gate).isFinished = true) : Word budget h := by
  cases hs with
  | finished _ _ hword => exact hword
  | _ => cases hfinished

theorem apply_of_isFinished (hg : g.isFinished = true) (e : Event)
    : ∃ r, g.apply e = .error r := by
  cases happly : g.apply e with
  | error r => exact ⟨r, rfl⟩
  | ok r =>
    have hmoves := (moves_of_apply happly).2
    unfold isFinished at hg
    cases hstate : g.state <;> rw [hstate] at hg hmoves
    . cases hg
    . cases hg
    . cases hg
    . cases hmoves

/--
What holds of a gate that has accepted the events `h` and has asked for the actions `issued`.
-/
structure Orderly (budget : Nat) (h : List Event) (issued : List Action) (g : Gate) : Prop where
  refused : ∀ e r, g.apply e = .error r → r.fault.kind = .invalidTransition ∧
    r = ⟨g.state, e⟩ ∧ g.serve e = (.error r, g)
  exists_word : ∃ w, Word budget w ∧ h <+: w
  retries_le : h.count .retryRequested ≤ budget
  length_le : h.length ≤ 2 * budget + 2
  awaiting : ∀ used failed, g.state = .awaitingRetry used failed → 0 < failed ∧ used < budget
  isFinished_iff : g.isFinished = true ↔ Word budget h
  closed : g.isFinished = true → ∀ e, ∃ r, g.apply e = .error r
  issued : Issued h issued g

theorem orderly_run (budget : Nat) (es : List Event)
    : Orderly budget (Calls.accepted serve ⟨budget, .idle⟩ es)
        (Calls.answers serve ⟨budget, .idle⟩ es).flatten
        (Calls.run serve ⟨budget, .idle⟩ es) := by
  rcases heard_issued_run budget es with ⟨hbudget, hheard, hissued⟩
  have hsame := Calls.run_accepted atomic_serve ⟨budget, .idle⟩ es
  generalize Calls.accepted serve ⟨budget, .idle⟩ es = h at *
  generalize Calls.run serve ⟨budget, .idle⟩ es = g at *
  rcases hheard.exists_word with ⟨w, hword, hpre⟩
  constructor
  . intro e r happly
    have herror : r = ⟨g.state, e⟩ := by
      unfold apply at happly
      split at happly
      . cases happly
      . next htransition =>
        cases happly
        exact transition_eq_error htransition
    exact ⟨rfl, herror, serve_of_apply_error happly⟩
  . exact ⟨w, hword, hpre⟩
  . exact Nat.le_trans (hpre.sublist.count_le _) hword.count_le
  . exact Nat.le_trans hpre.length_le hword.length_le
  . intro used failed hstate
    rw [hstate] at hheard
    exact hheard.awaiting_left
  . constructor
    . intro hfinished
      exact hheard.word_of_isFinished hfinished
    . intro hspelled
      rcases hspelled.leads with ⟨g', hleads, hfinished⟩
      rw [← hsame, hleads.run]
      exact hfinished
  . exact fun hfinished => apply_of_isFinished hfinished
  . exact hissued

/--
Whatever events a gate is given, those that it accepts spell the beginning of a word, and each
beginning of a word is accepted as a whole. The gate is through with the batch at the end of a word
and nowhere else.
-/
theorem spells_words (budget : Nat)
    : (∀ es, Orderly budget (Calls.accepted serve ⟨budget, .idle⟩ es)
          (Calls.answers serve ⟨budget, .idle⟩ es).flatten
          (Calls.run serve ⟨budget, .idle⟩ es)) ∧
        ∀ w, Word budget w → ∀ xs, xs <+: w → Calls.accepted serve ⟨budget, .idle⟩ xs = xs := by
  refine ⟨orderly_run budget, ?_⟩
  intro w hword xs hxs
  rcases hword.leads with ⟨g, hleads, -⟩
  exact Calls.accepted_of_isPrefix hleads.accepted hxs

example
    : Calls.accepted serve ⟨1, .idle⟩
        [.dismissed, .start 2, .start 3, .passDrained 2, .passDrained 1, .retryRequested,
          .passDrained 1, .retryRequested] =
      [.start 2, .passDrained 2, .retryRequested, .passDrained 1] := by
  decide

end Gate

end SetupBatch
