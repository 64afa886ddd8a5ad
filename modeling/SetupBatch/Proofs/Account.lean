import Mathlib.Data.List.DropRight
import SetupBatch.Proofs.Calls
import SetupBatch.Proofs.Tally

/-!
This module contains the verification of the counters of a tally as an account of the calls that it
has accepted. The calls since the failed tickets were last handed back make up the counters of the
pass; of those before only the successes are left, which are carried.
-/

namespace SetupBatch

namespace Counts

def ended (c : Counts) : Outcome → Nat
  | .succeeded => c.succeeded
  | .needsReboot => c.needsReboot
  | .failed => c.failed

theorem ended_report (c : Counts) (o o' : Outcome)
    : (c.report o).ended o' = c.ended o' + if o = o' then 1 else 0 := by
  cases o <;> cases o' <;> rfl

theorem ended_addSuccesses (c other : Counts) {o : Outcome} (ho : o ≠ .failed)
    : (c.addSuccesses other).ended o = c.ended o + other.ended o := by
  cases o with
  | succeeded => rfl
  | needsReboot => rfl
  | failed => exact absurd rfl ho

theorem isBalanced_iff {c : Counts}
    : c.isBalanced = true ↔ c.completed = c.successes + c.failed := by
  unfold isBalanced
  exact beq_iff_eq

end Counts

namespace Tally

inductive Call where
  | begin (tickets : List Ticket)
  | start (index : Nat)
  | report (ticket : Ticket) (o : Outcome)
  | takeFailed

namespace Call

def isBegin : Call → Bool
  | .begin _ => true
  | _ => false

def isTake : Call → Bool
  | .takeFailed => true
  | _ => false

def started? : Call → Option Nat
  | .start index => some index
  | _ => none

def reported? : Call → Option (Ticket × Outcome)
  | .report ticket o => some (ticket, o)
  | _ => none

end Call

def answer (t : Tally) : Except Breach Tally → Except Breach (List Ticket) × Tally
  | .ok t' => (.ok [], t')
  | .error breach => (.error breach, t)

def serve (t : Tally) : Call → Except Breach (List Ticket) × Tally
  | .begin tickets => (.ok [], t.begin tickets)
  | .start index => t.answer (t.start index)
  | .report ticket o => t.answer (t.report ticket o)
  | .takeFailed => (.ok t.takeFailed.1, t.takeFailed.2)

theorem answer_eq_ok_iff {t t' : Tally} {r : Except Breach Tally} {handed : List Ticket}
    : t.answer r = (.ok handed, t') ↔ handed = [] ∧ r = .ok t' := by
  cases r with
  | ok t'' => simp [answer, eq_comm]
  | error breach => simp [answer]

theorem isOk_answer_iff {t : Tally} {r : Except Breach Tally}
    : (t.answer r).1.isOk = true ↔ ∃ t', r = .ok t' := by
  cases r with
  | ok t' => simp [answer, Except.isOk, Except.toBool]
  | error breach => simp [answer, Except.isOk, Except.toBool]

theorem atomic_serve : Calls.Atomic serve := by
  have hanswer : ∀ (t : Tally) (r : Except Breach Tally) breach,
      (t.answer r).1 = .error breach → (t.answer r).2 = t := by
    intro t r breach h
    cases r with
    | ok t' => cases h
    | error breach' => rfl
  intro t c breach h
  cases c with
  | begin tickets => cases h
  | start index => exact hanswer t _ breach h
  | report ticket o => exact hanswer t _ breach h
  | takeFailed => cases h

/-! What a history says about its tickets, and how it is divided by the calls that hand back. -/

def startsOf (h : List Call) : List Nat := h.filterMap Call.started?

def reportsOf (h : List Call) : List (Ticket × Outcome) := h.filterMap Call.reported?

def endings (o : Outcome) (h : List Call) : Nat := (reportsOf h).countP (·.2 = o)

def failures (h : List Call) : List Ticket :=
  ((reportsOf h).filter (·.2 = .failed)).map fun r => r.1.withOutcome r.2

def sinceTake (h : List Call) : List Call := h.rtakeWhile (! ·.isTake)

def untilTake (h : List Call) : List Call := h.rdropWhile (! ·.isTake)

variable {h : List Call} {c : Call}

theorem startsOf_append (xs ys : List Call) : startsOf (xs ++ ys) = startsOf xs ++ startsOf ys :=
  List.filterMap_append

theorem reportsOf_append (xs ys : List Call)
    : reportsOf (xs ++ ys) = reportsOf xs ++ reportsOf ys :=
  List.filterMap_append

theorem startsOf_concat (hc : c.started? = none) : startsOf (h ++ [c]) = startsOf h := by
  rw [startsOf_append, startsOf, startsOf, List.filterMap_cons_none hc, List.filterMap_nil,
    List.append_nil]

theorem reportsOf_concat (hc : c.reported? = none) : reportsOf (h ++ [c]) = reportsOf h := by
  rw [reportsOf_append, reportsOf, reportsOf, List.filterMap_cons_none hc, List.filterMap_nil,
    List.append_nil]

theorem endings_append (o : Outcome) (xs ys : List Call)
    : endings o (xs ++ ys) = endings o xs + endings o ys := by
  unfold endings
  rw [reportsOf_append, List.countP_append]

theorem failures_append (xs ys : List Call) : failures (xs ++ ys) = failures xs ++ failures ys := by
  unfold failures
  rw [reportsOf_append, List.filter_append, List.map_append]

theorem length_failures (h : List Call) : (failures h).length = endings .failed h := by
  unfold failures endings
  rw [List.length_map, List.countP_eq_length_filter]

theorem untilTake_append_sinceTake (h : List Call) : untilTake h ++ sinceTake h = h :=
  List.rdropWhile_append_rtakeWhile

theorem sinceTake_concat (hc : c.isTake = false) : sinceTake (h ++ [c]) = sinceTake h ++ [c] := by
  apply List.rtakeWhile_concat_pos
  simp [hc]

theorem untilTake_concat (hc : c.isTake = false) : untilTake (h ++ [c]) = untilTake h := by
  apply List.rdropWhile_concat_pos
  simp [hc]

theorem isTake_of_mem_sinceTake (hc : c ∈ sinceTake h) : c.isTake = false := by
  simpa using List.mem_rtakeWhile_imp hc

theorem sinceTake_concat_takeFailed (h : List Call) : sinceTake (h ++ [.takeFailed]) = [] := by
  apply List.rtakeWhile_concat_neg
  simp [Call.isTake]

theorem untilTake_concat_takeFailed (h : List Call)
    : untilTake (h ++ [.takeFailed]) = h ++ [.takeFailed] := by
  apply List.rdropWhile_concat_neg
  simp [Call.isTake]

structure Passed (xs : List Call) (pass : Counts) (failed : List Ticket) : Prop where
  started : pass.started = (startsOf xs).length
  ended : ∀ o, pass.ended o = endings o xs
  balanced : pass.isBalanced = true
  failed : failed = failures xs

structure Carried (xs : List Call) (carried : Counts) (retryCycle : Nat) : Prop where
  ended : ∀ o ≠ .failed, carried.ended o = endings o xs
  failed : carried.failed = 0
  started : carried.started = carried.successes
  completed : carried.completed = carried.successes
  retryCycle : retryCycle = wrap32 (xs.countP (·.isTake))

structure Accounts (h : List Call) (t : Tally) : Prop where
  pass : Passed (sinceTake h) t.standing.pass t.failed
  carried : Carried (untilTake h) t.standing.carried t.standing.retryCycle

section Steps

variable {xs : List Call} {pass carried : Counts} {failed : List Ticket} {retryCycle : Nat}

theorem Passed.nil : Passed [] {} [] := by
  refine ⟨rfl, ?_, rfl, rfl⟩
  intro o
  cases o <;> rfl

theorem Passed.begin (hp : Passed xs pass failed) (tickets : List Ticket)
    : Passed (xs ++ [.begin tickets]) pass failed := by
  constructor
  . rw [startsOf_concat rfl]
    exact hp.started
  . intro o
    rw [endings, reportsOf_concat rfl]
    exact hp.ended o
  . exact hp.balanced
  . rw [failures, reportsOf_concat rfl]
    exact hp.failed

theorem Passed.start (hp : Passed xs pass failed) (i : Nat)
    : Passed (xs ++ [.start i]) { pass with started := pass.started + 1 } failed := by
  constructor
  . rw [startsOf_append, List.length_append, ← hp.started]
    rfl
  . intro o
    rw [endings, reportsOf_concat rfl]
    exact hp.ended o
  . exact hp.balanced
  . rw [failures, reportsOf_concat rfl]
    exact hp.failed

theorem Passed.report (hp : Passed xs pass failed) (u : Ticket) (o : Outcome)
    : Passed (xs ++ [.report u o]) (pass.report o)
        (if o = .failed then failed ++ [u.withOutcome o] else failed) := by
  have hbalanced := Counts.isBalanced_iff.1 hp.balanced
  constructor
  . rw [startsOf_concat rfl, Counts.report_started]
    exact hp.started
  . intro o'
    rw [endings_append, Counts.ended_report, hp.ended o']
    simp [endings, reportsOf, Call.reported?, List.countP_cons]
  . rw [Counts.isBalanced_iff, Counts.report_completed, Counts.report_successes,
      Counts.report_failed]
    split <;> omega
  . rw [failures_append, ← hp.failed]
    split
    . next ho => simp [failures, reportsOf, Call.reported?, ho]
    . next ho => simp [failures, reportsOf, Call.reported?, ho]

theorem Carried.nil : Carried [] {} 0 := by
  refine ⟨?_, rfl, rfl, rfl, rfl⟩
  intro o _
  cases o <;> rfl

theorem Carried.takeFailed {ys : List Call} (hc : Carried xs carried retryCycle)
    (hp : Passed ys pass failed) (hys : ∀ c ∈ ys, c.isTake = false)
    : Carried (xs ++ ys ++ [.takeFailed]) (carried.addSuccesses pass)
        (wrap32 (retryCycle + 1)) := by
  have hstarted := hc.started
  have hcompleted := hc.completed
  constructor
  . intro o ho
    rw [Counts.ended_addSuccesses _ _ ho, hc.ended o ho, hp.ended o, endings_append,
      endings_append]
    rfl
  . exact hc.failed
  . rw [Counts.successes_addSuccesses, ← hstarted]
    rfl
  . rw [Counts.successes_addSuccesses, ← hcompleted]
    rfl
  . have hnone : ys.countP (·.isTake) = 0 := by simpa [List.countP_eq_zero] using hys
    rw [List.countP_append, List.countP_append, hnone, hc.retryCycle, wrap32_wrap32_add]
    rfl

end Steps

namespace Accounts

variable {t t' : Tally}

theorem new (retryBudget : Nat) : Accounts [] (Tally.new retryBudget) := ⟨.nil, .nil⟩

theorem length_failed (ht : Accounts h t)
    : t.failed.length = t.standing.pass.failed := by
  rw [ht.pass.failed, length_failures, ← ht.pass.ended]
  rfl

theorem retryCycle (ht : Accounts h t)
    : t.standing.retryCycle = wrap32 (h.countP (·.isTake)) := by
  have hnone : (sinceTake h).countP (·.isTake) = 0 := by
    rw [List.countP_eq_zero]
    intro c hc
    simp [isTake_of_mem_sinceTake hc]
  have hparts := congrArg (List.countP (·.isTake)) (untilTake_append_sinceTake h)
  rw [List.countP_append, hnone] at hparts
  rw [ht.carried.retryCycle, ← hparts]
  rfl

theorem of_passed (ht : Accounts h t) (hc : c.isTake = false)
    (hpass : Passed (sinceTake h ++ [c]) t'.standing.pass t'.failed)
    (hcarried : t'.standing.carried = t.standing.carried)
    (hcycle : t'.standing.retryCycle = t.standing.retryCycle) : Accounts (h ++ [c]) t' := by
  constructor
  . rw [sinceTake_concat hc]
    exact hpass
  . rw [untilTake_concat hc, hcarried, hcycle]
    exact ht.carried

theorem takeFailed (ht : Accounts h t) : Accounts (h ++ [.takeFailed]) t.takeFailed.2 := by
  constructor
  . rw [sinceTake_concat_takeFailed]
    exact .nil
  . rw [untilTake_concat_takeFailed, ← untilTake_append_sinceTake h]
    exact ht.carried.takeFailed ht.pass fun _ => isTake_of_mem_sinceTake

theorem serve (ht : Accounts h t) {handed : List Ticket}
    (hs : t.serve c = (.ok handed, t')) : Accounts (h ++ [c]) t' := by
  cases c with
  | begin tickets =>
    cases hs
    exact ht.of_passed rfl (ht.pass.begin tickets) rfl rfl
  | start i =>
    rcases start_eq_ok_iff.1 (answer_eq_ok_iff.1 hs).2 with ⟨-, -, rfl⟩
    exact ht.of_passed rfl (ht.pass.start i) rfl rfl
  | report u o =>
    rcases report_eq_ok_iff.1 (answer_eq_ok_iff.1 hs).2 with ⟨-, -, rfl⟩
    exact ht.of_passed rfl (ht.pass.report u o) rfl rfl
  | takeFailed =>
    cases hs
    exact ht.takeFailed

theorem run (retryBudget : Nat) (cs : List Call)
    : Accounts (Calls.accepted Tally.serve (.new retryBudget) cs)
        (Calls.run Tally.serve (.new retryBudget) cs) := by
  apply Calls.keeps atomic_serve _ (new retryBudget) cs
  intro h t c handed t' ht hserve
  exact ht.serve hserve

/-! Under either mode the report balances, and no success is lost from the cumulative one. -/

end Accounts

example
    : let u : Nat → Ticket := fun i => ⟨i, { profile := default, attempt := fun _ => {} }, none⟩
      let t := Calls.run serve (new 1)
        [.begin [u 0, u 1], .start 0, .start 1, .report (u 0) .needsReboot, .report (u 0) .failed,
          .takeFailed, .report (u 1) .failed]
      t.standing.pass = { completed := 1, failed := 1 } ∧
        t.standing.report .cumulative = ⟨1, 2, 0, 1, 1⟩ := by
  decide

end Tally

end SetupBatch
