import SetupBatch.Proofs.Account

/-!
This module contains the verification of the sets of a tally. They follow from the calls that it has
accepted since its pass began, and let every ticket of the pass start once and report once.
-/

namespace SetupBatch

namespace Tally

def Call.roster? : Call → Option (List Nat)
  | .begin tickets => some (tickets.map (·.index))
  | _ => none

def rosterOf (h : List Call) : List Nat := (h.filterMap Call.roster?).getLast?.getD []

def sinceBegin (h : List Call) : List Call := h.rtakeWhile (! ·.isBegin)

def reportedIn (h : List Call) : List Nat := (reportsOf h).map (·.1.index)

variable {h : List Call} {c : Call} {t t' : Tally}

theorem rosterOf_concat (hc : c.isBegin = false) : rosterOf (h ++ [c]) = rosterOf h := by
  have hroster : c.roster? = none := by
    cases c with
    | begin tickets => cases hc
    | _ => rfl
  unfold rosterOf
  rw [List.filterMap_append, List.filterMap_cons_none hroster, List.filterMap_nil, List.append_nil]

theorem rosterOf_concat_begin (h : List Call) (tickets : List Ticket)
    : rosterOf (h ++ [.begin tickets]) = tickets.map (·.index) := by
  unfold rosterOf
  rw [List.filterMap_append]
  simp [Call.roster?]

theorem sinceBegin_concat (hc : c.isBegin = false)
    : sinceBegin (h ++ [c]) = sinceBegin h ++ [c] := by
  apply List.rtakeWhile_concat_pos
  simp [hc]

theorem sinceBegin_concat_begin (h : List Call) (tickets : List Ticket)
    : sinceBegin (h ++ [.begin tickets]) = [] := by
  apply List.rtakeWhile_concat_neg
  simp [Call.isBegin]

theorem isSuffix_sinceBegin {ys : List Call} (hys : ys <:+ h) (hnone : ∀ c ∈ ys, c.isBegin = false)
    : ys <:+ sinceBegin h := by
  induction h using List.reverseRecOn generalizing ys with
  | nil => exact hys
  | append_singleton h c ih =>
    cases List.suffix_concat_iff.1 hys with
    | inl hnil =>
      rw [hnil]
      exact List.nil_suffix
    | inr hcons =>
      rcases hcons with ⟨zs, rfl, hzs⟩
      rw [sinceBegin_concat (hnone c (by simp))]
      rcases ih hzs fun d hd => hnone d (by simp [hd]) with ⟨ws, hws⟩
      exact ⟨ws, by rw [← hws, List.append_assoc]⟩

theorem reportedIn_append (xs ys : List Call)
    : reportedIn (xs ++ ys) = reportedIn xs ++ reportedIn ys := by
  unfold reportedIn
  rw [reportsOf_append, List.map_append]

structure Attendance (h : List Call) (t : Tally) : Prop where
  mem_admitted : ∀ i, i ∈ t.admitted ↔ i ∈ rosterOf h
  started : t.started.reverse = startsOf (sinceBegin h)
  settled : t.settled.reverse = reportedIn (sinceBegin h)
  nodup_admitted : t.admitted.Nodup
  nodup_started : t.started.Nodup
  nodup_settled : t.settled.Nodup
  started_sub : ∀ i ∈ t.started, i ∈ t.admitted
  settled_sub : ∀ i ∈ t.settled, i ∈ t.started

namespace Attendance

theorem new (retryBudget : Nat) : Attendance [] (Tally.new retryBudget) := by
  constructor <;> simp [Tally.new, rosterOf, sinceBegin, startsOf, reportedIn, reportsOf]

theorem mem_started (ht : Attendance h t) {i : Nat}
    : i ∈ t.started ↔ i ∈ startsOf (sinceBegin h) := by
  rw [← ht.started, List.mem_reverse]

theorem mem_settled (ht : Attendance h t) {i : Nat}
    : i ∈ t.settled ↔ i ∈ reportedIn (sinceBegin h) := by
  rw [← ht.settled, List.mem_reverse]

theorem begin (h : List Call) (t : Tally) (tickets : List Ticket)
    : Attendance (h ++ [.begin tickets]) (t.begin tickets) := by
  constructor
  . intro i
    rw [rosterOf_concat_begin]
    exact List.mem_eraseDups
  . rw [sinceBegin_concat_begin]
    rfl
  . rw [sinceBegin_concat_begin]
    rfl
  . exact nodup_eraseDups _
  . exact List.nodup_nil
  . exact List.nodup_nil
  . simp [Tally.begin]
  . simp [Tally.begin]

theorem start (ht : Attendance h t) {i : Nat} (hs : t.start i = .ok t')
    : Attendance (h ++ [.start i]) t' := by
  rcases start_eq_ok_iff.1 hs with ⟨hadmitted, hstarted, rfl⟩
  have hsince : sinceBegin (h ++ [.start i]) = sinceBegin h ++ [.start i] := sinceBegin_concat rfl
  constructor
  . intro k
    rw [rosterOf_concat rfl]
    exact ht.mem_admitted k
  . rw [hsince, startsOf_append, ← ht.started]
    exact List.reverse_cons
  . rw [hsince, reportedIn, reportsOf_concat rfl]
    exact ht.settled
  . exact ht.nodup_admitted
  . exact List.nodup_cons.2 ⟨hstarted, ht.nodup_started⟩
  . exact ht.nodup_settled
  . intro k hk
    cases List.mem_cons.1 hk with
    | inl heq => rw [heq]; exact hadmitted
    | inr hmem => exact ht.started_sub k hmem
  . intro k hk
    exact List.mem_cons_of_mem _ (ht.settled_sub k hk)

theorem report (ht : Attendance h t) {u : Ticket} {o : Outcome} (hs : t.report u o = .ok t')
    : Attendance (h ++ [.report u o]) t' := by
  rcases report_eq_ok_iff.1 hs with ⟨hstarted, hsettled, rfl⟩
  have hsince : sinceBegin (h ++ [.report u o]) = sinceBegin h ++ [.report u o] :=
    sinceBegin_concat rfl
  constructor
  . intro k
    rw [rosterOf_concat rfl]
    exact ht.mem_admitted k
  . rw [hsince, startsOf_concat rfl]
    exact ht.started
  . rw [hsince, reportedIn_append, ← ht.settled]
    exact List.reverse_cons
  . exact ht.nodup_admitted
  . exact ht.nodup_started
  . exact List.nodup_cons.2 ⟨hsettled, ht.nodup_settled⟩
  . exact ht.started_sub
  . intro k hk
    cases List.mem_cons.1 hk with
    | inl heq => rw [heq]; exact hstarted
    | inr hmem => exact ht.settled_sub k hmem

theorem takeFailed (ht : Attendance h t) : Attendance (h ++ [.takeFailed]) t.takeFailed.2 := by
  have hsince : sinceBegin (h ++ [.takeFailed]) = sinceBegin h ++ [.takeFailed] :=
    sinceBegin_concat rfl
  constructor
  . intro k
    rw [rosterOf_concat rfl]
    exact ht.mem_admitted k
  . rw [hsince, startsOf_concat rfl]
    exact ht.started
  . rw [hsince, reportedIn, reportsOf_concat rfl]
    exact ht.settled
  . exact ht.nodup_admitted
  . exact ht.nodup_started
  . exact ht.nodup_settled
  . exact ht.started_sub
  . exact ht.settled_sub

theorem serve (ht : Attendance h t) {handed : List Ticket} (hs : t.serve c = (.ok handed, t'))
    : Attendance (h ++ [c]) t' := by
  cases c with
  | begin tickets =>
    cases hs
    exact begin h t tickets
  | start i => exact ht.start (answer_eq_ok_iff.1 hs).2
  | report u o => exact ht.report (answer_eq_ok_iff.1 hs).2
  | takeFailed =>
    cases hs
    exact ht.takeFailed

theorem isDrained_iff (ht : Attendance h t)
    : t.isDrained = true ↔ ∀ i ∈ rosterOf h, i ∈ reportedIn (sinceBegin h) := by
  rw [isDrained_iff_of_nodup ht.nodup_admitted ht.nodup_settled
    fun i hi => ht.started_sub i (ht.settled_sub i hi)]
  simp only [ht.mem_admitted, ht.mem_settled]

theorem isOk_start_iff (ht : Attendance h t) (i : Nat)
    : (t.serve (.start i)).1.isOk = true ↔ i ∈ rosterOf h ∧ i ∉ startsOf (sinceBegin h) := by
  rw [← ht.mem_admitted, ← ht.mem_started]
  apply isOk_answer_iff.trans
  constructor
  . rintro ⟨t', hstart⟩
    have := start_eq_ok_iff.1 hstart
    exact ⟨this.1, this.2.1⟩
  . intro hi
    exact exists_start hi.1 hi.2

theorem isOk_report_iff (ht : Attendance h t) (u : Ticket) (o : Outcome)
    : (t.serve (.report u o)).1.isOk = true ↔
        u.index ∈ startsOf (sinceBegin h) ∧ u.index ∉ reportedIn (sinceBegin h) := by
  rw [← ht.mem_started, ← ht.mem_settled]
  apply isOk_answer_iff.trans
  constructor
  . rintro ⟨t', hreport⟩
    have := report_eq_ok_iff.1 hreport
    exact ⟨this.1, this.2.1⟩
  . intro hu
    exact exists_report hu.1 hu.2 o

end Attendance

def Once (h : List Call) : Prop :=
  ∀ ys, ys <:+: h → (∀ c ∈ ys, c.isBegin = false) → (startsOf ys).Nodup ∧ (reportedIn ys).Nodup

theorem Once.concat (hh : Once h) (ht : Attendance (h ++ [c]) t) : Once (h ++ [c]) := by
  intro ys hys hnone
  cases List.infix_concat_iff.1 hys with
  | inl hsuffix =>
    -- what ends with the last call is part of the pass, where the sets tell who was there
    rcases isSuffix_sinceBegin hsuffix hnone with ⟨xs, hxs⟩
    have hstarted := List.nodup_reverse.2 ht.nodup_started
    have hsettled := List.nodup_reverse.2 ht.nodup_settled
    rw [ht.started, ← hxs, startsOf_append, List.nodup_append] at hstarted
    rw [ht.settled, ← hxs, reportedIn_append, List.nodup_append] at hsettled
    exact ⟨hstarted.2.1, hsettled.2.1⟩
  | inr hinfix => exact hh ys hinfix hnone

theorem attendance_once_run (retryBudget : Nat) (cs : List Call)
    : Attendance (Calls.accepted serve (new retryBudget) cs)
          (Calls.run serve (new retryBudget) cs) ∧
        Once (Calls.accepted serve (new retryBudget) cs) := by
  apply Calls.keeps (P := fun h t => Attendance h t ∧ Once h) atomic_serve
  . intro h t c handed t' hh hserve
    have ht' := hh.1.serve hserve
    exact ⟨ht', hh.2.concat ht'⟩
  . refine ⟨.new retryBudget, ?_⟩
    intro ys hys _
    rw [List.infix_nil.1 hys]
    exact ⟨List.nodup_nil, List.nodup_nil⟩

/--
Which calls a tally accepts after a history, and what it may tell from the sizes of its sets.
-/
structure Punctual (h : List Call) (t : Tally) : Prop where
  isOk_start_iff : ∀ i, (t.serve (.start i)).1.isOk = true ↔
    i ∈ rosterOf h ∧ i ∉ startsOf (sinceBegin h)
  isOk_report_iff : ∀ u o, (t.serve (.report u o)).1.isOk = true ↔
    u.index ∈ startsOf (sinceBegin h) ∧ u.index ∉ reportedIn (sinceBegin h)
  refused : ∀ c breach, (t.serve c).1 = .error breach →
    breach.fault.isInvariantViolation = true ∧ t.serve c = (.error breach, t)
  once : Once h
  settled_sub : ∀ i ∈ t.settled, i ∈ t.started
  started_sub : ∀ i ∈ t.started, i ∈ t.admitted
  isDrained_iff : t.isDrained = true ↔ ∀ i ∈ rosterOf h, i ∈ reportedIn (sinceBegin h)

/--
After any calls on a new tally a ticket may start if its pass began with it and it has not started
since, and it may report if it has started and not reported. Whatever else is asked for is a breach,
and changes nothing.
-/
theorem punctual_run (retryBudget : Nat) (cs : List Call)
    : Punctual (Calls.accepted serve (new retryBudget) cs)
        (Calls.run serve (new retryBudget) cs) := by
  have hrun := attendance_once_run retryBudget cs
  constructor
  . exact hrun.1.isOk_start_iff
  . exact hrun.1.isOk_report_iff
  . intro c breach hrefused
    refine ⟨rfl, ?_⟩
    exact Prod.ext hrefused (atomic_serve _ c breach hrefused)
  . exact hrun.2
  . exact hrun.1.settled_sub
  . exact hrun.1.started_sub
  . exact hrun.1.isDrained_iff

example
    : let u : Nat → Ticket := fun i => ⟨i, { profile := default, attempt := fun _ => {} }, none⟩
      let t := Calls.run serve (new 1)
        [.begin [u 4, u 7, u 4], .start 4, .start 4, .report (u 4) .failed, .report (u 7) .failed,
          .takeFailed, .report (u 4) .succeeded, .start 7]
      t.settled = [4] ∧ t.started = [7, 4] ∧ t.isDrained = false ∧
        (Calls.run serve t [.report (u 7) .succeeded]).isDrained = true := by
  decide

end Tally

end SetupBatch
