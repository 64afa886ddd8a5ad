import SetupBatch.Proofs.Columns
import SetupBatch.Proofs.Deeds
import SetupBatch.Proofs.Notices

/-!
This module contains the verification of what refusals leave of a board. A start that is refused
leaves nothing. A report is counted and its notice raised before its line settles: if the tally
refuses it nothing is left, but if no running line has the given id then the count and the notice
stay, and the ticket cannot report again before the next pass.
-/

namespace SetupBatch

def Operation.beginsPass : Operation → Bool
  | .beginPass _ => true
  | _ => false

namespace Board

/--
The board `b'` is `b` after a report that was counted although its line does not run. Its notice is
raised, if it has one, and told; nothing happens to the feed.
-/
structure CountsOnly (b : Board) (t : Ticket) (o : Outcome) (detail : Option String)
    (b' : Board) : Prop where
  tally : b.tally.report t o = .ok b'.tally
  feed : b'.feed = b.feed
  notices : ∃ raised : List Notice,
    raised.map (·.content) = (t.profile.noticeFor o detail).toList ∧
      b'.notices = raised ++ b.notices ∧ b'.told = b.told ++ raised.map .noticeAdded

variable {b b' : Board} {t : Ticket} {line : LineId} {o : Outcome} {detail : Option String}
  {breach : Breach}

theorem CountsOnly.ne (h : b.CountsOnly t o detail b') : b' ≠ b := by
  intro heq
  rcases Tally.report_eq_ok_iff.1 h.tally with ⟨-, hsettled, htally⟩
  rw [heq] at htally
  apply hsettled
  rw [htally]
  exact List.mem_cons_self

theorem countsOnly_raise {tally : Tally} {content : Draft} (hheard : b.stream.heard = true)
    (htally : b.tally.report t o = .ok tally)
    (hnotice : t.profile.noticeFor o detail = some content)
    : b.CountsOnly t o detail (raise { b with tally } content) := by
  refine ⟨htally, rfl, [⟨.raised b.raised, content⟩], ?_, rfl, ?_⟩
  . rw [hnotice]
    rfl
  . show (b.stream.tell _).told = _
    rw [Stream.told_tell, hheard, if_pos rfl]
    rfl

theorem countsOnly_raiseFor {tally : Tally} (hheard : b.stream.heard = true)
    (htally : b.tally.report t o = .ok tally) (detail : Option String)
    : b.CountsOnly t o detail (raiseFor { b with tally } t.profile o detail) := by
  cases o with
  | succeeded => exact ⟨htally, rfl, [], rfl, rfl, (List.append_nil _).symm⟩
  | needsReboot => exact countsOnly_raise hheard htally rfl
  | failed => cases detail <;> exact countsOnly_raise hheard htally rfl

theorem start_refused (h : b.start t = (.error breach, b')) : b' = b := by
  unfold start at h
  split at h
  . cases h
    rfl
  . cases h

theorem finish_of_report_error (h : b.tally.report t o = .error breach) (line : LineId)
    (detail : Option String) : b.finish t line o detail = (.error breach, b) := by
  simp only [finish, h]

theorem finish_of_settle_error {tally : Tally} (htally : b.tally.report t o = .ok tally)
    (hsettle : b.feed.settle line o (t.profile.wording.tell o) = .error breach)
    (detail : Option String)
    : b.finish t line o detail = (.error breach, raiseFor { b with tally } t.profile o detail) := by
  simp only [finish, htally, feed_raiseFor, hsettle]

theorem finish_refused (hb : b.stream.Tells b.feed)
    (h : b.finish t line o detail = (.error breach, b'))
    : (b' = b ∧ b.tally.report t o = .error breach) ∨
        (b.CountsOnly t o detail b' ∧ ∀ l ∈ b.feed.running, l.id ≠ line) := by
  cases htally : b.tally.report t o with
  | error breach' =>
    rw [finish_of_report_error htally] at h
    cases h
    exact .inl ⟨rfl, rfl⟩
  | ok tally =>
    cases hsettle : b.feed.settle line o (t.profile.wording.tell o) with
    | error breach' =>
      rw [finish_of_settle_error htally hsettle] at h
      cases h
      refine .inr ⟨countsOnly_raiseFor hb.heard htally detail, ?_⟩
      -- a line that runs would have settled
      intro l hl hid
      rcases (Feed.settle_eq_ok_iff hb.sound line o (t.profile.wording.tell o)).2 ⟨l, hl, hid⟩
        with ⟨r, hr⟩
      rw [hsettle] at hr
      cases hr
    | ok r =>
      simp only [finish, htally, feed_raiseFor, hsettle, Prod.mk.injEq, reduceCtorEq,
        false_and] at h

theorem finish_of_not_running (hb : b.stream.Tells b.feed) {tally : Tally}
    (htally : b.tally.report t o = .ok tally) (hline : ∀ l ∈ b.feed.running, l.id ≠ line)
    (detail : Option String)
    : ∃ breach b', b.finish t line o detail = (.error breach, b') ∧
        b.CountsOnly t o detail b' := by
  have hsettle := Feed.settle_eq_error hb.sound hline o (t.profile.wording.tell o)
  exact ⟨_, _, finish_of_settle_error htally hsettle detail,
    countsOnly_raiseFor hb.heard htally detail⟩

/-! Whoever has reported has reported until the next pass. -/

def Over (b : Board) (i : Nat) : Prop := i ∈ b.tally.started ∧ i ∈ b.tally.settled

theorem Over.of_tally {i : Nat} (h : b.Over i) (htally : b'.tally = b.tally) : b'.Over i := by
  unfold Over
  rw [htally]
  exact h

theorem Over.report (h : b.Over t.index) (line : LineId) (o : Outcome) (detail : Option String)
    : b.finish t line o detail = (.error (.reportedTwice t.index), b) := by
  apply finish_of_report_error
  unfold Tally.report
  rw [if_neg (not_not.2 h.1), if_pos h.2]

theorem over_of_report {i : Nat} (h : b.Over i ∨ i = t.index)
    (htally : b.tally.report t o = .ok b'.tally) : b'.Over i := by
  rcases Tally.report_eq_ok_iff.1 htally with ⟨hstarted, -, htally'⟩
  unfold Over
  rw [htally']
  cases h with
  | inl h => exact ⟨h.1, List.mem_cons_of_mem _ h.2⟩
  | inr hi =>
    rw [hi]
    exact ⟨hstarted, List.mem_cons_self⟩

theorem Over.start {i : Nat} (h : b.Over i) (t : Ticket) : (b.start t).2.Over i := by
  unfold Board.start
  split
  . exact h
  . next tally htally =>
    rcases Tally.start_eq_ok_iff.1 htally with ⟨-, -, rfl⟩
    exact ⟨List.mem_cons_of_mem _ h.1, h.2⟩

theorem Over.finish {i : Nat} (h : b.Over i) (t : Ticket) (line : LineId) (o : Outcome)
    (detail : Option String) : (b.finish t line o detail).2.Over i := by
  unfold Board.finish
  split
  . exact h
  . next tally htally =>
    have hraised := (Alike.raiseFor { b with tally } t.profile o detail).tally
    have hover : (raiseFor { b with tally } t.profile o detail).Over i := by
      apply over_of_report (.inl h)
      rw [htally, hraised]
    -- whether the line settles or not, the tally is the same
    dsimp only
    split
    . exact hover
    . exact hover

theorem Over.carryOut {i : Nat} (h : b.Over i) {op : Operation} (hop : op.beginsPass = false)
    : (b.carryOut op).Over i := by
  cases op with
  | beginPass tickets => cases hop
  | endPass => exact h.of_tally (Alike.endPass b).tally
  | start t => exact h.start t
  | finish t line o detail => exact h.finish t line o detail
  | say text severity => exact h
  | request notice kind => exact h.of_tally (Alike.request b notice kind).tally
  | clearNotices => exact h
  | takeFailed => exact h

theorem Over.carryOutAll {i : Nat} (h : b.Over i) {ops : List Operation}
    (hops : ∀ op ∈ ops, op.beginsPass = false) : (b.carryOutAll ops).Over i := by
  induction ops generalizing b with
  | nil => exact h
  | cons op ops ih =>
    rw [List.forall_mem_cons] at hops
    exact ih (h.carryOut hops.1) hops.2

/--
What may be refused on a board, and what is then left of it. Only a report that is counted although
its line does not run leaves anything, and until the next pass its ticket is refused from then on.
-/
structure Refusals (b : Board) : Prop where
  start : ∀ t breach b', b.start t = (.error breach, b') → b' = b
  finish : ∀ t line o detail breach b', b.finish t line o detail = (.error breach, b') →
    (b' = b ∧ b.tally.report t o = .error breach) ∨
      (b.CountsOnly t o detail b' ∧ ∀ l ∈ b.feed.running, l.id ≠ line)
  counted : ∀ t line o detail tally, b.tally.report t o = .ok tally →
    (∀ l ∈ b.feed.running, l.id ≠ line) →
    ∃ breach b', b.finish t line o detail = (.error breach, b') ∧ b' ≠ b ∧
      b.CountsOnly t o detail b' ∧
      ∀ ops, (∀ op ∈ ops, op.beginsPass = false) → ∀ line' o' detail',
        (b'.carryOutAll ops).finish t line' o' detail' =
          (.error (.reportedTwice t.index), b'.carryOutAll ops)

theorem refusals_carryOutAll (retryBudget : Nat) (target : Target) (clock : Nat → Instant)
    (ops : List Operation)
    : ((new retryBudget target clock).carryOutAll ops).Refusals := by
  have htells := tells_carryOutAll (b := new retryBudget target clock) (.empty clock) ops
  constructor
  . intro t breach b' h
    exact start_refused h
  . intro t line o detail breach b' h
    exact finish_refused htells h
  . intro t line o detail tally htally hline
    rcases finish_of_not_running htells htally hline detail with ⟨breach, b', hfinish, hcounts⟩
    refine ⟨breach, b', hfinish, hcounts.ne, hcounts, ?_⟩
    intro more hmore line' o' detail'
    have hover : b'.Over t.index := over_of_report (.inr rfl) hcounts.tally
    exact (hover.carryOutAll hmore).report line' o' detail'

/-- A report that is refused counts nevertheless: the ticket has failed, a notice says so, and the
report that names the right line is refused. -/
theorem exists_refused_report_counted
    : let t : Ticket := ⟨0, { profile := default, attempt := fun _ => {} }, none⟩
      let b := (new 1 .here).carryOutAll [.beginPass [t], .start t]
      let b' := (b.finish t ⟨7⟩ .failed none).2
      (b.finish t ⟨7⟩ .failed none).1 = .error (.lineMissing ⟨7⟩) ∧
      (b.tally.standing.pass.failed, b.tally.failed.length, b.tally.settled) = (0, 0, []) ∧
      (b'.tally.standing.pass.failed, b'.tally.failed.length, b'.tally.settled) = (1, 1, [0]) ∧
      b.notices = [] ∧ b'.notices.length = 1 ∧ b'.told = b.told ++ b'.notices.map .noticeAdded ∧
      (b'.finish t ⟨0⟩ .succeeded none).1 = .error (.reportedTwice 0) := by
  decide +kernel

end Board

end SetupBatch
