import SetupBatch.Proofs.Course

/-!
This module contains the verification of the notices that a batch raises by itself. A pass raises
one for each of its tickets that needs a reboot or has failed, and nobody removes them until a retry
is granted: the notices of a batch are those of its last pass.
-/

namespace SetupBatch

namespace Profile

def errorFor (p : Profile) (detail : Option String) : Draft :=
  match detail with
  | some detail => p.errorNotice.withDetail detail
  | none => p.errorNotice

def noticeFor (p : Profile) (o : Outcome) (detail : Option String) : Option Draft :=
  match o with
  | .succeeded => none
  | .needsReboot => some p.rebootNotice
  | .failed => some (p.errorFor detail)

end Profile

namespace Ticket

def verdictAt (crew : Crew) (t : Ticket) (k : Nat) : Outcome × Option String :=
  (t.attemptAt crew k).ending.verdict t.profile.requiresReboot

def noticeAt (crew : Crew) (t : Ticket) (k : Nat) : Option Draft :=
  t.profile.noticeFor (t.verdictAt crew k).1 (t.verdictAt crew k).2

end Ticket

def Notice.isRaised (n : Notice) : Bool :=
  match n.id with
  | .raised _ => true
  | .written _ => false

def Board.raisedDrafts (b : Board) : List Draft := (b.notices.filter (·.isRaised)).map (·.content)

def Notebook.Apart (n : Notebook) : Prop := ∀ page ∈ n.pages, page.2.isRaised = false

namespace Notebook

variable {n : Notebook}

theorem Apart.write (h : n.Apart) (key : String) (content : Draft)
    : (n.write key content).1.isRaised = false ∧ (n.write key content).2.Apart := by
  refine ⟨rfl, ?_⟩
  intro page hpage
  cases List.mem_cons.1 hpage with
  | inl heq => rw [heq]; rfl
  | inr hmem => exact h page hmem

theorem Apart.lookUp (h : n.Apart) (key : String)
    : (n.lookUp key).1.isRaised = false ∧ (n.lookUp key).2.Apart := by
  unfold Notebook.lookUp
  split
  . next notice hlookup =>
    refine ⟨?_, h⟩
    rcases List.lookup_eq_some_iff.1 hlookup with ⟨xs, ys, hpages, -⟩
    apply h (key, notice)
    rw [hpages]
    simp
  . exact h.write key _

end Notebook

namespace Board

variable {b b' : Board}

theorem raisedDrafts_post {notice : Notice} (h : notice.isRaised = false)
    : (b.post notice).raisedDrafts = b.raisedDrafts := by
  show ((b.notices ++ [notice]).filter _).map _ = _
  rw [List.filter_append, List.filter_cons_of_neg (by simp [h])]
  simp [raisedDrafts]

theorem raisedDrafts_withdraw {notice : Notice} (h : notice.isRaised = false)
    : (b.withdraw notice.id).raisedDrafts = b.raisedDrafts := by
  unfold withdraw
  split
  . rfl
  . show ((b.notices.eraseP _).filter _).map _ = _
    rcases List.exists_or_eq_self_of_eraseP (·.id == notice.id) b.notices
      with heq | ⟨n, xs, ys, -, hn, hnotices, heq⟩
    . rw [heq]
      rfl
    . -- the erased notice has the identity of one that a task asked for
      have hid : n.id = notice.id := by simpa using hn
      have hraised : n.isRaised = false := by
        unfold Notice.isRaised at h ⊢
        rw [hid]
        exact h
      rw [heq]
      unfold raisedDrafts
      rw [hnotices, List.filter_append, List.filter_append,
        List.filter_cons_of_neg (by simp [hraised])]

theorem raisedDrafts_request {notice : Notice} (h : notice.isRaised = false) (kind : NoticeRequest)
    : (b.request notice kind).raisedDrafts = b.raisedDrafts := by
  cases kind with
  | add => exact raisedDrafts_post h
  | remove => exact raisedDrafts_withdraw h

theorem raisedDrafts_raiseFor (b : Board) (p : Profile) (o : Outcome) (detail : Option String)
    : (b.raiseFor p o detail).raisedDrafts = (p.noticeFor o detail).toList ++ b.raisedDrafts := by
  cases o with
  | succeeded => rfl
  | needsReboot => rfl
  | failed => cases detail <;> rfl

theorem raisedDrafts_start (b : Board) (t : Ticket)
    : (b.start t).2.raisedDrafts = b.raisedDrafts := by
  unfold start
  split <;> rfl

theorem raisedDrafts_finish {t : Ticket} {line : LineId} {o : Outcome} {detail : Option String}
    (h : b.finish t line o detail = (.ok (), b'))
    : b'.raisedDrafts = (t.profile.noticeFor o detail).toList ++ b.raisedDrafts := by
  unfold finish at h
  split at h
  . cases h
  . next tally _ =>
    dsimp only at h
    split at h
    . cases h
    . cases h
      exact raisedDrafts_raiseFor { b with tally } t.profile o detail

end Board

namespace Shared

/-- The tickets that have reported since `s₀` was shared, each with the notice that its attempt has
raised. -/
structure Notes (crew : Crew) (s₀ s : Shared) (us : List Ticket) : Prop where
  raised : s.board.raisedDrafts =
    (us.filterMap fun t => t.noticeAt crew (s₀.nextAttempt t.index)).reverse
  settled : s.board.tally.settled = (us.map (·.index)).reverse
  notebook : s.notebook.Apart

variable {crew : Crew} {s₀ s : Shared} {us tickets : List Ticket}

theorem raisedDrafts_perform (h : s.notebook.Apart) (effect : Effect)
    : (s.perform effect).board.raisedDrafts = s.board.raisedDrafts ∧
        (s.perform effect).notebook.Apart := by
  cases effect with
  | sleep ms => exact ⟨rfl, h⟩
  | say text severity => exact ⟨rfl, h⟩
  | write key content =>
    have hwrite := h.write key content
    exact ⟨Board.raisedDrafts_request hwrite.1 .add, hwrite.2⟩
  | post key =>
    have hlookUp := h.lookUp key
    exact ⟨Board.raisedDrafts_request hlookUp.1 .add, hlookUp.2⟩
  | withdraw key =>
    have hlookUp := h.lookUp key
    exact ⟨Board.raisedDrafts_request hlookUp.1 .remove, hlookUp.2⟩

theorem Notes.keeps : s₀.Keeps crew tickets fun s =>
    ∃ us, (∀ t ∈ us, t ∈ tickets) ∧ s₀.Notes crew s us := by
  rintro w s s' hw hs hacts ⟨us, hmem, h⟩
  cases hacts with
  | rests => exact ⟨us, hmem, h⟩
  | starts hstart hstarts hnotebook =>
    have hdrafts := s.board.raisedDrafts_start w.ticket
    rw [hstart] at hdrafts
    rcases Tally.start_eq_ok_iff.1 hstarts.tally with ⟨-, -, htally⟩
    refine ⟨us, hmem, ?_, ?_, ?_⟩
    . rw [← h.raised]
      exact hdrafts
    . rw [htally, ← h.settled]
    . rw [hnotebook]
      exact h.notebook
  | performs effect =>
    have hperform := raisedDrafts_perform h.notebook effect
    refine ⟨us, hmem, ?_, ?_, hperform.2⟩
    . rw [hperform.1, h.raised]
    . rw [(alike_perform hs.sound effect).tally, h.settled]
  | reports o detail hverdict hfinish hfinishes =>
    have hraised := Board.raisedDrafts_finish hfinish
    rcases Tally.report_eq_ok_iff.1 hfinishes.tally with ⟨-, -, heq⟩
    refine ⟨us ++ [w.ticket], ?_, ?_, ?_, h.notebook⟩
    . exact List.forall_mem_append.2 ⟨hmem, List.forall_mem_singleton.2 hw⟩
      -- the latest ticket stands last, and the notice of it first
    . have hnotice : w.ticket.noticeAt crew (s₀.nextAttempt w.ticket.index) =
          w.ticket.profile.noticeFor o detail := by
        unfold Ticket.noticeAt Ticket.verdictAt
        rw [hverdict]
      have hprofile : (w.ticket.withOutcome o).profile = w.ticket.profile := rfl
      rw [hraised, h.raised, List.filterMap_append, List.reverse_append, hprofile]
      cases hdraft : w.ticket.profile.noticeFor o detail <;> simp [hnotice, hdraft]
    . rw [heq, List.map_append, List.reverse_append, ← h.settled]
      rfl

end Shared

theorem Ticket.noticeAt_mul_callsFor (crew : Crew) (t : Ticket) (n : Nat)
    : t.noticeAt crew (crew.callsFor t.profile * n + 1) = t.noticeAt crew (n + 1) := by
  unfold noticeAt verdictAt
  rw [attemptAt_mul_callsFor]

namespace Batch

variable {b₀ b b' b₁ : Batch} {d : Discipline} {j : Nat}

theorem notes_runPass (h : b.Primed) (hraised : b.board.raisedDrafts = [])
    (hnotebook : b.shared.notebook.Apart) {retry : Bool} {failed : Nat}
    (hpass : b.runPass d retry = (.ok failed, b₁))
    : b₁.board.raisedDrafts.Perm
          (b.pending.filterMap fun t => t.noticeAt b.crew (b.shared.nextAttempt t.index)) ∧
        (∀ i, i ∈ b₁.board.tally.settled ↔ i ∈ b.pending.map (·.index)) ∧
        b₁.shared.notebook.Apart := by
  rcases runPhases_of_runPass d hpass with ⟨b₂, hphases, rfl⟩
  have hnone : b.opened.shared.Notes b.crew b.opened.shared [] := ⟨hraised, rfl, hnotebook⟩
  rcases h.through d hphases Shared.Notes.keeps ⟨[], by simp, hnone⟩
    with ⟨⟨us, hmem, hnotes⟩, hthrough⟩
  have hus := hthrough.perm_of_settled h.indices hmem hnotes.settled
  have hended : b₂.board.endPass.raisedDrafts = b₂.board.raisedDrafts ∧
      b₂.board.endPass.tally = b₂.board.tally := by
    unfold Board.endPass
    split <;> exact ⟨rfl, rfl⟩
  refine ⟨?_, ?_, hnotes.notebook⟩
  . show b₂.board.endPass.raisedDrafts.Perm _
    rw [hended.1, hnotes.raised]
    exact (List.reverse_perm _).trans (hus.filterMap _)
  . intro i
    show i ∈ b₂.board.endPass.tally.settled ↔ _
    rw [hended.2, hnotes.settled, List.mem_reverse]
    exact (hus.map _).mem_iff

structure Noted (b₀ : Batch) (j : Nat) (b : Batch) : Prop where
  raised : b.board.raisedDrafts.Perm
    ((b₀.pending.filter fun t => t.retries b₀.crew j = j).filterMap (·.noticeAt b₀.crew (j + 1)))
  settled : ∀ t ∈ b₀.pending, t.index ∈ b.board.tally.settled ↔ t.retries b₀.crew j = j
  notebook : b.shared.notebook.Apart

theorem Noted.congr (h : Noted b₀ j b) (hnotices : b'.board.notices = b.board.notices)
    (htally : b'.board.tally = b.board.tally) (hnotebook : b'.shared.notebook = b.shared.notebook)
    : Noted b₀ j b' := by
  constructor
  . unfold Board.raisedDrafts
    rw [hnotices]
    exact h.raised
  . rw [htally]
    exact h.settled
  . rw [hnotebook]
    exact h.notebook

theorem Noted.announces (h : Noted b₀ j b) (ha : b.Announces b') : Noted b₀ j b' := by
  rcases ha.shared with ⟨es, -, hshared⟩
  apply h.congr
  . exact congrArg (·.board.notices) hshared
  . exact congrArg (·.board.tally) hshared
  . exact congrArg (·.notebook) hshared

theorem Fresh.noted (h : Fresh b₀ b) {gate : Gate} {failed : Nat} {retry : Bool}
    (hraised : b.board.raisedDrafts = []) (hnotebook : b.shared.notebook.Apart)
    (hpass : runPass d { b with gate } retry = (.ok failed, b₁)) : Noted b₀ 0 b₁ := by
  rcases notes_runPass (h.primed gate) hraised hnotebook hpass with ⟨hnotices, hsettled, hpages⟩
  refine ⟨?_, ?_, hpages⟩
  . have hall : b₀.pending.filter (fun t => t.retries b₀.crew 0 = 0) = b₀.pending := by
      rw [List.filter_eq_self]
      intro t _
      rfl
    have hfirst : ∀ t : Ticket, t.noticeAt b.crew (b.shared.nextAttempt t.index) =
        t.noticeAt b₀.crew (0 + 1) := by
      intro t
      rw [h.nextAttempt, h.crew]
    rw [hall, ← h.pending]
    simpa only [hfirst] using hnotices
  . intro t ht
    rw [hsettled]
    refine iff_of_true ?_ rfl
    rw [← h.pending] at ht
    exact List.mem_map_of_mem ht

theorem Settled.noted_again (h : Settled b₀ j b) {gate : Gate} {failed : Nat} {retry : Bool}
    (hnotebook : b.shared.notebook.Apart)
    (hpass : (b.again gate).runPass d retry = (.ok failed, b₁)) : Noted b₀ (j + 1) b₁ := by
  rcases notes_runPass (h.primed_again gate) rfl hnotebook hpass with ⟨hnotices, hsettled, hpages⟩
  refine ⟨?_, ?_, hpages⟩
  . -- a ticket that is retried has failed in every pass, so that its attempts number the passes
    have hnext : ∀ t ∈ (b.again gate).pending,
        t.noticeAt (b.again gate).crew ((b.again gate).shared.nextAttempt t.index) =
          t.noticeAt b₀.crew (j + 1 + 1) := by
      intro t ht
      rcases (h.mem_again gate t).1 ht with ⟨hmem, hfailed⟩
      have hcalled : (b.again gate).shared.nextAttempt t.index =
          b₀.crew.callsFor t.profile * (j + 1) + 1 := by
        rw [← t.retries_eq_of_failed b₀.crew hfailed]
        exact congrArg (· + 1) (h.called t hmem)
      have hcrew : (b.again gate).crew = b₀.crew := h.crew
      rw [hcalled, hcrew, t.noticeAt_mul_callsFor]
    rw [List.filterMap_congr hnext] at hnotices
    exact hnotices.trans ((h.again_perm gate).filterMap _)
  . intro t ht
    rw [hsettled, h.mem_indices_again gate ht, Ticket.retries_succ_eq_iff]

end Batch

namespace Session

open Batch

inductive Noted (b₀ : Batch) (s : Session) : Prop where
  | fresh (runs : s.runs = 0) (raised : s.batch.board.raisedDrafts = [])
    (notebook : s.batch.shared.notebook.Apart)
  | paused (runs : s.runs = 1) (batch : b₀.Noted s.retries s.batch)

variable {b₀ : Batch} {s : Session} {r : Request} (d : Discipline)

theorem Noted.of_refuses (h : s.Noted b₀) (hr : s.batch.Refuses r) : (s.call r).Noted b₀ := by
  have haccepted := accepted_of_refuses hr
  have hbatch := batch_of_refuses hr
  cases h with
  | fresh hruns hraised hnotebook =>
    exact .fresh ((haccepted _).trans hruns) (hbatch ▸ hraised) (hbatch ▸ hnotebook)
  | paused hruns hnoted =>
    apply paused ((haccepted _).trans hruns)
    unfold retries
    rw [haccepted, hbatch]
    exact hnoted

theorem noted_run (hs : s.Stands b₀) (h : Fresh b₀ s.batch)
    (hraised : s.batch.board.raisedDrafts = []) (hnotebook : s.batch.shared.notebook.Apart)
    : b₀.Noted 0 (s.call (.run d)).batch := by
  cases hpass : s.batch.pass? (.run d) with
  | none =>
    have hnil : b₀.pending = [] := by
      rw [← h.pending, ← List.length_eq_zero_iff]
      by_contra hpos
      rw [h.pass?_run d (Nat.pos_of_ne_zero hpos)] at hpass
      cases hpass
    have hempty : b₀.Noted 0 s.batch := by
      refine ⟨?_, ?_, hnotebook⟩
      . rw [hraised, hnil]
        exact .refl _
      . simp [hnil]
    rcases announces_of_pass?_eq_none hpass with ⟨_, _, heq⟩ | hannounces
    . cases heq
    . exact hempty.announces hannounces
  | some p =>
    rcases hs.conducts hpass with ⟨b₁, hconducts⟩
    have hannounces := announces_of_pass?_eq_some hpass hconducts.runPass
    have hrun := hconducts.runPass
    rcases pass?_eq_some hpass with ⟨_, gate, _, -, rfl, -⟩ | ⟨_, _, _, heq, -, -⟩
    . exact (h.noted hraised hnotebook hrun).announces hannounces
    . cases heq

theorem noted_retry (hs : s.Stands b₀) (h : Paused b₀ s.retries false s.batch)
    (ho : Offers b₀ s.retries false s.batch) (hnotebook : s.batch.shared.notebook.Apart)
    : b₀.Noted (s.retries + 1) (s.call (.retry d)).batch := by
  have hpass := h.pass?_retry d ho
  rcases hs.conducts hpass with ⟨b₁, hconducts⟩
  have hannounces := announces_of_pass?_eq_some hpass hconducts.runPass
  exact (h.toSettled.noted_again hnotebook hconducts.runPass).announces hannounces

theorem Noted.call (h : s.Noted b₀) (hs : s.Stands b₀) (r : Request) : (s.call r).Noted b₀ := by
  cases hs.granted r with
  | inl hrefuses => exact h.of_refuses hrefuses
  | inr hgranted =>
    cases hgranted with
    | run d hruns hretries _ hfresh =>
      have haccepted := accepted_run d hruns hfresh
      apply paused haccepted.1
      rw [haccepted.2.1, hretries]
      cases h with
      | fresh _ hraised hnotebook => exact noted_run d hs hfresh hraised hnotebook
      | paused hone _ => omega
    | retry d hruns _ hpaused ho =>
      have haccepted := accepted_retry d hpaused ho
      apply paused (haccepted.1.trans hruns)
      rw [haccepted.2.1]
      cases h with
      | fresh hzero _ _ => omega
      | paused _ hnoted => exact noted_retry d hs hpaused ho hnoted.notebook
    | finish d hruns _ hpaused ho =>
      have haccepted := accepted_finish d hpaused ho
      apply paused (haccepted.1.trans hruns)
      rw [haccepted.2.1]
      cases h with
      | fresh hzero _ _ => omega
      | paused _ hnoted =>
        rcases announces_of_pass?_eq_none (b := s.batch) (r := .finish d) rfl
          with ⟨_, _, heq⟩ | hannounces
        . cases heq
        . exact hnoted.announces hannounces
    | say text severity =>
      have haccepted : ∀ kind : Request → Bool, kind (.say text severity) = false →
          (s.call (.say text severity)).accepted kind = s.accepted kind :=
        fun _ => accepted_of_kind
      cases h with
      | fresh hruns hraised hnotebook =>
        exact .fresh ((haccepted _ rfl).trans hruns) hraised hnotebook
      | paused hruns hnoted =>
        apply paused ((haccepted _ rfl).trans hruns)
        unfold retries
        rw [haccepted _ rfl]
        exact hnoted.congr rfl rfl rfl

theorem noted_ofCalls (h : Fresh b₀ b₀) (hraised : b₀.board.raisedDrafts = [])
    (hnotebook : b₀.shared.notebook.Apart) (requests : List Request)
    : (ofCalls b₀ requests).Noted b₀ := by
  induction requests using List.reverseRecOn with
  | nil => exact .fresh rfl hraised hnotebook
  | append_singleton requests r ih =>
    rw [ofCalls_append]
    exact ih.call (stands_ofCalls h requests).1 r

end Session

def Task.rebooting : Task where
  profile := { wording := .ofLabel "rebooting", requiresReboot := true }
  attempt _ := {}

namespace Batch

variable {b₀ b : Batch} {j : Nat}

theorem filterMap_noticeAt_perm (crew : Crew) (k : Nat) (ts : List Ticket)
    : (ts.filterMap (·.noticeAt crew k)).Perm
        ((ts.filter fun t => t.outcomeAt crew k = .needsReboot).map (·.profile.rebootNotice) ++
          (ts.filter fun t => t.outcomeAt crew k = .failed).map
            fun t => t.profile.errorFor (t.verdictAt crew k).2) := by
  induction ts with
  | nil => exact .refl _
  | cons t ts ih =>
    have hnotice : t.noticeAt crew k = t.profile.noticeFor (t.outcomeAt crew k)
      (t.verdictAt crew k).2 := rfl
    cases ho : t.outcomeAt crew k with
    | succeeded =>
      rw [ho] at hnotice
      simpa [List.filterMap_cons, hnotice, List.filter_cons, ho, Profile.noticeFor] using ih
    | needsReboot =>
      rw [ho] at hnotice
      simpa [List.filterMap_cons, hnotice, List.filter_cons, ho, Profile.noticeFor] using ih
    | failed =>
      rw [ho] at hnotice
      have hmiddle := (ih.cons (t.profile.errorFor (t.verdictAt crew k).2)).trans
        List.perm_middle.symm
      simpa [List.filterMap_cons, hnotice, List.filter_cons, ho, Profile.noticeFor] using hmiddle

theorem Noted.reboots (h : Noted b₀ j b) (hs : Settled b₀ j b)
    : (b.results.filter fun u => u.outcome = some .needsReboot ∧
          u.index ∈ b.board.tally.settled).map (·.profile.rebootNotice) =
        ((b₀.pending.filter fun t => t.retries b₀.crew j = j).filter
          fun t => t.outcomeAt b₀.crew (j + 1) = .needsReboot).map (·.profile.rebootNotice) := by
  rw [hs.results, List.filter_map, List.map_map, List.filter_filter]
  refine congrArg (List.map _) (List.filter_congr ?_)
  intro t ht
  show Decidable.decide (some (t.outcomeAt b₀.crew (t.retries b₀.crew j + 1)) = some .needsReboot ∧
    t.index ∈ b.board.tally.settled) = _
  rw [← Bool.decide_and, decide_eq_decide, h.settled t ht, Option.some.injEq]
  apply and_congr_left
  intro hran
  rw [hran]

theorem Settled.errors (hs : Settled b₀ j b)
    : (b.failed.map fun u => u.profile.errorFor (u.verdictAt b₀.crew (j + 1)).2).Perm
        (((b₀.pending.filter fun t => t.retries b₀.crew j = j).filter
          fun t => t.outcomeAt b₀.crew (j + 1) = .failed).map
            fun t => t.profile.errorFor (t.verdictAt b₀.crew (j + 1)).2) := by
  have hsame : ∀ t ∈ b₀.pending, Decidable.decide ((j : ℕ∞) < t.failures b₀.crew) =
      (Decidable.decide (t.outcomeAt b₀.crew (j + 1) = .failed) &&
        Decidable.decide (t.retries b₀.crew j = j)) := by
    intro t _
    rw [← Bool.decide_and, decide_eq_decide, ← t.outcomeAt_retries_eq_failed_iff b₀.crew]
    constructor
    . intro hfailed
      have hran := t.retries_eq_of_failed b₀.crew hfailed
      rw [hran] at hfailed
      exact ⟨hfailed, hran⟩
    . rintro ⟨hfailed, hran⟩
      rw [hran]
      exact hfailed
  have hfailed := hs.failed_perm
  rw [List.filter_congr hsame, ← List.filter_filter] at hfailed
  have hmap := hfailed.map fun u => u.profile.errorFor (u.verdictAt b₀.crew (j + 1)).2
  rw [List.map_map] at hmap
  exact hmap

/--
The notices that a batch has raised by itself, at any moment after its run: one for every task that
needs a reboot since its latest attempt, if that was made in the last pass, and one for every task
that has failed. A granted retry has removed the notices of the passes before it.
-/
theorem noticed_ofCalls {id : BatchId} {options : Options} {tasks : List Task}
    {channel : Option String} {clock : Nat → Instant} {b₀ : Batch}
    (hnew : Batch.new id options tasks channel clock = .ok b₀) (requests : List Request)
    (hruns : (Session.ofCalls b₀ requests).runs ≠ 0)
    : let s := Session.ofCalls b₀ requests
      s.batch.board.raisedDrafts.Perm
        ((s.batch.results.filter fun u => u.outcome = some .needsReboot ∧
            u.index ∈ s.batch.board.tally.settled).map (·.profile.rebootNotice) ++
          s.batch.failed.map fun u =>
            u.profile.errorFor (u.verdictAt b₀.crew (s.retries + 1)).2) := by
  intro s
  have hfresh := fresh_new hnew
  have hb₀ : b₀.board.raisedDrafts = [] ∧ b₀.shared.notebook.Apart := by
    rcases eq_of_new hnew with ⟨slots, rfl⟩
    exact ⟨rfl, by simp [Notebook.Apart]⟩
  have hstands : s.Stands b₀ := (Session.stands_ofCalls hfresh requests).1
  have hnoted : s.Noted b₀ := Session.noted_ofCalls hfresh hb₀.1 hb₀.2 requests
  cases hnoted with
  | fresh hzero _ _ => exact absurd hzero hruns
  | paused _ hbatch =>
    cases hstands with
    | fresh hzero _ _ _ => exact absurd hzero hruns
    | paused _ hpaused =>
      have hsettled := hpaused.toSettled
      apply hbatch.raised.trans
      apply (filterMap_noticeAt_perm b₀.crew (s.retries + 1) _).trans
      rw [hbatch.reboots hsettled]
      exact hsettled.errors.symm.append_left _

def restarting : Batch := { sample with pending := ticketsFor .here [.rebooting, .flaky] }

theorem new_restarting : Batch.new ⟨⟨0⟩⟩ {} [.rebooting, .flaky] = .ok restarting := rfl

theorem noticed_restarting
    : let s := Session.ofCalls restarting [.run .queued]
      s.runs ≠ 0 ∧ s.batch.board.raisedDrafts.Perm
        [Task.rebooting.profile.rebootNotice, Task.flaky.profile.errorNotice] := by
  intro s
  have hruns : s.runs ≠ 0 := by
    have hone : (Session.ofCalls restarting [.run .queued]).runs = 1 := by cbv
    rw [hone]
    exact Nat.one_ne_zero
  refine ⟨hruns, (noticed_ofCalls new_restarting [.run .queued] hruns).trans (.of_eq ?_)⟩
  cbv

/-- The retry of one task removes the notice that another one needs a reboot. -/
theorem exists_reboot_without_notice
    : let s := Session.ofCalls restarting [.run .queued, .retry .queued]
      Batch.new ⟨⟨0⟩⟩ {} [.rebooting, .flaky] = .ok restarting ∧ s.runs = 1 ∧ s.retries = 1 ∧
        ∃ u ∈ s.batch.results, u.outcome = some .needsReboot ∧
          ∀ notice ∈ s.batch.notices, notice.content ≠ u.profile.rebootNotice := by
  have hruns : (Session.ofCalls restarting [.run .queued, .retry .queued]).runs = 1 := by cbv
  have hretries : (Session.ofCalls restarting [.run .queued, .retry .queued]).retries = 1 := by cbv
  have hlost : (Session.ofCalls restarting [.run .queued, .retry .queued]).batch.results.any
      (fun u => u.outcome = some .needsReboot && (Session.ofCalls restarting
        [.run .queued, .retry .queued]).batch.notices.all (·.content ≠ u.profile.rebootNotice)) =
      true := by cbv
  refine ⟨new_restarting, hruns, hretries, ?_⟩
  rcases List.any_eq_true.1 hlost with ⟨u, hu, hboth⟩
  simp only [Bool.and_eq_true, decide_eq_true_eq, List.all_eq_true] at hboth
  exact ⟨u, hu, hboth⟩

end Batch

end SetupBatch
