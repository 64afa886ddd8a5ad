import SetupBatch.Proofs.Course

/-!
This module contains the deeds of a batch: a freeform line that somebody adds, and an attempt that
ends. The settled lines of the feed tell every deed once, in the order in which they were done, and
the deeds of a task are those of its attempts, one attempt after the other.
-/

namespace SetupBatch

structure Entry where
  text : String
  severity : Severity
  task : Option Nat
  deriving DecidableEq

def Line.entry (l : Line) : Entry := ⟨l.text, l.severity, l.task⟩

def Board.record (b : Board) : List Entry := b.feed.settled.map (·.entry)

inductive Deed where
  | adds (author : Option Nat) (text : String) (severity : Severity)
  | ends (t : Ticket) (o : Outcome)

namespace Deed

def author : Deed → Option Nat
  | adds author _ _ => author
  | ends t _ => some t.index

def isAddition : Deed → Bool
  | adds _ _ _ => true
  | ends _ _ => false

/--
The entries that tell a deed: one for a freeform line, and two for an attempt, of which the first
was there while it ran.
-/
def entries : Deed → List Entry
  | adds _ text severity => [⟨text, severity, none⟩]
  | ends t o =>
    [⟨t.profile.wording.executing, o.severity, some t.index⟩,
      ⟨t.profile.wording.tell o, o.severity, some t.index⟩]

end Deed

def Effect.deed? (i : Nat) : Effect → Option Deed
  | .say text severity => some (.adds (some i) text severity)
  | _ => none

def Ticket.deedsAt (crew : Crew) (t : Ticket) (k : Nat) : List Deed :=
  (t.attemptAt crew k).effects.filterMap (·.deed? t.index) ++ [.ends t (t.outcomeAt crew k)]

namespace Board

variable {b b' : Board}

theorem feed_request (b : Board) (notice : Notice) (kind : NoticeRequest)
    : (b.request notice kind).feed = b.feed := by
  cases kind with
  | add => rfl
  | remove =>
    simp only [request, withdraw]
    split <;> rfl

theorem record_say (h : b.feed.Sound) (text : String) (severity : Severity)
    : (b.say text severity).record = b.record ++ [⟨text, severity, none⟩] := by
  unfold record say
  dsimp only [tellChanges]
  rw [(Feed.parts_add h text severity).1, List.map_append]
  rfl

theorem feed_start {t : Ticket} {line : LineId} (h : b.start t = (.ok line, b'))
    : b'.feed = (b.feed.begin t.profile.wording.executing t.index).2.2 := by
  unfold start at h
  split at h
  . cases h
  . cases h
    rfl

theorem feed_raiseFor (b : Board) (p : Profile) (o : Outcome) (detail : Option String)
    : (b.raiseFor p o detail).feed = b.feed := by
  cases o <;> rfl

theorem settle_of_finish {t : Ticket} {line : LineId} {o : Outcome} {detail : Option String}
    (h : b.finish t line o detail = (.ok (), b'))
    : ∃ changes, b.feed.settle line o (t.profile.wording.tell o) = .ok (changes, b'.feed) := by
  unfold finish at h
  split at h
  . cases h
  . next tally _ =>
    dsimp only at h
    split at h
    . cases h
    . next changes feed hsettle =>
      cases h
      rw [feed_raiseFor] at hsettle
      exact ⟨changes, hsettle⟩

end Board

namespace Worker

variable {crew : Crew} {s₀ s s' : Shared} {w w' : Worker}

def deed? (w : Worker) : Option Deed :=
  match w.stage with
  | .running _ (effect :: _) _ => effect.deed? w.ticket.index
  | .running _ [] ending =>
    some (.ends w.ticket (ending.verdict w.ticket.profile.requiresReboot).1)
  | _ => none

def outstanding (crew : Crew) (s₀ : Shared) (w : Worker) : List Deed :=
  match w.stage with
  | .waiting | .ready => w.ticket.deedsAt crew (s₀.nextAttempt w.ticket.index)
  | .running _ rest ending =>
    rest.filterMap (·.deed? w.ticket.index) ++
      [.ends w.ticket (ending.verdict w.ticket.profile.requiresReboot).1]
  | .reported _ | .gone _ => []

theorem author_deed? {d : Deed} (h : w.deed? = some d) : d.author = some w.ticket.index := by
  unfold deed? at h
  split at h
  . next effect _ _ _ =>
    unfold Effect.deed? at h
    split at h
    . cases h
      rfl
    . cases h
  . cases h
    rfl
  . cases h

theorem outstanding_start (hs : s.board.InStep) (h : w.ticket.Awaited s₀ s)
    : (w.start crew s).1.outstanding crew s₀ =
        w.ticket.deedsAt crew (s₀.nextAttempt w.ticket.index) := by
  rcases hs.start h.admitted h.started with ⟨line, board, hstart, -⟩
  have hnumber : s.nextAttempt w.ticket.index = s₀.nextAttempt w.ticket.index :=
    congrArg (· + 1) h.called
  unfold start
  rw [hstart, ← hnumber]
  rfl

theorem outstanding_step? (hs : s.board.InStep) (h : w.Stands crew s₀ s) {free : Bool}
    (hstep : w.step? crew free s = some (w', s'))
    : w.outstanding crew s₀ = w.deed?.toList ++ w'.outstanding crew s₀ := by
  unfold Stands at h
  cases steps_of_step? hstep with
  | take hw _ => simp [outstanding, deed?, hw]
  | start hw =>
    rw [hw] at h
    have hstart : (w.start crew s).1.outstanding crew s₀ = _ := outstanding_start hs h
    rw [hstart]
    simp [outstanding, deed?, hw]
  | perform line effect rest ending hw =>
    simp only [outstanding, deed?, hw, List.filterMap_cons]
    cases effect.deed? w.ticket.index <;> rfl
  | report line ending hw => simp [outstanding, deed?, hw, report]
  | leave result hw => simp [outstanding, deed?, hw]

theorem record_perform (h : s.board.feed.Sound) (effect : Effect) (i : Nat)
    : (s.perform effect).board.record =
        s.board.record ++ (effect.deed? i).toList.flatMap (·.entries) := by
  have hrequest : ∀ notice kind, (s.board.request notice kind).record = s.board.record ++ [] := by
    intro notice kind
    unfold Board.record
    rw [Board.feed_request, List.append_nil]
  cases effect with
  | sleep ms => exact (List.append_nil _).symm
  | say text severity => exact Board.record_say h text severity
  | write key content => exact hrequest (s.notebook.write key content).1 .add
  | post key => exact hrequest (s.notebook.lookUp key).1 .add
  | withdraw key => exact hrequest (s.notebook.lookUp key).1 .remove

structure Records (w : Worker) (s s' : Shared) : Prop where
  record : s'.board.record = s.board.record ++ w.deed?.toList.flatMap (·.entries)
  running : ∀ l ∈ s'.board.feed.running, l ∈ s.board.feed.running ∨
    l.task = some w.ticket.index ∧ l.text = w.ticket.profile.wording.executing

theorem records_start (hs : s.board.InStep) (h : w.ticket.Awaited s₀ s) (hdeed : w.deed? = none)
    : w.Records s (w.start crew s).2 := by
  rcases hs.start h.admitted h.started with ⟨line, board, hstart, -⟩
  have hparts := Feed.parts_begin hs.sound w.ticket.profile.wording.executing w.ticket.index
  have hboard : (w.start crew s).2.board = board := by
    rw [board_start]
    exact congrArg Prod.snd hstart
  constructor
  . rw [hboard, hdeed]
    unfold Board.record
    rw [Board.feed_start hstart, hparts.1]
    simp
  . intro l hl
    rw [hboard, Board.feed_start hstart, hparts.2, List.mem_append, List.mem_singleton] at hl
    cases hl with
    | inl hold => exact .inl hold
    | inr hnew =>
      rw [hnew]
      exact .inr ⟨rfl, rfl⟩

theorem records_report (hs : s.board.InStep) {line : LineId} {ending : Ending}
    (h : w.ticket.Out crew s₀ s line) (hstage : w.stage = .running line [] ending)
    (hworded : ∀ l ∈ s.board.feed.running, l.task = some w.ticket.index →
      l.text = w.ticket.profile.wording.executing)
    : w.Records s (w.report s line ending).2 := by
  rcases h.line with ⟨l, hl, rfl, htask⟩
  generalize hverdict : ending.verdict w.ticket.profile.requiresReboot = verdict
  rcases hs.finish (t := w.ticket.withOutcome verdict.1) h.started h.settled hl htask verdict.1
    verdict.2 with ⟨board, hfinish, -⟩
  have hboard : (w.report s l.id ending).2.board = board := by
    unfold report
    rw [hverdict]
    exact congrArg Prod.snd hfinish
  rcases Board.settle_of_finish hfinish with ⟨changes, hsettle⟩
  rcases List.append_of_mem hl with ⟨xs, ys, hrun⟩
  have hparts := Feed.parts_settle hs.sound hrun hsettle
  have hdeed : w.deed? = some (.ends w.ticket verdict.1) := by
    unfold deed?
    rw [hstage, ← hverdict]
  constructor
  . rw [hboard, hdeed]
    unfold Board.record
    rw [hparts.1, List.map_append]
    simp [Line.entry, Line.settledAs, Feed.closing, Feed.fresh, Deed.entries, htask,
      hworded l hl htask]
    rfl
  . intro l' hl'
    left
    rw [hboard, hparts.2, List.mem_append] at hl'
    rw [hrun, List.mem_append, List.mem_cons]
    tauto

theorem records_step? (hs : s.board.InStep) (h : w.Stands crew s₀ s)
    (hworded : ∀ l ∈ s.board.feed.running, l.task = some w.ticket.index →
      l.text = w.ticket.profile.wording.executing)
    {free : Bool} (hstep : w.step? crew free s = some (w', s')) : w.Records s s' := by
  have hidle : w.deed? = none → w.Records s s := by
    intro hdeed
    exact ⟨by simp [hdeed], fun l hl => .inl hl⟩
  unfold Stands at h
  cases steps_of_step? hstep with
  | take hw _ =>
    apply hidle
    simp [deed?, hw]
  | start hw =>
    rw [hw] at h
    apply records_start hs h
    simp [deed?, hw]
  | perform line effect rest ending hw =>
    have hdeed : w.deed? = effect.deed? w.ticket.index := by simp [deed?, hw]
    constructor
    . rw [hdeed]
      exact record_perform hs.sound effect w.ticket.index
    . intro l hl
      left
      rw [← (Shared.alike_perform hs.sound effect).running]
      exact hl
  | report line ending hw =>
    rw [hw] at h
    exact records_report hs h.1 hw hworded
  | leave result hw =>
    apply hidle
    simp [deed?, hw]

end Worker

namespace Pool

variable {p q r : Pool} {s₀ : Shared} {ds : List Deed}

def deed? (p : Pool) (i : Nat) : Option Deed := p.workers[i]?.bind (·.deed?)

inductive Does (p : Pool) : List Deed → Pool → Prop where
  | refl : Does p [] p
  | step {ds : List Deed} {q r : Pool} (i : Nat) : Does p ds q → q.step? i = some r →
    Does p (ds ++ (q.deed? i).toList) r

theorem Does.reach (h : p.Does ds q) : p.Reach q := by
  induction h with
  | refl => exact .refl
  | step i _ hs ih => exact .step i ih hs

theorem Reach.exists_does (h : p.Reach q) : ∃ ds, p.Does ds q := by
  induction h with
  | refl => exact ⟨[], .refl⟩
  | step i _ hs ih =>
    rcases ih with ⟨ds, hdoes⟩
    exact ⟨_, .step i hdoes hs⟩

/--
The record of a pool tells the deeds of its workers, which are those of their attempts as far as
these have come, if `s₀` was shared when its phase began.
-/
structure Recorded (s₀ : Shared) (ds : List Deed) (p : Pool) : Prop where
  worded : ∀ l ∈ p.shared.board.feed.running, ∀ t ∈ p.tickets, l.task = some t.index →
    l.text = t.profile.wording.executing
  record : p.shared.board.record = s₀.board.record ++ ds.flatMap (·.entries)
  authors : ∀ d ∈ ds, ∃ t ∈ p.tickets, d.author = some t.index
  outstanding : ∀ w ∈ p.workers, ds.filter (·.author = some w.ticket.index) ++
    w.outstanding p.crew s₀ = w.ticket.deedsAt p.crew (s₀.nextAttempt w.ticket.index)

theorem filter_toList_self {w : Worker}
    : w.deed?.toList.filter (·.author = some w.ticket.index) = w.deed?.toList := by
  rw [List.filter_eq_self]
  intro d hd
  rw [Option.mem_toList] at hd
  exact decide_eq_true (Worker.author_deed? hd)

theorem filter_toList_of_ne {w : Worker} {i : Nat} (hi : i ≠ w.ticket.index)
    : w.deed?.toList.filter (·.author = some i) = [] := by
  rw [List.filter_eq_nil_iff]
  intro d hd
  rw [Option.mem_toList] at hd
  rw [Worker.author_deed? hd]
  simpa using hi.symm

theorem Recorded.step (h : q.Recorded s₀ ds) (hq : q.Proceeds s₀) {i : Nat}
    (hs : q.step? i = some r) : r.Recorded s₀ (ds ++ (q.deed? i).toList) := by
  rcases step?_eq_some hs with ⟨w, w', s, hw, hstep, rfl⟩
  have hmem : w ∈ q.workers := List.mem_of_getElem? hw
  have hstands := hq.stands w hmem
  have hticket : w.ticket ∈ q.tickets := List.mem_map_of_mem hmem
  have hprogress := Worker.progress_step? hq.inStep hstands hstep
  have hrecords := Worker.records_step? hq.inStep hstands
    (fun l hl htask => h.worded l hl w.ticket hticket htask) hstep
  have hdeed : q.deed? i = w.deed? := by
    unfold deed?
    rw [hw]
    rfl
  have htickets : (Pool.mk q.crew s (q.workers.set i w')).tickets = q.tickets :=
    tickets_set hw hprogress.ticket
  rw [hdeed]
  constructor
  . intro l hl t ht htask
    rw [htickets] at ht
    -- a new line is that of the stepping worker, who alone has its index
    cases hrecords.running l hl with
    | inl hold => exact h.worded l hold t ht htask
    | inr hnew =>
      have hindex : w.ticket.index = t.index := Option.some.inj (hnew.1.symm.trans htask)
      rw [← List.inj_on_of_nodup_map hq.indices hticket ht hindex]
      exact hnew.2
  . rw [hrecords.record, h.record, List.flatMap_append, List.append_assoc]
  . intro d hd
    rw [htickets]
    cases List.mem_append.1 hd with
    | inl hold => exact h.authors d hold
    | inr hnew => exact ⟨w.ticket, hticket, Worker.author_deed? (Option.mem_toList.1 hnew)⟩
  . intro v hv
    rw [List.filter_append]
    cases hq.mem_set hw hv with
    | inl heq =>
      rw [heq, hprogress.ticket, filter_toList_self, List.append_assoc,
        ← Worker.outstanding_step? hq.inStep hstands hstep]
      exact h.outstanding w hmem
    | inr hother =>
      rw [filter_toList_of_ne hother.2, List.append_nil]
      exact h.outstanding v hother.1

theorem Does.recorded (h : p.Does ds q) (hp : p.Proceeds s₀) (hr : p.Recorded s₀ [])
    : q.Recorded s₀ ds := by
  induction h with
  | refl => exact hr
  | step i hdoes hs ih => exact ih.step (hp.reach hdoes.reach).1 hs

theorem recorded_ofPhase (crew : Crew) {phase : Phase} (hrun : s₀.board.feed.running = [])
    : (ofPhase crew s₀ phase).Recorded s₀ [] := by
  constructor
  . intro l hl
    change l ∈ s₀.board.feed.running at hl
    rw [hrun] at hl
    cases hl
  . exact (List.append_nil _).symm
  . simp
  . intro w hw
    rcases List.mem_map.1 hw with ⟨t, -, rfl⟩
    rfl

end Pool

theorem Shared.Ready.recorded {crew : Crew} {s : Shared} {p : Phase} {q : Pool} {ds : List Deed}
    (h : s.Ready p.tickets) (hq : (Pool.ofPhase crew s p).Does ds q) : q.Recorded s ds :=
  hq.recorded (h.proceeds crew) (Pool.recorded_ofPhase crew h.running)

structure Shared.Recounts (crew : Crew) (tickets : List Ticket) (ds : List Deed) (s s' : Shared) :
    Prop where
  record : s'.board.record = s.board.record ++ ds.flatMap (·.entries)
  authors : ∀ d ∈ ds, ∃ t ∈ tickets, d.author = some t.index
  deeds : ∀ t ∈ tickets,
    ds.filter (·.author = some t.index) = t.deedsAt crew (s.nextAttempt t.index)

theorem Pool.Recorded.recounts {p : Pool} {s₀ : Shared} {ds : List Deed} (h : p.Recorded s₀ ds)
    (hd : p.isDone = true) : s₀.Recounts p.crew p.tickets ds p.shared := by
  refine ⟨h.record, h.authors, ?_⟩
  intro t ht
  rcases List.mem_map.1 ht with ⟨w, hw, rfl⟩
  have hgone := List.all_eq_true.1 hd w hw
  have hdone : w.outstanding p.crew s₀ = [] := by
    unfold Worker.isGone at hgone
    unfold Worker.outstanding
    split at hgone
    . next hstage => rw [hstage]
    . cases hgone
  have houtstanding := h.outstanding w hw
  rw [hdone, List.append_nil] at houtstanding
  exact houtstanding

namespace Shared.Recounts

variable {crew : Crew} {s s' s'' : Shared} {xs ys : List Ticket} {ds es : List Deed}

theorem refl (s : Shared) : s.Recounts crew [] [] s := by
  refine ⟨?_, by simp, by simp⟩
  rw [List.flatMap_nil, List.append_nil]

theorem filter_eq_nil (h : s.Recounts crew xs ds s') {i : Nat} (hi : i ∉ xs.map (·.index))
    : ds.filter (·.author = some i) = [] := by
  rw [List.filter_eq_nil_iff]
  intro d hd
  rcases h.authors d hd with ⟨t, ht, hauthor⟩
  rw [hauthor, decide_eq_true_iff, Option.some.injEq]
  intro heq
  apply hi
  rw [← heq]
  exact List.mem_map_of_mem ht

theorem trans (hready : s.Ready (xs ++ ys)) (hthrough : s.Through crew xs s')
    (hx : s.Recounts crew xs ds s') (hy : s'.Recounts crew ys es s'')
    : s.Recounts crew (xs ++ ys) (ds ++ es) s'' := by
  constructor
  . rw [hy.record, hx.record, List.flatMap_append, List.append_assoc]
  . intro d hd
    cases List.mem_append.1 hd with
    | inl hmem =>
      rcases hx.authors d hmem with ⟨t, ht, hauthor⟩
      exact ⟨t, List.mem_append_left _ ht, hauthor⟩
    | inr hmem =>
      rcases hy.authors d hmem with ⟨t, ht, hauthor⟩
      exact ⟨t, List.mem_append_right _ ht, hauthor⟩
  . intro t ht
    rw [List.filter_append]
    by_cases hmem : t ∈ ys
    . -- no code of this ticket has run in the first phases
      have hnot := hready.notMem_left hmem
      have hnumber : s'.nextAttempt t.index = s.nextAttempt t.index :=
        congrArg (· + 1) (hthrough.others t.index hnot).called
      rw [hx.filter_eq_nil hnot, List.nil_append, hy.deeds t hmem, hnumber]
    . have hxs : t ∈ xs := (List.mem_append.1 ht).resolve_right hmem
      have hnot : t.index ∉ ys.map (·.index) := by
        intro hindex
        rcases List.mem_map.1 hindex with ⟨u, hu, heq⟩
        apply hready.notMem_left hu
        rw [heq]
        exact List.mem_map_of_mem hxs
      rw [hy.filter_eq_nil hnot, List.append_nil]
      exact hx.deeds t hxs

theorem of_perm (h : s.Recounts crew xs ds s') (hperm : ys.Perm xs)
    : s.Recounts crew ys ds s' := by
  refine ⟨h.record, ?_, fun t ht => h.deeds t (hperm.mem_iff.1 ht)⟩
  intro d hd
  rcases h.authors d hd with ⟨t, ht, hauthor⟩
  exact ⟨t, hperm.mem_iff.2 ht, hauthor⟩

end Shared.Recounts

namespace Batch

inductive DoesPhases (d : Discipline) : Batch → List Phase → List Deed → Prop where
  | nil {b : Batch} : DoesPhases d b [] []
  | cons {b b' : Batch} {p : Phase} {ps : List Phase} {xs ys : List Deed} :
    (Pool.ofPhase b.crew b.shared p).Does xs (d.drain (.ofPhase b.crew b.shared p)) →
    b.runPhase d p = (.ok (), b') → DoesPhases d b' ps ys → DoesPhases d b (p :: ps) (xs ++ ys)

variable {d : Discipline} {b b' : Batch} {ds : List Deed}

theorem recounts_drain {p : Phase} (hready : b.shared.Ready p.tickets)
    (h : (Pool.ofPhase b.crew b.shared p).Does ds (d.drain (.ofPhase b.crew b.shared p)))
    : b.shared.Recounts b.crew p.tickets ds (b.runPhase d p).2.shared := by
  have hrecounts := (hready.recorded h).recounts (d.isDone_drain _)
  rcases hready.reach (d.reach_drain _) with ⟨-, hcrew, htickets⟩
  rw [hcrew, htickets] at hrecounts
  rw [shared_runPhase]
  exact hrecounts

theorem exists_doesPhases (d : Discipline) {ps : List Phase}
    (hready : b.shared.Ready (ps.flatMap (·.tickets))) : ∃ ds, DoesPhases d b ps ds := by
  induction ps generalizing b with
  | nil => exact ⟨[], .nil⟩
  | cons p ps ih =>
    rw [List.flatMap_cons] at hready
    rcases runPhase_eq d b hready.left with ⟨s, hphase, hthrough⟩
    rcases (d.reach_drain (.ofPhase b.crew b.shared p)).exists_does with ⟨xs, hxs⟩
    rcases ih (b := { b with shared := s, results := _ }) (hready.right hthrough) with ⟨ys, hys⟩
    exact ⟨xs ++ ys, .cons hxs hphase hys⟩

theorem DoesPhases.recounts {ps : List Phase} (h : DoesPhases d b ps ds)
    (hready : b.shared.Ready (ps.flatMap (·.tickets))) (hps : runPhases d b ps = (.ok (), b'))
    : b.shared.Recounts b.crew (ps.flatMap (·.tickets)) ds b'.shared := by
  induction h with
  | nil =>
    cases hps
    exact .refl _
  | @cons b b₁ p ps xs ys hxs hphase _ ih =>
    rw [List.flatMap_cons] at hready ⊢
    rcases runPhase_eq d b hready.left with ⟨s, hphase', hthrough⟩
    have hrecounts := recounts_drain hready.left hxs
    rw [hphase] at hphase' hrecounts
    cases hphase'
    unfold runPhases at hps
    rw [hphase] at hps
    exact .trans hready hthrough hrecounts (ih (hready.right hthrough) hps)

end Batch

end SetupBatch
