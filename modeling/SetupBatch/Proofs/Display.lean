import SetupBatch.Proofs.Telling
import SetupBatch.Terminal

/-!
This module contains the verification of what the terminal prints of the feed. A line enters the
stream with the next number when it is made, and whenever it comes back its number is known: so it
is printed once, as it was made, whatever its position.
-/

namespace SetupBatch

def Line.shown (l : Line) : String :=
  let mark := if l.running then ".." else l.severity.mark
  s!"  {mark} {l.text}"

def Line.label (l : Line) : LineId × String × Option Nat := (l.id, l.text, l.task)

theorem Line.label_settledAs (l : Line) (o : Outcome) : (l.settledAs o).label = l.label := rfl

namespace Event

def addsLine : Event → Bool
  | .lineAdded .. => true
  | _ => false

def isSilent : Event → Bool
  | .lineRemoved .. | .noticeRemoved _ | .failureCount _ | .progress (.determinate 0 _) => true
  | _ => false

def unplaced : Event → Event
  | .lineAdded _ line => .lineAdded 0 line
  | .lineRemoved _ id => .lineRemoved 0 id
  | e => e

theorem addsLine_eq_false {e : Event} (h : e.changesLines = false) : e.addsLine = false := by
  cases e <;> first | rfl | cases h

end Event

namespace Terminal

def after (t : Terminal) (es : List Event) : Terminal := es.foldl (fun t e => (t.display e).2) t

def shows (t : Terminal) : List Event → List (Event × Option String)
  | [] => []
  | e :: es => (e, (t.display e).1) :: (t.display e).2.shows es

def feedLines (t : Terminal) (es : List Event) : List String :=
  (t.shows es).filterMap fun x => if x.1.addsLine then x.2 else none

variable {t : Terminal} {e : Event}

theorem displayAll_eq (t : Terminal) (es : List Event)
    : t.displayAll es = (t.shows es).filterMap (·.2) := by
  induction es generalizing t with
  | nil => rfl
  | cons e es ih =>
    show (t.display e).1.toList ++ (t.display e).2.displayAll es = _
    rw [ih, shows]
    cases hprinted : (t.display e).1 <;> simp

theorem map_shows (t : Terminal) (es : List Event) : (t.shows es).map (·.1) = es := by
  induction es generalizing t with
  | nil => rfl
  | cons e es ih => rw [shows, List.map_cons, ih]

theorem after_concat (t : Terminal) (es : List Event) (e : Event)
    : t.after (es ++ [e]) = ((t.after es).display e).2 := by
  unfold after
  rw [List.foldl_append]
  rfl

theorem shows_concat (t : Terminal) (es : List Event) (e : Event)
    : t.shows (es ++ [e]) = t.shows es ++ [(e, ((t.after es).display e).1)] := by
  induction es generalizing t with
  | nil => rfl
  | cons e' es ih =>
    rw [List.cons_append, shows, shows, ih]
    rfl

theorem feedLines_concat_other (t : Terminal) (es : List Event) (h : e.addsLine = false)
    : t.feedLines (es ++ [e]) = t.feedLines es := by
  unfold feedLines
  rw [shows_concat, List.filterMap_append, List.filterMap_cons]
  simp [h]

theorem feedLines_concat (t : Terminal) (es : List Event) (position : Nat) (l : Line)
    : t.feedLines (es ++ [.lineAdded position l]) =
        t.feedLines es ++ ((t.after es).display (.lineAdded position l)).1.toList := by
  unfold feedLines
  rw [shows_concat, List.filterMap_append]
  cases hprinted : ((t.after es).display (.lineAdded position l)).1 <;> simp [Event.addsLine]

theorem display_lineAdded_of_mem {l : Line} (h : l.id ∈ t.shown) (position : Nat)
    : t.display (.lineAdded position l) = (none, t) := by
  simp only [display, h, if_true]

theorem display_lineAdded_of_notMem {l : Line} (h : l.id ∉ t.shown) (position : Nat)
    : t.display (.lineAdded position l) = (some l.shown, { shown := l.id :: t.shown }) := by
  simp only [display, h, if_false]
  rfl

theorem display_other (t : Terminal) (h : e.addsLine = false)
    : (t.display e).2 = t ∧ ((t.display e).1 = none ↔ e.isSilent = true) := by
  cases e with
  | lineAdded position line => cases h
  | progress display =>
    cases display with
    | indeterminate => simp [Terminal.display, Event.isSilent]
    | determinate started total => cases started <;> simp [Terminal.display, Event.isSilent]
  | _ => simp [Terminal.display, Event.isSilent]

theorem display_unplaced (t : Terminal) (e : Event) : t.display e.unplaced = t.display e := by
  cases e <;> rfl

theorem feedLines_unplaced (t : Terminal) (es : List Event)
    : t.feedLines (es.map Event.unplaced) = t.feedLines es := by
  induction es generalizing t with
  | nil => rfl
  | cons e es ih =>
    have hadds : e.unplaced.addsLine = e.addsLine := by cases e <;> rfl
    unfold feedLines at ih ⊢
    simp only [List.map_cons, shows, List.filterMap_cons, display_unplaced, hadds, ih]

end Terminal

/--
The streams by which these lines have been made, in order: each has entered with the next number,
and no other line has left or come back.
-/
inductive Register : List Event → List Line → Prop where
  | empty : Register [] []
  | other {es ls} (e : Event) : Register es ls → e.changesLines = false → Register (es ++ [e]) ls
  | enter {es ls} (position : Nat) (l : Line) : Register es ls → l.id.number = ls.length →
      Register (es ++ [.lineAdded position l]) (ls ++ [l])
  | leave {es ls} (position : Nat) (id : LineId) : Register es ls → id.number < ls.length →
      Register (es ++ [.lineRemoved position id]) ls
  | comeBack {es ls} (position : Nat) (l : Line) : Register es ls → l.id.number < ls.length →
      Register (es ++ [.lineAdded position l]) ls

namespace Register

open Terminal

variable {es : List Event} {ls : List Line}

theorem ids_eq (h : Register es ls) : ls.map (·.id.number) = List.range ls.length := by
  induction h with
  | empty => rfl
  | other _ _ _ ih => exact ih
  | enter position l _ hl ih =>
    rw [List.map_append, ih, List.length_append, List.length_singleton, List.range_succ, ← hl]
    rfl
  | leave _ _ _ _ ih => exact ih
  | comeBack _ _ _ _ ih => exact ih

theorem mem_shown_iff (h : Register es ls) (id : LineId)
    : id ∈ (after {} es).shown ↔ id.number < ls.length := by
  induction h generalizing id with
  | empty => simp [after]
  | other e _ he ih =>
    rw [after_concat, (display_other _ (Event.addsLine_eq_false he)).1]
    exact ih id
  | @enter es ls position l _ hl ih =>
    have hnew : l.id ∉ (after {} es).shown := by
      rw [ih, hl]
      exact Nat.lt_irrefl _
    have hid : id = l.id ↔ id.number = ls.length := by
      rw [← hl]
      exact ⟨congrArg _, fun h => congrArg LineId.mk h⟩
    rw [after_concat, display_lineAdded_of_notMem hnew, List.mem_cons, ih, hid, List.length_append,
      List.length_singleton]
    omega
  | leave position id' _ _ ih =>
    rw [after_concat]
    exact ih id
  | comeBack position l _ hl ih =>
    rw [after_concat, display_lineAdded_of_mem ((ih _).2 hl)]
    exact ih id

theorem feedLines_eq (h : Register es ls) : feedLines {} es = ls.map Line.shown := by
  induction h with
  | empty => rfl
  | other e _ he ih =>
    rw [feedLines_concat_other _ _ (Event.addsLine_eq_false he), ih]
  | @enter es ls position l h hl ih =>
    have hnew : l.id ∉ (after {} es).shown := by
      rw [h.mem_shown_iff, hl]
      exact Nat.lt_irrefl _
    rw [feedLines_concat, display_lineAdded_of_notMem hnew, ih, List.map_append]
    rfl
  | leave position id _ _ ih => rw [feedLines_concat_other _ _ rfl, ih]
  | comeBack position l h hl ih =>
    rw [feedLines_concat, display_lineAdded_of_mem ((h.mem_shown_iff _).2 hl), ih]
    exact List.append_nil _

theorem of_isPrefix (h : Register es ls) {es' : List Event} (hes : es' <+: es)
    : ∃ ls', Register es' ls' := by
  induction h with
  | empty =>
    rw [List.prefix_nil.1 hes]
    exact ⟨_, .empty⟩
  | other e h he ih =>
    cases List.prefix_concat_iff.1 hes with
    | inl heq => rw [heq]; exact ⟨_, .other e h he⟩
    | inr hes => exact ih hes
  | enter position l h hl ih =>
    cases List.prefix_concat_iff.1 hes with
    | inl heq => rw [heq]; exact ⟨_, .enter position l h hl⟩
    | inr hes => exact ih hes
  | leave position id h hid ih =>
    cases List.prefix_concat_iff.1 hes with
    | inl heq => rw [heq]; exact ⟨_, .leave position id h hid⟩
    | inr hes => exact ih hes
  | comeBack position l h hl ih =>
    cases List.prefix_concat_iff.1 hes with
    | inl heq => rw [heq]; exact ⟨_, .comeBack position l h hl⟩
    | inr hes => exact ih hes

theorem number_lt_of_left (h : Register es ls) {position : Nat} {id : LineId}
    (hleft : .lineRemoved position id ∈ es) : id.number < ls.length := by
  induction h with
  | empty => cases hleft
  | other e _ he ih =>
    cases List.mem_append.1 hleft with
    | inl hmem => exact ih hmem
    | inr heq => cases List.mem_singleton.1 heq; cases he
  | enter position' l _ _ ih =>
    cases List.mem_append.1 hleft with
    | inl hmem => exact Nat.lt_of_lt_of_le (ih hmem) (by simp)
    | inr heq => cases List.mem_singleton.1 heq
  | leave position' id' _ hid ih =>
    cases List.mem_append.1 hleft with
    | inl hmem => exact ih hmem
    | inr heq => cases List.mem_singleton.1 heq; exact hid
  | comeBack position' l _ _ ih =>
    cases List.mem_append.1 hleft with
    | inl hmem => exact ih hmem
    | inr heq => cases List.mem_singleton.1 heq

theorem others (h : Register es ls) {xs : List Event} (hxs : ∀ e ∈ xs, e.changesLines = false)
    : Register (es ++ xs) ls := by
  induction xs generalizing es with
  | nil =>
    rw [List.append_nil]
    exact h
  | cons x xs ih =>
    have hone := Register.other x h (hxs x (List.mem_cons_self ..))
    have hall := ih hone fun e he => hxs e (List.mem_cons_of_mem _ he)
    rwa [List.append_assoc] at hall

end Register

namespace Board

def creates (b : Board) : Operation → List Line
  | .start t =>
    match b.tally.start t.index with
    | .ok _ => [b.feed.opening t.profile.wording.executing t.index]
    | .error _ => []
  | .finish t line o _ =>
    match b.tally.report t o with
    | .ok _ =>
      (b.feed.running.find? (·.id == line)).toList.map
        (b.feed.closing · o (t.profile.wording.tell o))
    | .error _ => []
  | .say text severity => [b.feed.remark text severity]
  | _ => []

def created (b : Board) : List Operation → List Line
  | [] => []
  | op :: ops => b.creates op ++ (b.carryOut op).created ops

structure Registers (b : Board) (ls : List Line) : Prop where
  tells : b.stream.Tells b.feed
  register : Register b.told ls
  next : ls.length = b.feed.next
  labels : (b.feed.lines.map Line.label).Perm (ls.map Line.label)

variable {b : Board} {ls : List Line}

theorem Registers.same (h : b.Registers ls) {b' : Board} (htells : b'.stream.Tells b'.feed)
    (hfeed : b'.feed = b.feed) {xs : List Event} (htold : b'.told = b.told ++ xs)
    (hxs : ∀ e ∈ xs, e.changesLines = false) : b'.Registers ls := by
  refine ⟨htells, ?_, by rw [hfeed, h.next], by rw [hfeed]; exact h.labels⟩
  rw [htold]
  exact h.register.others hxs

theorem registers_start (h : b.Registers ls) (t : Ticket)
    : (b.start t).2.Registers (ls ++ b.creates (.start t)) := by
  have htells := tells_start h.tells t
  have htold := told_start_eq h.tells.heard t
  have hparts := Feed.parts_begin h.tells.sound t.profile.wording.executing t.index
  simp only [telling, creates] at htold ⊢
  cases htally : b.tally.start t.index with
  | error breach =>
    rw [List.append_nil]
    rwa [show (b.start t).2 = b by simp only [start, htally]]
  | ok tally =>
    have hfeed := feed_start_of_ok htally
    simp only [htally] at htold
    have hannounced := Register.other (announcement { b with tally } t) h.register (by
      unfold announcement
      split <;> rfl)
    refine ⟨htells, ?_, ?_, ?_⟩
    . rw [htold]
      simpa using hannounced.enter b.feed.lines.length
        (b.feed.opening t.profile.wording.executing t.index) h.next.symm
    . rw [hfeed, List.length_append, h.next]
      rfl
    . rw [hfeed, Feed.begin_eq, List.map_append, List.map_append]
      exact h.labels.append_right _

theorem registers_finish (h : b.Registers ls) (t : Ticket) (id : LineId) (o : Outcome)
    (detail : Option String)
    : (b.finish t id o detail).2.Registers (ls ++ b.creates (.finish t id o detail)) := by
  have htells := tells_finish h.tells t id o detail
  have htold := told_finish_eq h.tells.heard t id o detail
  have hnotice : ∀ e ∈ (b.notice? t o detail).toList.map Event.noticeAdded,
      e.changesLines = false := by
    intro e he
    rcases List.mem_map.1 he with ⟨notice, -, rfl⟩
    rfl
  simp only [telling, closing, creates] at htold ⊢
  cases htally : b.tally.report t o with
  | error breach =>
    rw [List.append_nil]
    rwa [show (b.finish t id o detail).2 = b by simp only [finish, htally]]
  | ok tally =>
    simp only [htally] at htold
    rcases Feed.settle_cases h.tells.sound id o (t.profile.wording.tell o) with
      ⟨hfind, breach, hsettle⟩ | ⟨xs, line, ys, hrun, rfl, hfind⟩
    . have hfeed : (b.finish t id o detail).2.feed = b.feed := by
        simp only [finish, htally, feed_raiseFor, hsettle]
      simp only [hsettle, List.append_nil] at htold
      rw [hfind]
      exact (List.append_nil ls).symm ▸ h.same htells hfeed htold hnotice
    . have hsettle := Feed.settle_eq h.tells.sound hrun o (t.profile.wording.tell o)
      have hknown : line.id.number < ls.length := by
        rw [h.next]
        exact h.tells.sound.fresh line (Feed.mem_lines.2 (.inr (by rw [hrun]; simp)))
      have hlabels : ((b.finish t line.id o detail).2.feed.lines.map Line.label).Perm
          (b.feed.lines.map Line.label ++
            [(b.feed.closing line o (t.profile.wording.tell o)).label]) := by
        rw [feed_finish htally hsettle, ← Feed.settled_append_running b.feed, hrun]
        simp only [List.map_append, List.map_cons, Line.label_settledAs]
        grind
      simp only [hsettle] at htold
      rw [hfind]
      refine ⟨htells, ?_, ?_, ?_⟩
      . rw [htold]
        -- the line leaves and comes back, and the one that tells of it is new
        have hleft := (h.register.others hnotice).leave
          (b.feed.settled.length + xs.length) line.id hknown
        have hback := hleft.comeBack b.feed.settled.length (line.settledAs o) hknown
        have hclosed := hback.enter (b.feed.settled.length + 1)
          (b.feed.closing line o (t.profile.wording.tell o)) h.next.symm
        simpa [Event.ofChange] using hclosed.other (.failureCount tally.standing.pass.failed) rfl
      . rw [feed_finish htally hsettle, ← h.next]
        exact List.length_append
      . rw [List.map_append]
        exact hlabels.trans (h.labels.append_right _)

theorem registers_say (h : b.Registers ls) (text : String) (severity : Severity)
    : (b.say text severity).Registers (ls ++ b.creates (.say text severity)) := by
  have htold := told_carryOut h.tells.heard (.say text severity)
  refine ⟨h.tells.add text severity, ?_, ?_, ?_⟩
  . simp only [telling, Feed.add_eq h.tells.sound] at htold
    change Register (b.carryOut (.say text severity)).told _
    rw [htold]
    exact h.register.enter _ (b.feed.remark text severity) h.next.symm
  . rw [List.length_append, h.next]
    rfl
  . have hlines : (b.say text severity).feed.lines = _ :=
      congrArg Feed.lines (congrArg Prod.snd (Feed.add_eq h.tells.sound text severity))
    have hmoved : ((b.feed.settled ++ b.feed.remark text severity :: b.feed.running).map
        Line.label).Perm
          (b.feed.lines.map Line.label ++ [(b.feed.remark text severity).label]) := by
      rw [← Feed.settled_append_running b.feed]
      simp only [List.map_append, List.map_cons]
      grind
    rw [hlines]
    refine hmoved.trans ?_
    rw [List.map_append]
    exact h.labels.append_right _

theorem Registers.carryOut (h : b.Registers ls) (op : Operation)
    : (b.carryOut op).Registers (ls ++ b.creates op) := by
  have htells := tells_carryOut h.tells op
  have htold := told_carryOut h.tells.heard op
  have hsame (hfeed : (b.carryOut op).feed = b.feed) (hcreates : b.creates op = [])
      (hnone : ∀ e ∈ b.telling op, e.changesLines = false)
      : (b.carryOut op).Registers (ls ++ b.creates op) := by
    rw [hcreates, List.append_nil]
    exact h.same htells hfeed htold hnone
  cases op with
  | start t => exact registers_start h t
  | finish t id o detail => exact registers_finish h t id o detail
  | say text severity => exact registers_say h text severity
  | beginPass tickets => exact hsame rfl rfl (by simp [telling, Event.changesLines])
  | endPass =>
    apply hsame _ rfl
    . simp only [telling]
      split <;> simp [progress, Event.changesLines]
    . simp only [Board.carryOut, endPass]
      split <;> rfl
  | request notice kind =>
    apply hsame (feed_request b notice kind) rfl
    cases kind <;> simp [telling, Event.changesLines]
  | clearNotices => exact hsame rfl rfl (by simp [telling, Event.changesLines])
  | takeFailed => exact hsame rfl rfl (by simp [telling, Event.changesLines])

theorem Registers.carryOutAll (h : b.Registers ls) (ops : List Operation)
    : (b.carryOutAll ops).Registers (ls ++ b.created ops) := by
  induction ops generalizing b ls with
  | nil =>
    rw [created, List.append_nil]
    exact h
  | cons op ops ih =>
    rw [created, ← List.append_assoc]
    exact ih (h.carryOut op)

theorem registers_new (retryBudget : Nat) (target : Target) (clock : Nat → Instant)
    : (new retryBudget target clock).Registers [] := by
  refine ⟨.empty clock, .empty, rfl, .refl _⟩

/--
What a terminal prints for the events of a board on which these lines have been made.
-/
structure Shown (b : Board) (ls : List Line) : Prop where
  events : (({} : Terminal).shows b.told).map (·.1) = b.told
  printed : Terminal.print false b.told = (({} : Terminal).shows b.told).filterMap (·.2)
  lines : Terminal.feedLines {} b.told = ls.map Line.shown
  ids : ls.map (·.id.number) = List.range ls.length
  labels : (b.feed.lines.map Line.label).Perm (ls.map Line.label)
  again : ∀ (es : List Event) (position : Nat) (l : Line),
    es ++ [.lineAdded position l] <+: b.told → (∃ before, .lineRemoved before l.id ∈ es) →
      ((Terminal.after {} es).display (.lineAdded position l)).1 = none
  positions : ∀ es : List Event, es.map Event.unplaced = b.told.map Event.unplaced →
    Terminal.feedLines {} es = ls.map Line.shown
  others : ∀ (t : Terminal) (e : Event), e.addsLine = false →
    (t.display e).2 = t ∧ ((t.display e).1 = none ↔ e.isSilent = true)

theorem Registers.shown (h : b.Registers ls) : b.Shown ls := by
  refine ⟨Terminal.map_shows _ _, Terminal.displayAll_eq _ _, h.register.feedLines_eq,
    h.register.ids_eq, h.labels, ?_, ?_, fun t _ he => Terminal.display_other t he⟩
  . rintro es position l hes ⟨left, hleft⟩
    rcases h.register.of_isPrefix ((List.prefix_append _ _).trans hes) with ⟨made, hmade⟩
    have hknown := (hmade.mem_shown_iff l.id).2 (hmade.number_lt_of_left hleft)
    rw [Terminal.display_lineAdded_of_mem hknown]
  . intro es hes
    rw [← Terminal.feedLines_unplaced, hes, Terminal.feedLines_unplaced, h.register.feedLines_eq]

/--
Whatever a history of a board does, the terminal prints each line that it makes exactly once, in the
order in which the lines are made.
-/
theorem shown_carryOutAll (retryBudget : Nat) (target : Target) (clock : Nat → Instant)
    (ops : List Operation)
    : ((new retryBudget target clock).carryOutAll ops).Shown
        ((new retryBudget target clock).created ops) := by
  exact ((registers_new retryBudget target clock).carryOutAll ops).shown

example
    : let profile : Profile := { (default : Profile) with wording := .ofLabel "A" }
      let t : Ticket := ⟨0, { profile, attempt := fun _ => {} }, none⟩
      let ops := [.beginPass [t], .start t, .say "B" .info, .finish t ⟨0⟩ .failed none]
      Terminal.feedLines {} ((new 1 .here).carryOutAll ops).told =
        ["  .. A...", "  - B", "  x A: failed"] := by
  decide +kernel

end Board

end SetupBatch
