import Mathlib.Data.List.Basic
import SetupBatch.Proofs.Feed
import SetupBatch.Proofs.Operation

/-!
This module contains the verification of the event stream as a record of the feed. Whoever applies
the insertions and removals of the stream to an empty list obtains the lines of the feed, and sees
a list with all running lines at its end after every single event.
-/

namespace SetupBatch

namespace Event

def replay? (lines : List Line) : Event → Option (List Line)
  | .lineAdded position line =>
    if position ≤ lines.length then some (lines.insertIdx position line) else none
  | .lineRemoved position id =>
    if (lines[position]?).map (·.id) = some id then some (lines.eraseIdx position) else none
  | _ => some lines

def settledAt? : Event → Option Nat
  | .lineAdded position line => if line.running then none else some position
  | _ => none

def changesLines : Event → Bool
  | .lineAdded .. | .lineRemoved .. => true
  | _ => false

end Event

def replay? (es : List Event) : Option (List Line) := es.foldlM Event.replay? []

/--
The event streams of a feed with these settled and these running lines.
-/
inductive Story : List Event → List Line → List Line → Prop where
  | empty : Story [] [] []
  | other {es s r} (e : Event) : Story es s r → e.changesLines = false → Story (es ++ [e]) s r
  | begin {es s r} (l : Line) : Story es s r → l.running = true →
      Story (es ++ [.lineAdded (s.length + r.length) l]) s (r ++ [l])
  | remove {es s} (xs : List Line) (l : Line) (ys : List Line) : Story es s (xs ++ l :: ys) →
      Story (es ++ [.lineRemoved (s.length + xs.length) l.id]) s (xs ++ ys)
  | settle {es s r} (l : Line) : Story es s r → l.running = false →
      Story (es ++ [.lineAdded s.length l]) (s ++ [l]) r

namespace Story

variable {es : List Event} {s r : List Line}

theorem replay?_concat (es : List Event) (e : Event)
    : SetupBatch.replay? (es ++ [e]) =
        (SetupBatch.replay? es).bind fun lines => e.replay? lines := by
  unfold SetupBatch.replay?
  rw [List.foldlM_append]
  simp

theorem replay?_eq (h : Story es s r) : replay? es = some (s ++ r) := by
  induction h with
  | empty => rfl
  | other e _ he ih =>
    rw [replay?_concat, ih]
    cases e <;> simp [Event.changesLines] at he <;> rfl
  | begin l _ _ ih =>
    rw [replay?_concat, ih]
    simp only [Option.bind_some, Event.replay?, ← List.length_append, Nat.le_refl, if_true]
    rw [List.insertIdx_length_self, List.append_assoc]
  | @remove es s xs l ys _ ih =>
    rw [replay?_concat, ih]
    have hget : (s ++ (xs ++ l :: ys))[s.length + xs.length]? = some l := by
      rw [List.getElem?_append_right (by omega), List.getElem?_append_right (by omega)]
      simp
    simp only [Option.bind_some, Event.replay?, hget, Option.map_some, if_true]
    rw [List.eraseIdx_append_of_length_le (by omega), List.eraseIdx_append_of_length_le (by omega)]
    simp
  | @settle es s r l _ _ ih =>
    rw [replay?_concat, ih]
    simp only [Option.bind_some, Event.replay?, List.length_append, Nat.le_add_right, if_true]
    rw [Feed.insertIdx_boundary, List.append_assoc]
    rfl

theorem running_eq_false (h : Story es s r) : ∀ l ∈ s, l.running = false := by
  induction h with
  | empty => simp
  | other _ _ _ ih => exact ih
  | begin _ _ _ ih => exact ih
  | remove _ _ _ _ ih => exact ih
  | settle l _ hl ih =>
    intro l' hl'
    cases List.mem_append.1 hl' with
    | inl hmem => exact ih l' hmem
    | inr heq => rw [List.mem_singleton.1 heq, hl]

theorem running_eq_true (h : Story es s r) : ∀ l ∈ r, l.running = true := by
  induction h with
  | empty => simp
  | other _ _ _ ih => exact ih
  | begin l _ hl ih =>
    intro l' hl'
    cases List.mem_append.1 hl' with
    | inl hmem => exact ih l' hmem
    | inr heq => rw [List.mem_singleton.1 heq, hl]
  | remove xs l ys _ ih =>
    intro l' hl'
    apply ih
    rw [List.mem_append] at hl' ⊢
    exact hl'.imp_right (List.mem_cons_of_mem _)
  | settle _ _ _ ih => exact ih

theorem settledAt?_eq (h : Story es s r) : es.filterMap Event.settledAt? = List.range s.length := by
  induction h with
  | empty => rfl
  | other e _ he ih =>
    rw [List.filterMap_append, ih]
    cases e <;> simp [Event.changesLines] at he <;> simp [Event.settledAt?]
  | begin l _ hl ih =>
    rw [List.filterMap_append, ih]
    simp [Event.settledAt?, hl]
  | remove _ _ _ _ ih =>
    rw [List.filterMap_append, ih]
    simp [Event.settledAt?]
  | settle l _ hl ih =>
    rw [List.filterMap_append, ih, List.length_append, List.length_singleton, List.range_succ]
    simp [Event.settledAt?, hl]

theorem of_isPrefix (h : Story es s r) {es' : List Event} (hes : es' <+: es)
    : ∃ s' r', Story es' s' r' := by
  induction h with
  | empty =>
    rw [List.prefix_nil.1 hes]
    exact ⟨_, _, .empty⟩
  | other e h he ih =>
    cases List.prefix_concat_iff.1 hes with
    | inl heq => rw [heq]; exact ⟨_, _, .other e h he⟩
    | inr hes => exact ih hes
  | begin l h hl ih =>
    cases List.prefix_concat_iff.1 hes with
    | inl heq => rw [heq]; exact ⟨_, _, .begin l h hl⟩
    | inr hes => exact ih hes
  | remove xs l ys h ih =>
    cases List.prefix_concat_iff.1 hes with
    | inl heq => rw [heq]; exact ⟨_, _, .remove xs l ys h⟩
    | inr hes => exact ih hes
  | settle l h hl ih =>
    cases List.prefix_concat_iff.1 hes with
    | inl heq => rw [heq]; exact ⟨_, _, .settle l h hl⟩
    | inr hes => exact ih hes

end Story

namespace Stream

theorem tellAll_cons (s : Stream) (e : Event) (es : List Event)
    : s.tellAll (e :: es) = (s.tell e).tellAll es := by
  rfl

theorem isPrefix_tell (s : Stream) (e : Event) : s.told <+: (s.tell e).told := by
  rw [told_tell]
  split
  . apply List.prefix_append
  . exact List.prefix_rfl

theorem isPrefix_tellAll (s : Stream) (es : List Event) : s.told <+: (s.tellAll es).told := by
  induction es generalizing s with
  | nil => exact List.prefix_rfl
  | cons e es ih => exact (isPrefix_tell s e).trans (ih _)

/-- A stream that is heard and has told how the feed came to be. -/
structure Tells (s : Stream) (f : Feed) : Prop where
  heard : s.heard = true
  sound : f.Sound
  story : Story s.told f.settled f.running

namespace Tells

variable {s : Stream} {f : Feed}

theorem empty (clock : Nat → Instant) : ({} : Stream).Tells { clock } :=
  ⟨rfl, Feed.Sound.empty clock, .empty⟩

theorem of_story {g : Feed} {e : Event} (h : s.Tells f) (hg : g.Sound)
    (hstory : Story (s.told ++ [e]) g.settled g.running) : (s.tell e).Tells g := by
  constructor
  . rw [heard_tell, h.heard]
  . exact hg
  . rw [told_tell, h.heard, if_pos rfl]
    exact hstory

theorem tell (h : s.Tells f) {e : Event} (he : e.changesLines = false) : (s.tell e).Tells f := by
  exact h.of_story h.sound (.other e h.story he)

theorem tellAll (h : s.Tells f) {es : List Event} (hes : ∀ e ∈ es, e.changesLines = false)
    : (s.tellAll es).Tells f := by
  induction es generalizing s with
  | nil => exact h
  | cons e es ih =>
    rw [tellAll_cons]
    apply ih
    . exact h.tell (hes e (by simp))
    . intro e' he'
      exact hes e' (List.mem_cons_of_mem _ he')

theorem begin (h : s.Tells f) (text : String) (task : Nat)
    : (s.tell (.ofChange (f.begin text task).2.1)).Tells (f.begin text task).2.2 := by
  have hparts := Feed.parts_begin h.sound text task
  apply h.of_story (h.sound.begin text task)
  rw [hparts.1, hparts.2, Feed.begin_eq, ← Feed.settled_append_running f, List.length_append]
  exact .begin _ h.story rfl

theorem add (h : s.Tells f) (text : String) (severity : Severity)
    : (s.tell (.ofChange (f.add text severity).1)).Tells (f.add text severity).2 := by
  have hparts := Feed.parts_add h.sound text severity
  apply h.of_story (h.sound.add text severity)
  rw [hparts.1, hparts.2, Feed.add_eq h.sound]
  exact .settle _ h.story rfl

theorem settle (h : s.Tells f) {id : LineId} {o : Outcome} {text : String}
    {cs : List Feed.Change} {g : Feed} (hs : f.settle id o text = .ok (cs, g))
    : (s.tellAll (cs.map .ofChange)).Tells g := by
  rcases Feed.mem_running_of_settle h.sound hs with ⟨line, hmem, rfl⟩
  rcases List.append_of_mem hmem with ⟨xs, ys, hrun⟩
  have hparts := Feed.parts_settle h.sound hrun hs
  have hg := h.sound.settle hs
  rw [Feed.settle_eq h.sound hrun, Except.ok.injEq, Prod.mk.injEq] at hs
  have hstory := h.story
  rw [hrun] at hstory
  have hmoved := Story.settle (line.settledAs o) (.remove xs line ys hstory) rfl
  have hclosing := Story.settle (f.closing line o text) hmoved rfl
  constructor
  . rw [← hs.1]
    simp [Stream.tellAll, heard_tell, h.heard]
  . exact hg
  . rw [hparts.1, hparts.2, ← hs.1]
    simpa [tellAll_cons, Stream.tellAll, told_tell, heard_tell, h.heard, Event.ofChange]
      using hclosing

end Tells

end Stream

namespace Board

variable {b : Board}

theorem tells_raiseFor (h : b.stream.Tells b.feed) (p : Profile) (o : Outcome)
    (detail : Option String)
    : (b.raiseFor p o detail).stream.Tells (b.raiseFor p o detail).feed := by
  cases o with
  | succeeded => exact h
  | needsReboot => exact h.tell rfl
  | failed => exact h.tell rfl

theorem tells_start (h : b.stream.Tells b.feed) (t : Ticket)
    : (b.start t).2.stream.Tells (b.start t).2.feed := by
  unfold start
  split
  . exact h
  . next tally _ =>
    have hannounce : (Board.announcement { b with tally, feed := (b.feed.begin
        t.profile.wording.executing t.index).2.2 } t).changesLines = false := by
      unfold announcement
      split <;> rfl
    exact (h.tell hannounce).begin _ _

theorem tells_finish (h : b.stream.Tells b.feed) (t : Ticket) (line : LineId) (o : Outcome)
    (detail : Option String)
    : (b.finish t line o detail).2.stream.Tells (b.finish t line o detail).2.feed := by
  unfold finish
  split
  . exact h
  . next tally _ =>
    have hraised := tells_raiseFor (b := { b with tally }) h t.profile o detail
    dsimp only
    split
    . exact hraised
    . next hsettle => exact (hraised.settle hsettle).tell rfl

theorem tells_carryOut (h : b.stream.Tells b.feed) (op : Operation)
    : (b.carryOut op).stream.Tells (b.carryOut op).feed := by
  cases op with
  | beginPass tickets => exact h.tell rfl
  | endPass =>
    simp only [carryOut, endPass]
    split
    . exact h.tell rfl
    . exact h
  | start t => exact tells_start h t
  | finish t line o detail => exact tells_finish h t line o detail
  | say text severity => exact h.add text severity
  | request notice kind =>
    cases kind with
    | add => exact h.tell rfl
    | remove =>
      simp only [carryOut, request, withdraw]
      split
      . exact h
      . exact h.tell rfl
  | clearNotices =>
    apply h.tellAll
    intro e he
    rcases List.mem_map.1 he with ⟨notice, -, rfl⟩
    rfl
  | takeFailed => exact h.tell rfl

theorem tells_carryOutAll (h : b.stream.Tells b.feed) (ops : List Operation)
    : (b.carryOutAll ops).stream.Tells (b.carryOutAll ops).feed := by
  induction ops generalizing b with
  | nil => exact h
  | cons op ops ih => exact ih (tells_carryOut h op)

theorem isPrefix_raiseFor (b : Board) (p : Profile) (o : Outcome) (detail : Option String)
    : b.told <+: (b.raiseFor p o detail).told := by
  cases o with
  | succeeded => exact List.prefix_rfl
  | needsReboot => exact Stream.isPrefix_tell _ _
  | failed => exact Stream.isPrefix_tell _ _

theorem isPrefix_start (b : Board) (t : Ticket) : b.told <+: (b.start t).2.told := by
  unfold start
  split
  . exact List.prefix_rfl
  . exact (Stream.isPrefix_tell _ _).trans (Stream.isPrefix_tellAll _ _)

theorem isPrefix_finish (b : Board) (t : Ticket) (line : LineId) (o : Outcome)
    (detail : Option String) : b.told <+: (b.finish t line o detail).2.told := by
  unfold finish
  split
  . exact List.prefix_rfl
  . next tally _ =>
    have hraised := isPrefix_raiseFor { b with tally } t.profile o detail
    dsimp only
    split
    . exact hraised
    . exact hraised.trans ((Stream.isPrefix_tellAll _ _).trans (Stream.isPrefix_tell _ _))

theorem isPrefix_carryOut (b : Board) (op : Operation) : b.told <+: (b.carryOut op).told := by
  cases op with
  | beginPass tickets => exact Stream.isPrefix_tell _ _
  | endPass =>
    simp only [carryOut, endPass]
    split
    . exact Stream.isPrefix_tell _ _
    . exact List.prefix_rfl
  | start t => exact isPrefix_start b t
  | finish t line o detail => exact isPrefix_finish b t line o detail
  | say text severity => exact Stream.isPrefix_tellAll _ _
  | request notice kind =>
    cases kind with
    | add => exact Stream.isPrefix_tell _ _
    | remove =>
      simp only [carryOut, request, withdraw]
      split
      . exact List.prefix_rfl
      . exact Stream.isPrefix_tell _ _
  | clearNotices => exact Stream.isPrefix_tellAll _ _
  | takeFailed => exact Stream.isPrefix_tell _ _

theorem isPrefix_carryOutAll (b : Board) (ops : List Operation)
    : b.told <+: (b.carryOutAll ops).told := by
  induction ops generalizing b with
  | nil => exact List.prefix_rfl
  | cons op ops ih => exact (isPrefix_carryOut b op).trans (ih _)

/--
After every operation of a history, the events told so far lead from the empty list to the lines of
the feed. After every single event the running lines stand at the end, and the `k`-th settled line
to be inserted is inserted at position `k`.
-/
theorem replay?_carryOutAll (retryBudget : Nat) (target : Target) (clock : Nat → Instant)
    (ops : List Operation)
    : (∀ xs, xs <+: ops →
        ((new retryBudget target clock).carryOutAll xs).told <+:
            ((new retryBudget target clock).carryOutAll ops).told ∧
          replay? ((new retryBudget target clock).carryOutAll xs).told =
            some ((new retryBudget target clock).carryOutAll xs).feed.lines) ∧
      (∀ es, es <+: ((new retryBudget target clock).carryOutAll ops).told →
        ∃ settled running, replay? es = some (settled ++ running) ∧
          (∀ l ∈ settled, l.running = false) ∧ (∀ l ∈ running, l.running = true)) ∧
      (∀ k position : Nat,
        (((new retryBudget target clock).carryOutAll ops).told.filterMap Event.settledAt?)[k]? =
          some position → position = k) := by
  have htells := tells_carryOutAll (b := new retryBudget target clock) (.empty clock)
  refine ⟨?_, ?_, ?_⟩
  . rintro xs ⟨ys, rfl⟩
    constructor
    . rw [carryOutAll_append]
      apply isPrefix_carryOutAll
    . rw [(htells xs).story.replay?_eq, Feed.settled_append_running]
  . intro es hes
    rcases (htells ops).story.of_isPrefix hes with ⟨settled, running, hstory⟩
    exact ⟨settled, running, hstory.replay?_eq, hstory.running_eq_false, hstory.running_eq_true⟩
  . intro k position hk
    rw [(htells ops).story.settledAt?_eq, List.getElem?_eq_some_iff] at hk
    rcases hk with ⟨hlt, hk⟩
    rw [List.getElem_range] at hk
    exact hk.symm

theorem replay?_refused_start
    : let t : Ticket := ⟨0, { profile := default, attempt := fun _ => {} }, none⟩
      let ops := [.beginPass [t], .start t, .start t, .say "" .info, .finish t ⟨0⟩ .failed none]
      let b := (new 1 .here).carryOutAll ops
      replay? b.told = some b.feed.lines ∧ b.feed.lines.map (·.id) = [⟨1⟩, ⟨0⟩, ⟨2⟩] := by
  intro t ops b
  have hprefixes := (replay?_carryOutAll 1 .here (fun _ => default) ops).1
  exact ⟨(hprefixes ops List.prefix_rfl).2, by decide +kernel⟩

end Board

end SetupBatch
