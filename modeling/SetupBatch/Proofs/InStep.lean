import Mathlib.Tactic.Tauto
import SetupBatch.Board
import SetupBatch.Proofs.Feed
import SetupBatch.Proofs.Tally

/-!
This module contains the verification of the board as one object: the running lines of its feed are
those of the tickets that its tally takes to be out, and every start and every report that is made
in turn is accepted and keeps it so.
-/

namespace SetupBatch

def Event.begins (i : Nat) : Event → Bool
  | .lineAdded _ line => line.running && line.task == some i
  | _ => false

namespace Stream

theorem countP_tell (p : Event → Bool) {s : Stream} {e : Event} (h : p e = false)
    : (s.tell e).told.countP p = s.told.countP p := by
  rw [told_tell]
  split
  . rw [List.countP_append, List.countP_singleton, h]
    rfl
  . rfl

theorem countP_tell_of_heard (p : Event → Bool) {s : Stream} (hs : s.heard = true) (e : Event)
    : (s.tell e).told.countP p = s.told.countP p + if p e then 1 else 0 := by
  rw [told_tell, hs, if_pos rfl, List.countP_append, List.countP_singleton]

theorem countP_tellAll (p : Event → Bool) {s : Stream} {es : List Event}
    (h : ∀ e ∈ es, p e = false) : (s.tellAll es).told.countP p = s.told.countP p := by
  rw [told_tellAll]
  split
  . have hnone : es.countP p = 0 := by simpa [List.countP_eq_zero] using h
    rw [List.countP_append, hnone, Nat.add_zero]
  . rfl

theorem heard_tellAll (s : Stream) (es : List Event) : (s.tellAll es).heard = s.heard := by
  induction es generalizing s with
  | nil => rfl
  | cons e es ih =>
    have := ih (s.tell e)
    rw [heard_tell] at this
    exact this

end Stream

namespace Board

/-- How often an attempt at a task has begun. -/
def begun (b : Board) (i : Nat) : Nat := b.told.countP (·.begins i)

/--
The feed and the tally of a board are in step: each is sound, and the running lines are those of the
tickets that have started and not reported, one for each.
-/
structure InStep (b : Board) : Prop where
  heard : b.stream.heard = true
  sound : b.feed.Sound
  regular : b.tally.Regular
  nodup : (b.feed.running.map (·.task)).Nodup
  mem_iff : ∀ task, task ∈ b.feed.running.map (·.task) ↔
    ∃ i ∈ b.tally.started, i ∉ b.tally.settled ∧ task = some i

structure Alike (b b' : Board) : Prop where
  tally : b'.tally = b.tally
  running : b'.feed.running = b.feed.running
  sound : b.feed.Sound → b'.feed.Sound
  heard : b'.stream.heard = b.stream.heard
  begun : ∀ i, b'.begun i = b.begun i

namespace Alike

variable {b b' b'' : Board}

theorem refl (b : Board) : b.Alike b := ⟨rfl, rfl, id, rfl, fun _ => rfl⟩

theorem trans (h : b.Alike b') (h' : b'.Alike b'') : b.Alike b'' where
  tally := h'.tally.trans h.tally
  running := h'.running.trans h.running
  sound hb := h'.sound (h.sound hb)
  heard := h'.heard.trans h.heard
  begun i := (h'.begun i).trans (h.begun i)

theorem inStep (h : b.Alike b') (hb : b.InStep) : b'.InStep := by
  constructor
  . rw [h.heard, hb.heard]
  . exact h.sound hb.sound
  . rw [h.tally]
    exact hb.regular
  . rw [h.running]
    exact hb.nodup
  . rw [h.running, h.tally]
    exact hb.mem_iff

theorem tell (b : Board) {e : Event} (he : ∀ i, e.begins i = false) : b.Alike (b.tell e) where
  tally := rfl
  running := rfl
  sound := id
  heard := Stream.heard_tell _ _
  begun i := Stream.countP_tell _ (he i)

theorem withNotices (b : Board) (notices : List Notice) (raised : Nat)
    : b.Alike { b with notices, raised } := ⟨rfl, rfl, id, rfl, fun _ => rfl⟩

theorem raise (b : Board) (content : Draft) : b.Alike (b.raise content) := by
  exact (withNotices b _ _).trans (tell _ fun _ => rfl)

theorem raiseFor (b : Board) (p : Profile) (o : Outcome) (detail : Option String)
    : b.Alike (b.raiseFor p o detail) := by
  cases o with
  | succeeded => exact refl b
  | needsReboot => exact raise b _
  | failed => exact raise b _

theorem post (b : Board) (notice : Notice) : b.Alike (b.post notice) := by
  exact (withNotices b _ b.raised).trans (tell _ fun _ => rfl)

theorem withdraw (b : Board) (id : NoticeId) : b.Alike (b.withdraw id) := by
  unfold Board.withdraw
  split
  . exact refl b
  . exact (withNotices b _ b.raised).trans (tell _ fun _ => rfl)

theorem request (b : Board) (notice : Notice) (kind : NoticeRequest)
    : b.Alike (b.request notice kind) := by
  cases kind with
  | add => exact post b notice
  | remove => exact withdraw b notice.id

theorem clearNotices (b : Board) : b.Alike b.clearNotices where
  tally := rfl
  running := rfl
  sound := id
  heard := Stream.heard_tellAll _ _
  begun i := by
    apply Stream.countP_tellAll
    intro e he
    rcases List.mem_map.1 he with ⟨notice, -, rfl⟩
    rfl

theorem endPass (b : Board) : b.Alike b.endPass := by
  unfold Board.endPass
  split
  . exact tell b fun _ => rfl
  . exact refl b

theorem say {b : Board} (h : b.feed.Sound) (text : String) (severity : Severity)
    : b.Alike (b.say text severity) where
  tally := rfl
  running := (Feed.parts_add h text severity).2
  sound _ := h.add text severity
  heard := Stream.heard_tell _ _
  begun _ := Stream.countP_tell _ rfl

end Alike

structure Starts (b : Board) (t : Ticket) (line : LineId) (b' : Board) : Prop where
  tally : b.tally.start t.index = .ok b'.tally
  running : ∃ l : Line, l.id = line ∧ l.task = some t.index ∧
    b'.feed.running = b.feed.running ++ [l]
  begun : ∀ i, b'.begun i = b.begun i + if i = t.index then 1 else 0
  inStep : b'.InStep

structure Finishes (b : Board) (t : Ticket) (line : LineId) (o : Outcome) (b' : Board) : Prop where
  tally : b.tally.report t o = .ok b'.tally
  running : ∃ xs l ys, l.id = line ∧ l.task = some t.index ∧
    b.feed.running = xs ++ l :: ys ∧ b'.feed.running = xs ++ ys
  begun : ∀ i, b'.begun i = b.begun i
  inStep : b'.InStep

namespace InStep

variable {b : Board}

theorem new (retryBudget : Nat) (target : Target) (clock : Nat → Instant)
    : (Board.new retryBudget target clock).InStep := by
  constructor
  . rfl
  . exact Feed.Sound.empty clock
  . exact Tally.Regular.new retryBudget
  . exact List.nodup_nil
  . simp [Board.new, Tally.new, Feed.running]

theorem exists_line (h : b.InStep) {i : Nat}
    : (∃ l ∈ b.feed.running, l.task = some i) ↔ i ∈ b.tally.started ∧ i ∉ b.tally.settled := by
  rw [← List.mem_map, h.mem_iff]
  simp

theorem task_notMem (h : b.InStep) {i : Nat} (hi : i ∉ b.tally.started)
    : some i ∉ b.feed.running.map (·.task) := by
  rw [h.mem_iff]
  simp [hi]

theorem live_add (h : b.InStep) : b.feed.live + b.tally.standing.pass.completed =
    b.tally.standing.pass.started := by
  have hout : ((b.tally.started.filter (· ∉ b.tally.settled)).map some).Nodup :=
    (h.regular.started.filter _).map fun _ _ => Option.some.inj
  have hperm : (b.feed.running.map (·.task)).Perm
      ((b.tally.started.filter (· ∉ b.tally.settled)).map some) := by
    rw [List.perm_ext_iff_of_nodup h.nodup hout]
    intro task
    rw [h.mem_iff, List.mem_map]
    simp only [List.mem_filter, decide_eq_true_iff, and_assoc, eq_comm (a := task)]
  have hlive := hperm.length_eq
  rw [List.length_map, List.length_map, Feed.length_running h.sound.live_le] at hlive
  have hstarted := h.regular.started_perm.length_eq
  rw [List.length_append] at hstarted
  rw [h.regular.pass_started, h.regular.pass_completed]
  omega

theorem of_start (h : b.InStep) {b' : Board} {i : Nat} {l : Line}
    (htally : b.tally.start i = .ok b'.tally) (htask : l.task = some i)
    (hrun : b'.feed.running = b.feed.running ++ [l]) (hheard : b'.stream.heard = b.stream.heard)
    (hsound : b'.feed.Sound) : b'.InStep := by
  have hregular := h.regular.start htally
  rcases Tally.start_eq_ok_iff.1 htally with ⟨-, hstarted, heq⟩
  have hsettled : i ∉ b.tally.settled := fun hi => hstarted (h.regular.settled_sub i hi)
  constructor
  . rw [hheard, h.heard]
  . exact hsound
  . exact hregular
  . rw [hrun, List.map_append, List.nodup_append]
    refine ⟨h.nodup, by simp, ?_⟩
    intro task hmem task' hmem' heq'
    rw [List.map_singleton, List.mem_singleton, htask] at hmem'
    rw [heq', hmem'] at hmem
    exact h.task_notMem hstarted hmem
  . intro task
    rw [hrun, List.map_append, List.mem_append, List.map_singleton, List.mem_singleton, h.mem_iff,
      htask, heq, or_comm]
    simp only [List.mem_cons, exists_eq_or_imp, hsettled, not_false_eq_true, true_and]

theorem of_report (h : b.InStep) {b' : Board} {t : Ticket} {o : Outcome} {xs ys : List Line}
    {l : Line} (htally : b.tally.report t o = .ok b'.tally) (htask : l.task = some t.index)
    (hrun : b.feed.running = xs ++ l :: ys) (hrun' : b'.feed.running = xs ++ ys)
    (hheard : b'.stream.heard = b.stream.heard) (hsound : b'.feed.Sound) : b'.InStep := by
  have hregular := h.regular.report htally
  have hnodup := h.nodup
  rw [hrun, List.map_append, List.map_cons, List.nodup_middle, List.nodup_cons, htask,
    ← List.map_append] at hnodup
  rcases Tally.report_eq_ok_iff.1 htally with ⟨-, -, heq⟩
  constructor
  . rw [hheard, h.heard]
  . exact hsound
  . exact hregular
  . rw [hrun']
    exact hnodup.2
  . intro task
    have hmem := h.mem_iff task
    rw [hrun, List.map_append, List.map_cons, List.mem_append, List.mem_cons, htask, or_left_comm,
      ← List.mem_append, ← List.map_append] at hmem
    rw [hrun', heq]
    -- the line that left is the only one of its task
    by_cases htask' : task = some t.index
    . rw [htask', iff_false_left hnodup.1]
      rintro ⟨i, -, hi, heq'⟩
      rw [Option.some.inj heq'] at hi
      exact hi List.mem_cons_self
    . rw [or_iff_right htask'] at hmem
      rw [hmem]
      constructor
      . rintro ⟨i, hi, hi', rfl⟩
        refine ⟨i, hi, ?_, rfl⟩
        rw [List.mem_cons]
        rintro (rfl | hmem')
        . exact htask' rfl
        . exact hi' hmem'
      . rintro ⟨i, hi, hi', rfl⟩
        exact ⟨i, hi, fun hmem' => hi' (List.mem_cons_of_mem _ hmem'), rfl⟩

theorem start (h : b.InStep) {t : Ticket} (hadmitted : t.index ∈ b.tally.admitted)
    (hstarted : t.index ∉ b.tally.started)
    : ∃ line b', b.start t = (.ok line, b') ∧ b.Starts t line b' := by
  rcases Tally.exists_start hadmitted hstarted with ⟨tally, htally⟩
  have hparts := Feed.parts_begin h.sound t.profile.wording.executing t.index
  have hannounced : ∀ (b' : Board) i, (b'.announcement t).begins i = false := by
    intro b' i
    unfold announcement
    split <;> rfl
  unfold Board.start
  rw [htally]
  refine ⟨_, _, rfl, htally, ⟨_, rfl, rfl, hparts.2⟩, ?_, ?_⟩
  . intro i
    refine (Stream.countP_tell_of_heard _ ?_ _).trans ?_
    . exact (Stream.heard_tell _ _).trans h.heard
    . refine congrArg₂ (· + ·) (Stream.countP_tell _ (hannounced _ i)) ?_
      show (if (true && some t.index == some i) = true then 1 else 0) = if i = t.index then 1 else 0
      simp only [Bool.true_and, beq_iff_eq, Option.some.injEq, eq_comm (a := t.index)]
  . apply h.of_start htally rfl hparts.2
    . exact (Stream.heard_tell _ _).trans (Stream.heard_tell _ _)
    . exact h.sound.begin t.profile.wording.executing t.index

theorem finish (h : b.InStep) {t : Ticket} (hstarted : t.index ∈ b.tally.started)
    (hsettled : t.index ∉ b.tally.settled) {l : Line} (hl : l ∈ b.feed.running)
    (htask : l.task = some t.index) (o : Outcome) (detail : Option String)
    : ∃ b', b.finish t l.id o detail = (.ok (), b') ∧ b.Finishes t l.id o b' := by
  rcases Tally.exists_report hstarted hsettled o with ⟨tally, htally⟩
  rcases List.append_of_mem hl with ⟨xs, ys, hrun⟩
  have hraised := Alike.raiseFor { b with tally } t.profile o detail
  have hsound := hraised.sound h.sound
  have hrun' := hraised.running.trans hrun
  have hsettle := Feed.settle_eq hsound hrun' o (t.profile.wording.tell o)
  have hparts := Feed.parts_settle hsound hrun' hsettle
  have htally' := htally.trans (congrArg Except.ok hraised.tally.symm)
  unfold Board.finish
  rw [htally]
  dsimp only
  rw [hsettle]
  refine ⟨_, rfl, htally', ⟨xs, l, ys, rfl, htask, hrun, hparts.2⟩, ?_, ?_⟩
  . intro i
    refine (Stream.countP_tell _ ?_).trans ((Stream.countP_tellAll _ ?_).trans (hraised.begun i))
    . rfl
    . simp [Event.ofChange, Event.begins, Line.settledAs, Feed.closing, Feed.fresh]
  . refine h.of_report (t := t) (o := o) ?_ htask hrun hparts.2 ?_ ?_
    . exact htally'
    . exact (Stream.heard_tell _ _).trans ((Stream.heard_tellAll _ _).trans hraised.heard)
    . exact hsound.settle hsettle

end InStep

end Board

end SetupBatch
