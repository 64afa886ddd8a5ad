import SetupBatch.Proofs.Deeds
import SetupBatch.Proofs.Header
import SetupBatch.Proofs.Notices

/-!
This module contains what each operation of a board tells, read off the board on which it is carried
out. While somebody listens, an operation adds exactly these events to the stream.
-/

namespace SetupBatch

namespace Feed

variable {f : Feed}

theorem settle_cases (h : f.Sound) (id : LineId) (o : Outcome) (text : String)
    : (f.running.find? (·.id == id) = none ∧ ∃ breach, f.settle id o text = .error breach) ∨
      ∃ xs line ys, f.running = xs ++ line :: ys ∧ line.id = id ∧
        f.running.find? (·.id == id) = some line := by
  cases hfind : f.running.find? (·.id == id) with
  | none =>
    left
    refine ⟨rfl, ?_⟩
    cases hsettle : f.settle id o text with
    | error breach => exact ⟨breach, rfl⟩
    | ok r =>
      rcases mem_running_of_settle h hsettle with ⟨line, hline, rfl⟩
      have hne := List.find?_eq_none.1 hfind line hline
      simp at hne
  | some line =>
    right
    rcases List.find?_eq_some_iff_append.1 hfind with ⟨hid, xs, ys, hrun, -⟩
    exact ⟨xs, line, ys, hrun, by simpa using hid, rfl⟩

end Feed

namespace Board

def notice? (b : Board) (t : Ticket) (o : Outcome) (detail : Option String) : Option Notice :=
  (t.profile.noticeFor o detail).map (⟨.raised b.raised, ·⟩)

def closing (b : Board) (tally : Tally) (t : Ticket) (line : LineId) (o : Outcome) : List Event :=
  match b.feed.settle line o (t.profile.wording.tell o) with
  | .ok (changes, _) => changes.map .ofChange ++ [.failureCount tally.standing.pass.failed]
  | .error _ => []

def telling (b : Board) : Operation → List Event
  | .beginPass tickets =>
    [.progress (if b.target.isRemote then .indeterminate else .determinate 0 tickets.length)]
  | .endPass => if b.target.isRemote then [b.progress] else []
  | .start t =>
    match b.tally.start t.index with
    | .ok tally => [announcement { b with tally } t,
        .lineAdded b.feed.lines.length (b.feed.opening t.profile.wording.executing t.index)]
    | .error _ => []
  | .finish t line o detail =>
    match b.tally.report t o with
    | .ok tally => (b.notice? t o detail).toList.map .noticeAdded ++ b.closing tally t line o
    | .error _ => []
  | .say text severity => [.ofChange (b.feed.add text severity).1]
  | .request notice .add => [.noticeAdded notice]
  | .request notice .remove => (b.notices.find? (·.id == notice.id)).toList.map .noticeRemoved
  | .clearNotices => b.notices.map .noticeRemoved
  | .takeFailed => [.failureCount 0]

variable {b : Board}

theorem mem_closing {tally : Tally} {t : Ticket} {line : LineId} {o : Outcome} {e : Event}
    (he : e ∈ b.closing tally t line o)
    : (∃ change, e = .ofChange change) ∨ ∃ failed, e = .failureCount failed := by
  unfold closing at he
  split at he
  . cases List.mem_append.1 he with
    | inl hmem =>
      rcases List.mem_map.1 hmem with ⟨change, -, rfl⟩
      exact .inl ⟨change, rfl⟩
    | inr heq => exact .inr ⟨_, List.mem_singleton.1 heq⟩
  . cases he

theorem told_tell_of_heard (hb : b.stream.heard = true) (e : Event)
    : (b.tell e).told = b.told ++ [e] := by
  show (b.stream.tell e).told = _
  rw [Stream.told_tell, hb, if_pos rfl]

theorem raiseFor_eq (b : Board) (p : Profile) (o : Outcome) (detail : Option String)
    : b.raiseFor p o detail = (p.noticeFor o detail).elim b b.raise := by
  cases o with
  | succeeded => rfl
  | needsReboot => rfl
  | failed => cases detail <;> rfl

theorem notices_raiseFor (b : Board) (t : Ticket) (o : Outcome) (detail : Option String)
    : (b.raiseFor t.profile o detail).notices = (b.notice? t o detail).toList ++ b.notices := by
  rw [raiseFor_eq]
  unfold notice?
  cases t.profile.noticeFor o detail <;> rfl

theorem told_raiseFor (hb : b.stream.heard = true) (t : Ticket) (o : Outcome)
    (detail : Option String)
    : (b.raiseFor t.profile o detail).told =
        b.told ++ (b.notice? t o detail).toList.map .noticeAdded := by
  rw [raiseFor_eq]
  unfold notice?
  cases t.profile.noticeFor o detail with
  | none => exact (List.append_nil _).symm
  | some content => exact told_tell_of_heard hb _

theorem told_start_eq (hb : b.stream.heard = true) (t : Ticket)
    : (b.start t).2.told = b.told ++ b.telling (.start t) := by
  simp only [telling, start]
  cases b.tally.start t.index with
  | error breach => exact (List.append_nil _).symm
  | ok tally =>
    show (Stream.tell (Stream.tell b.stream _) _).told = _
    rw [Stream.told_tell, Stream.heard_tell, Stream.told_tell, hb, if_pos rfl, if_pos rfl,
      List.append_assoc]
    rfl

theorem told_finish_eq (hb : b.stream.heard = true) (t : Ticket) (line : LineId) (o : Outcome)
    (detail : Option String)
    : (b.finish t line o detail).2.told = b.told ++ b.telling (.finish t line o detail) := by
  simp only [telling, closing, finish]
  cases b.tally.report t o with
  | error breach => exact (List.append_nil _).symm
  | ok tally =>
    have hraised := Alike.raiseFor { b with tally } t.profile o detail
    have htold := told_raiseFor (b := { b with tally }) hb t o detail
    have hfeed : (raiseFor { b with tally } t.profile o detail).feed = b.feed :=
      feed_raiseFor _ _ _ _
    -- the notice is told before the line is looked for
    simp only [hfeed, hraised.tally]
    cases b.feed.settle line o (t.profile.wording.tell o) with
    | error breach =>
      rw [List.append_nil]
      exact htold
    | ok r =>
      refine (told_tellChanges (hraised.heard.trans hb) _ _).trans ?_
      rw [htold, List.append_assoc]
      rfl

theorem told_withdraw (hb : b.stream.heard = true) (id : NoticeId)
    : (b.withdraw id).told =
        b.told ++ (b.notices.find? (·.id == id)).toList.map .noticeRemoved := by
  unfold withdraw
  split
  . next hfind =>
    rw [hfind]
    exact (List.append_nil _).symm
  . next notice hfind =>
    rw [hfind]
    exact told_tell_of_heard hb _

theorem told_carryOut (hb : b.stream.heard = true) (op : Operation)
    : (b.carryOut op).told = b.told ++ b.telling op := by
  cases op with
  | beginPass tickets => exact told_tell_of_heard hb _
  | endPass =>
    simp only [carryOut, endPass, telling]
    split
    . exact told_tell_of_heard hb _
    . exact (List.append_nil _).symm
  | start t => exact told_start_eq hb t
  | finish t line o detail => exact told_finish_eq hb t line o detail
  | say text severity => exact told_tell_of_heard hb _
  | request notice kind =>
    cases kind with
    | add => exact told_tell_of_heard hb _
    | remove => exact told_withdraw hb notice.id
  | clearNotices =>
    show (b.stream.tellAll _).told = _
    rw [Stream.told_tellAll, hb, if_pos rfl]
    rfl
  | takeFailed => exact told_tell_of_heard hb _

/-! What an operation that is accepted makes of the feed. -/

theorem feed_start_of_ok {t : Ticket} {tally : Tally} (htally : b.tally.start t.index = .ok tally)
    : (b.start t).2.feed = (b.feed.begin t.profile.wording.executing t.index).2.2 := by
  simp only [start, htally]
  rfl

theorem feed_finish {t : Ticket} {id : LineId} {o : Outcome} {detail : Option String}
    {tally : Tally} {changes : List Feed.Change} {feed : Feed}
    (htally : b.tally.report t o = .ok tally)
    (hsettle : b.feed.settle id o (t.profile.wording.tell o) = .ok (changes, feed))
    : (b.finish t id o detail).2.feed = feed := by
  simp only [finish, htally, feed_raiseFor, hsettle]
  rfl

theorem feed_finish_cases (b : Board) (t : Ticket) (id : LineId) (o : Outcome)
    (detail : Option String)
    : (b.finish t id o detail).2.feed = b.feed ∨
        ∃ changes, b.feed.settle id o (t.profile.wording.tell o) =
          .ok (changes, (b.finish t id o detail).2.feed) := by
  unfold finish
  split
  . exact .inl rfl
  . next tally _ =>
    dsimp only
    rw [feed_raiseFor]
    split
    . left
      exact feed_raiseFor _ _ _ _
    . next changes feed hsettle =>
      right
      exact ⟨changes, hsettle⟩

end Board

end SetupBatch
