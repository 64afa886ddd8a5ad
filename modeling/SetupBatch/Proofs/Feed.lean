import Mathlib.Data.List.Nodup
import SetupBatch.Feed

/-!
This module contains the verification of the feed. Each operation is described by what it does to
the settled and to the running lines; the list that holds both is not looked at again.
-/

namespace SetupBatch

def Line.settledAs (l : Line) (o : Outcome) : Line :=
  { l with running := false, severity := o.severity }

namespace Feed

/--
What holds of a feed after any operations on it.
-/
structure Sound (f : Feed) : Prop where
  live_le : f.live ≤ f.lines.length
  settled : ∀ l ∈ f.settled, l.running = false
  running : ∀ l ∈ f.running, l.running = true
  ids : (f.lines.map (·.id)).Nodup
  fresh : ∀ l ∈ f.lines, l.id.number < f.next

theorem settled_append_running (f : Feed) : f.settled ++ f.running = f.lines := by
  unfold settled running
  rw [List.take_append_drop]

theorem length_settled (f : Feed) : f.settled.length = f.boundary := by
  unfold settled boundary
  rw [List.length_take]
  omega

theorem length_running {f : Feed} (h : f.live ≤ f.lines.length) : f.running.length = f.live := by
  unfold running boundary
  rw [List.length_drop]
  omega

theorem parts_eq {f : Feed} {s r : List Line} (h : f.lines = s ++ r) (hr : r.length = f.live)
    : f.settled = s ∧ f.running = r := by
  have hb : f.boundary = s.length := by
    unfold boundary
    rw [h, List.length_append]
    omega
  unfold settled running
  rw [hb, h]
  simp

theorem mem_lines {f : Feed} {l : Line} : l ∈ f.lines ↔ l ∈ f.settled ∨ l ∈ f.running := by
  rw [← settled_append_running, List.mem_append]

namespace Sound

variable {f : Feed}

theorem empty (clock : Nat → Instant) : ({ clock } : Feed).Sound := by
  constructor <;> simp [Feed.settled, Feed.running]

theorem mem_running_iff (h : f.Sound) {l : Line}
    : l ∈ f.running ↔ l ∈ f.lines ∧ l.running = true := by
  constructor
  . intro hl
    exact ⟨mem_lines.2 (.inr hl), h.running l hl⟩
  . intro hl
    cases mem_lines.1 hl.1 with
    | inl hs => simp [h.settled l hs] at hl
    | inr hr => exact hr

theorem filter_running (h : f.Sound) : f.lines.filter (·.running) = f.running := by
  rw [← settled_append_running, List.filter_append]
  rw [List.filter_eq_nil_iff.2, List.filter_eq_self.2]
  . rfl
  . exact h.running
  . intro l hl
    simp [h.settled l hl]

theorem isConsistent (h : f.Sound) : f.isConsistent = true := by
  unfold Feed.isConsistent
  rw [Bool.and_eq_true, List.all_eq_true, List.all_eq_true]
  constructor
  . intro l hl
    simp [h.settled l hl]
  . exact h.running

theorem of_parts (h : f.Sound) {g : Feed} {s r : List Line} (hlines : g.lines = s ++ r)
    (hlive : r.length = g.live) (hs : ∀ l ∈ s, l.running = false)
    (hr : ∀ l ∈ r, l.running = true) (hnext : g.next = f.next + 1)
    (hids : (g.lines.map (·.id)).Perm (⟨f.next⟩ :: f.lines.map (·.id)))
    : g.Sound := by
  have hparts := parts_eq hlines hlive
  constructor
  . rw [hlines, List.length_append]
    omega
  . rw [hparts.1]
    exact hs
  . rw [hparts.2]
    exact hr
  . rw [hids.nodup_iff, List.nodup_cons]
    refine ⟨?_, h.ids⟩
    intro hmem
    rcases List.mem_map.1 hmem with ⟨l, hl, heq⟩
    have := h.fresh l hl
    rw [heq] at this
    simp at this
  . intro l hl
    rw [hnext]
    cases List.mem_cons.1 (hids.mem_iff.1 (List.mem_map_of_mem hl)) with
    | inl heq =>
      rw [heq]
      exact Nat.lt_succ_self _
    | inr hmem =>
      rcases List.mem_map.1 hmem with ⟨l', hl', heq⟩
      rw [← heq]
      exact Nat.lt_succ_of_lt (h.fresh l' hl')

end Sound

/-! What is settled is inserted at the boundary. -/

theorem insertIdx_boundary (s r : List Line) (l : Line)
    : (s ++ r).insertIdx s.length l = s ++ l :: r := by
  induction s with
  | nil => rfl
  | cons x s ih =>
    rw [List.cons_append, List.length_cons, List.insertIdx_succ_cons, ih]
    rfl

theorem insertSettled_eq {f : Feed} {s r : List Line} (h : f.lines = s ++ r)
    (hr : r.length = f.live) (l : Line)
    : f.insertSettled l = (.inserted s.length l, { f with lines := s ++ l :: r }) := by
  have hb : f.boundary = s.length := by
    rw [← length_settled, (parts_eq h hr).1]
  unfold insertSettled
  rw [hb, h, insertIdx_boundary]

def opening (f : Feed) (text : String) (task : Nat) : Line := f.fresh text .info true (some task)

def remark (f : Feed) (text : String) (severity : Severity) : Line :=
  f.fresh text severity false none

def closing (f : Feed) (l : Line) (o : Outcome) (text : String) : Line :=
  f.fresh text o.severity false l.task

variable {f : Feed}

theorem begin_eq (text : String) (task : Nat)
    : f.begin text task = (⟨f.next⟩, .inserted f.lines.length (f.opening text task),
        { f with
          lines := f.lines ++ [f.opening text task], live := f.live + 1, next := f.next + 1 }) := by
  rfl

theorem parts_begin (h : f.Sound) (text : String) (task : Nat)
    : (f.begin text task).2.2.settled = f.settled ∧
        (f.begin text task).2.2.running = f.running ++ [f.opening text task] := by
  apply parts_eq
  . rw [begin_eq, ← List.append_assoc, settled_append_running]
  . rw [begin_eq, List.length_append, length_running h.live_le]
    rfl

theorem Sound.begin (h : f.Sound) (text : String) (task : Nat)
    : (f.begin text task).2.2.Sound := by
  have hparts := parts_begin h text task
  apply h.of_parts (settled_append_running _).symm
  . rw [hparts.2, List.length_append, length_running h.live_le]
    rfl
  . rw [hparts.1]
    exact h.settled
  . rw [hparts.2]
    intro l hl
    cases List.mem_append.1 hl with
    | inl hl => exact h.running l hl
    | inr hl =>
      rw [List.mem_singleton.1 hl]
      rfl
  . rfl
  . rw [begin_eq, List.map_append]
    exact List.perm_append_comm

theorem add_eq (h : f.Sound) (text : String) (severity : Severity)
    : f.add text severity = (.inserted f.settled.length (f.remark text severity),
        { f with
          lines := f.settled ++ f.remark text severity :: f.running, next := f.next + 1 }) := by
  unfold add
  rw [insertSettled_eq (s := f.settled) (r := f.running)]
  . rfl
  . exact (settled_append_running f).symm
  . exact length_running h.live_le

theorem parts_add (h : f.Sound) (text : String) (severity : Severity)
    : (f.add text severity).2.settled = f.settled ++ [f.remark text severity] ∧
        (f.add text severity).2.running = f.running := by
  apply parts_eq
  . rw [add_eq h, List.append_assoc]
    rfl
  . rw [add_eq h, length_running h.live_le]

theorem Sound.add (h : f.Sound) (text : String) (severity : Severity)
    : (f.add text severity).2.Sound := by
  have hparts := parts_add h text severity
  apply h.of_parts (settled_append_running _).symm
  . rw [hparts.2, length_running h.live_le, add_eq h]
  . rw [hparts.1]
    intro l hl
    cases List.mem_append.1 hl with
    | inl hl => exact h.settled l hl
    | inr hl =>
      rw [List.mem_singleton.1 hl]
      rfl
  . rw [hparts.2]
    exact h.running
  . rw [add_eq h]
  . rw [add_eq h, ← settled_append_running f, List.map_append, List.map_append]
    exact List.perm_middle

/-! A line settles if it runs, wherever it stands among those that do. -/

theorem findIdx?_running (h : f.Sound) {xs ys : List Line} {line : Line}
    (hrun : f.running = xs ++ line :: ys)
    : f.lines.findIdx? (·.id == line.id) = some (f.settled.length + xs.length) := by
  have hlines : f.lines = (f.settled ++ xs) ++ line :: ys := by
    rw [List.append_assoc, ← hrun, settled_append_running]
  have hbefore : (f.settled ++ xs).findIdx? (·.id == line.id) = none := by
    rw [List.findIdx?_eq_none_iff]
    intro l hl
    have hids := h.ids
    rw [hlines, List.map_append, List.nodup_append] at hids
    have hne := hids.2.2 l.id (List.mem_map_of_mem hl) line.id (by simp)
    simp [hne]
  rw [hlines, List.findIdx?_append, hbefore, List.findIdx?_cons]
  simp

theorem settle_eq (h : f.Sound) {xs ys : List Line} {line : Line}
    (hrun : f.running = xs ++ line :: ys) (o : Outcome) (text : String)
    : f.settle line.id o text = .ok
        ([.removed (f.settled.length + xs.length) line.id,
          .inserted f.settled.length (line.settledAs o),
          .inserted (f.settled.length + 1) (f.closing line o text)],
        { f with
          lines := f.settled ++ line.settledAs o :: f.closing line o text :: (xs ++ ys)
          live := f.live - 1, next := f.next + 1 }) := by
  have hlines : f.lines = f.settled ++ (xs ++ line :: ys) := by
    rw [← hrun, settled_append_running]
  have hlive : (xs ++ ys).length = f.live - 1 := by
    rw [← length_running h.live_le, hrun]
    simp only [List.length_append, List.length_cons]
    omega
  have hget : f.lines[f.settled.length + xs.length]? = some line := by
    rw [hlines, List.getElem?_append_right (by omega), List.getElem?_append_right (by omega)]
    simp
  have herase : f.lines.eraseIdx (f.settled.length + xs.length) = f.settled ++ (xs ++ ys) := by
    rw [hlines, List.eraseIdx_append_of_length_le (by omega),
      List.eraseIdx_append_of_length_le (by omega)]
    simp
  have hrunning : line.running = true := by
    apply h.running
    rw [hrun]
    simp
  -- the boundary moves past the line that settles, so the one that tells of it comes after it
  unfold settle
  rw [findIdx?_running h hrun]
  simp only [hget, hrunning, if_true, herase]
  rw [insertSettled_eq (s := f.settled) (r := xs ++ ys) rfl hlive]
  simp only
  rw [insertSettled_eq (s := f.settled ++ [line.settledAs o]) (r := xs ++ ys) (by simp; rfl) hlive]
  simp [Line.settledAs, closing, fresh]

theorem mem_running_of_settle (h : f.Sound) {id : LineId} {o : Outcome} {text : String}
    {r : List Change × Feed} (hs : f.settle id o text = .ok r)
    : ∃ line ∈ f.running, line.id = id := by
  unfold settle at hs
  split at hs
  . simp at hs
  . next position hfind =>
    split at hs
    . simp at hs
    . next line hget =>
      split at hs
      . next hrunning =>
        refine ⟨line, h.mem_running_iff.2 ⟨List.mem_of_getElem? hget, hrunning⟩, ?_⟩
        rcases List.findIdx?_eq_some_iff_getElem.1 hfind with ⟨hlt, hid, -⟩
        rw [List.getElem?_eq_getElem hlt, Option.some.injEq] at hget
        rw [hget] at hid
        simpa using hid
      . simp at hs

theorem parts_settle (h : f.Sound) {xs ys : List Line} {line : Line}
    (hrun : f.running = xs ++ line :: ys) {o : Outcome} {text : String} {cs : List Change}
    {g : Feed} (hs : f.settle line.id o text = .ok (cs, g))
    : g.settled = f.settled ++ [line.settledAs o, f.closing line o text] ∧
        g.running = xs ++ ys := by
  rw [settle_eq h hrun, Except.ok.injEq, Prod.mk.injEq] at hs
  rw [← hs.2]
  apply parts_eq
  . simp
  . rw [← length_running h.live_le, hrun]
    simp only [List.length_append, List.length_cons]
    omega

theorem Sound.settle (h : f.Sound) {id : LineId} {o : Outcome} {text : String} {cs : List Change}
    {g : Feed} (hs : f.settle id o text = .ok (cs, g)) : g.Sound := by
  rcases mem_running_of_settle h hs with ⟨line, hmem, rfl⟩
  rcases List.append_of_mem hmem with ⟨xs, ys, hrun⟩
  have hparts := parts_settle h hrun hs
  rw [settle_eq h hrun, Except.ok.injEq, Prod.mk.injEq] at hs
  apply h.of_parts (settled_append_running _).symm
  . rw [hparts.2, ← hs.2, ← length_running h.live_le, hrun]
    simp only [List.length_append, List.length_cons]
    omega
  . rw [hparts.1]
    intro l hl
    simp only [List.mem_append, List.mem_cons, List.not_mem_nil, or_false] at hl
    rcases hl with hl | rfl | rfl
    . exact h.settled l hl
    . rfl
    . rfl
  . intro l hl
    apply h.running
    rw [hparts.2] at hl
    rw [hrun]
    simp only [List.mem_append, List.mem_cons] at hl ⊢
    tauto
  . rw [← hs.2]
  . rw [← hs.2, ← settled_append_running f, hrun]
    have hid : (f.closing line o text).id = ⟨f.next⟩ := rfl
    simp only [List.map_append, List.map_cons, Line.settledAs, hid]
    grind

end Feed

end SetupBatch
