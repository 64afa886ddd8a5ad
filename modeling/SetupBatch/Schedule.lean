import SetupBatch.Pool
/-!
This module contains schedules, which say in what order the workers of a pool step: there is a
single queue of runnable workers, and a clock that jumps to the next deadline when the queue is
empty. A slot that is given back goes to the worker that has waited longest.
-/

namespace SetupBatch

namespace Worker

def stepsToStart (w : Worker) : Nat :=
  match w.stage with
  | .waiting => 2
  | .ready => 1
  | _ => 0

def stepsToEnd (w : Worker) : Nat :=
  match w.stage with
  | .running _ rest _ => rest.length + 2
  | .reported _ => 1
  | _ => 0

theorem step?_decreases {crew : Crew} {free : Bool} {s s' : Shared} {w w' : Worker}
    (h : w.step? crew free s = some (w', s')) :
    w'.stepsToStart < w.stepsToStart ∨
      w'.stepsToStart = w.stepsToStart ∧ w'.stepsToEnd < w.stepsToEnd := by
  unfold step? at h
  split at h
  next hw =>
    split at h <;> simp at h
    left; simp [← h.1, stepsToStart, hw]
  next hw =>
    left
    simp only [Option.some.injEq] at h
    have : w' = (w.start crew s).1 := by rw [h]
    subst this
    unfold start
    split <;> simp [stepsToStart, hw]
  next hw => right; simp at h; simp [← h.1, stepsToStart, stepsToEnd, hw]
  next line ending hw =>
    right
    simp only [Option.some.injEq] at h
    have : w' = (w.report s line ending).1 := by rw [h]
    subst this
    simp [report, stepsToStart, stepsToEnd, hw]
  next hw => right; simp at h; simp [← h.1, stepsToStart, stepsToEnd, hw]
  next hw => simp at h

end Worker

def total {α : Type} (f : α → Nat) (xs : List α) : Nat := xs.foldr (fun x n => f x + n) 0

theorem total_set {α : Type} (f : α → Nat) {xs : List α} {i : Nat} {x y : α}
    (h : xs[i]? = some x) : total f (xs.set i y) + f x = total f xs + f y := by
  induction xs generalizing i with
  | nil => simp at h
  | cons z zs ih =>
    cases i with
    | zero => simp at h; subst h; simp [total]; omega
    | succ i =>
      have := ih (by simpa using h)
      simp only [total, List.set_cons_succ, List.foldr_cons] at this ⊢
      omega

namespace Pool

def stepsToStart (p : Pool) : Nat := total (·.stepsToStart) p.workers

def stepsToEnd (p : Pool) : Nat := total (·.stepsToEnd) p.workers

theorem step?_decreases {p q : Pool} {i : Nat} (h : p.step? i = some q) :
    q.stepsToStart < p.stepsToStart ∨
      q.stepsToStart = p.stepsToStart ∧ q.stepsToEnd < p.stepsToEnd := by
  unfold step? at h
  split at h
  . simp at h
  next w hw =>
    obtain ⟨⟨w', s'⟩, hs, rfl⟩ := Option.map_eq_some_iff.1 h
    have h₁ := total_set (·.stepsToStart) (y := w') hw
    have h₂ := total_set (·.stepsToEnd) (y := w') hw
    have h₃ := Worker.step?_decreases hs
    simp only [stepsToStart, stepsToEnd]
    omega

end Pool

/-- A pool with the queue of its runnable workers, those that wait for a slot, and those that sleep
until a deadline. -/
structure Schedule where
  pool : Pool
  current : Option Nat := none
  queue : List Nat
  waiters : List Nat := []
  sleepers : List (Nat × Nat) := []
  now : Nat := 0

namespace Schedule

/-- The longest sleep in milliseconds: thirty years of 365 days. A longer one ends then. -/
def maxSleep : Nat := 30 * 365 * 24 * 60 * 60 * 1000

def deadline (s : Schedule) (ms : Nat) : Nat := s.now + min ms maxSleep

def ofPool (pool : Pool) : Schedule := { pool, queue := List.range pool.workers.length }

def handOver (s : Schedule) : Schedule :=
  match s.waiters with
  | [] => s
  | i :: waiters =>
    match s.pool.step? i with
    | none => s
    | some pool => { s with pool, waiters, queue := s.queue ++ [i] }

def advance (s : Schedule) (i : Nat) (w : Worker) : Schedule :=
  match s.pool.step? i with
  | none =>
    match w.stage with
    | .waiting => { s with current := none, waiters := s.waiters ++ [i] }
    | _ => { s with current := none }
  | some pool =>
    match w.stage with
    | .running _ (.sleep (ms + 1) :: _) _ =>
      { s with
        pool, current := none, sleepers := s.sleepers ++ [(s.deadline (ms + 1), i)] }
    | .reported _ => { s with pool, current := none }.handOver
    | _ => { s with pool }

def wake (s : Schedule) (deadline : Nat) : Schedule :=
  let (due, later) := s.sleepers.partition (·.1 == deadline)
  { s with now := deadline, queue := due.map (·.2), sleepers := later }

def step? (s : Schedule) : Option Schedule :=
  match s.current with
  | some i =>
    match s.pool.workers[i]? with
    | none => some { s with current := none }
    | some w => some (s.advance i w)
  | none =>
    match s.queue with
    | i :: queue => some { s with current := some i, queue }
    | [] => (s.sleepers.map (·.1)).min?.map s.wake

def pending (s : Schedule) : Nat :=
  (if s.current.isSome then 1 else 0) + 2 * s.queue.length + 3 * s.sleepers.length

def Nearer (t s : Schedule) : Prop :=
  t.pool.stepsToStart < s.pool.stepsToStart ∨
    t.pool.stepsToStart = s.pool.stepsToStart ∧
      (t.pool.stepsToEnd < s.pool.stepsToEnd ∨
        t.pool.stepsToEnd = s.pool.stepsToEnd ∧ t.pending < s.pending)

theorem nearer_of_step {s t : Schedule} {p : Pool} {i : Nat} (h : s.pool.step? i = some p)
    (ht : t.pool.stepsToStart < p.stepsToStart ∨
      t.pool.stepsToStart = p.stepsToStart ∧ t.pool.stepsToEnd ≤ p.stepsToEnd) : Nearer t s := by
  have := Pool.step?_decreases h
  unfold Nearer
  omega

theorem handOver_steps (s : Schedule) :
    s.handOver.pool.stepsToStart < s.pool.stepsToStart ∨
      s.handOver.pool.stepsToStart = s.pool.stepsToStart ∧
        s.handOver.pool.stepsToEnd ≤ s.pool.stepsToEnd := by
  unfold handOver
  split
  . simp
  . split
    . simp
    next h => have := Pool.step?_decreases h; simp only; omega

theorem advance_nearer {s : Schedule} {i : Nat} (w : Worker) (h : s.current = some i) :
    Nearer (s.advance i w) s := by
  unfold advance
  split
  . split <;> simp [Nearer, pending, h]
  next hp =>
    split
    . exact nearer_of_step hp (by simp)
    . exact nearer_of_step hp (handOver_steps _)
    . exact nearer_of_step hp (by simp)

theorem length_partition_fst {α : Type} (f : α → Bool) (xs : List α) :
    (xs.partition f).1.length + (xs.partition f).2.length = xs.length := by
  induction xs with
  | nil => rfl
  | cons x xs ih => simp only [List.partition_eq_filter_filter, List.filter_cons] at *; grind

theorem step?_nearer {s t : Schedule} (h : s.step? = some t) : Nearer t s := by
  unfold step? at h
  split at h
  next i hc =>
    split at h
    . simp at h; subst h; simp [Nearer, pending, hc]
    . simp at h; subst h; exact advance_nearer _ hc
  next hc =>
    split at h
    next hq => simp at h; subst h; simp [Nearer, pending, hc, hq]; omega
    next hq =>
      obtain ⟨d, hd, rfl⟩ := Option.map_eq_some_iff.1 h
      have hmem := List.min?_mem hd
      obtain ⟨x, hx, rfl⟩ := List.mem_map.1 hmem
      have hlen := length_partition_fst (·.1 == x.1) s.sleepers
      have hpos : 0 < (s.sleepers.partition (·.1 == x.1)).1.length := by
        simp only [List.partition_eq_filter_filter]
        exact List.length_pos_of_mem (List.mem_filter.2 ⟨hx, by simp⟩)
      simp only [Nearer, wake, pending, hc, hq, List.length_map, List.length_nil]
      simp only [Option.isSome_none]
      right; refine ⟨trivial, Or.inr ⟨trivial, ?_⟩⟩
      simp only [Bool.false_eq_true, if_false]
      omega

def drain (s : Schedule) : Schedule :=
  match _h : s.step? with
  | none => s
  | some t => t.drain
termination_by (s.pool.stepsToStart, s.pool.stepsToEnd, s.pending)
decreasing_by
  have := step?_nearer _h
  simp only [Nearer] at this
  simp only [Prod.lex_def]
  omega

theorem handOver_reach (s : Schedule) : s.pool.Reach s.handOver.pool := by
  unfold handOver
  split
  . exact .refl
  . split
    . exact .refl
    next h => exact .step _ .refl h

theorem step?_reach {s t : Schedule} (h : s.step? = some t) : s.pool.Reach t.pool := by
  unfold step? at h
  split at h
  . split at h
    . simp at h; subst h; exact .refl
    . simp at h; subst h
      unfold advance
      split
      . split <;> exact .refl
      next hp =>
        split
        . exact .step _ .refl hp
        . exact Pool.Reach.trans (.step _ .refl hp)
            (handOver_reach { s with pool := _, current := none })
        . exact .step _ .refl hp
  . split at h
    . simp at h; subst h; exact .refl
    . obtain ⟨d, _, rfl⟩ := Option.map_eq_some_iff.1 h
      exact .refl

theorem drain_reach (s : Schedule) : s.pool.Reach s.drain.pool := by
  fun_induction drain s with
  | case1 s h => exact .refl
  | case2 s t h ih => exact (step?_reach h).trans ih

end Schedule

end SetupBatch
