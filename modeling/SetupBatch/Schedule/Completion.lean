import SetupBatch.Schedule
/-!
This module contains the proof that a drained schedule leaves no worker behind: every worker that is
not gone is scheduled somewhere, and workers wait for a slot only while all slots are taken.
-/

namespace SetupBatch

namespace Worker

theorem step?_holdsSlot {crew : Crew} {free : Bool} {s s' : Shared} {w w' : Worker}
    (h : w.step? crew free s = some (w', s')) :
    (w.stage = .waiting ∧ free = true ∧ w.holdsSlot = false ∧ w'.holdsSlot = true) ∨
      (w.stage ≠ .waiting ∧ (∀ r, w.stage ≠ .reported r) ∧ w.holdsSlot = true ∧
        w'.holdsSlot = true) ∨
      ((∃ r, w.stage = .reported r) ∧ w.holdsSlot = true ∧ w'.holdsSlot = false ∧
        w'.isGone = true) := by
  unfold step? at h
  split at h
  next hw => split at h <;> simp at h; simp_all [holdsSlot]; rw [← h.1]
  next hw =>
    right; left
    simp only [Option.some.injEq] at h
    have : w' = (w.start crew s).1 := by rw [h]
    subst this
    unfold start
    split <;> simp [holdsSlot, hw]
  next hw => simp at h; simp [← h.1, holdsSlot, hw]
  next line ending hw =>
    simp only [Option.some.injEq] at h
    have : w' = (w.report s line ending).1 := by rw [h]
    subst this
    simp [report, holdsSlot, hw]
  next hw => simp at h; simp [← h.1, holdsSlot, hw, isGone]
  next hw => simp at h

theorem step?_eq_none {crew : Crew} {free : Bool} {s : Shared} {w : Worker}
    (h : w.step? crew free s = none) :
    w.stage = .waiting ∧ free = false ∨ w.isGone = true := by
  unfold step? at h
  split at h <;> simp_all [isGone]

end Worker

namespace Pool

theorem step?_eq_some {p q : Pool} {i : Nat} (h : p.step? i = some q) :
    ∃ w w' s, p.workers[i]? = some w ∧ w.step? p.crew p.hasFree p.shared = some (w', s) ∧
      q = { p with shared := s, workers := p.workers.set i w' } := by
  unfold step? at h
  split at h
  . simp at h
  next w hw =>
    obtain ⟨⟨w', s⟩, hs, rfl⟩ := Option.map_eq_some_iff.1 h
    exact ⟨w, w', s, hw, hs, rfl⟩

theorem countP_set_add {α : Type} (f : α → Bool) {xs : List α} {i : Nat} {x y : α}
    (h : xs[i]? = some x) :
    (xs.set i y).countP f + (f x).toNat = xs.countP f + (f y).toNat := by
  induction xs generalizing i with
  | nil => simp at h
  | cons z zs ih =>
    cases i with
    | zero =>
      simp at h
      subst h
      simp only [List.set_cons_zero, List.countP_cons]
      cases f z <;> cases f y <;> simp
    | succ i =>
      have := ih (by simpa using h)
      simp only [List.set_cons_succ, List.countP_cons]
      omega

theorem step?_taken {p q : Pool} {i : Nat} (h : p.step? i = some q) :
    ∃ w w', p.workers[i]? = some w ∧ q.workers = p.workers.set i w' ∧ q.crew = p.crew ∧
      ((w.stage = .waiting ∧ p.hasFree = true ∧ q.taken = p.taken + 1) ∨
        (w.stage ≠ .waiting ∧ (∀ r, w.stage ≠ .reported r) ∧ q.taken = p.taken) ∨
        ((∃ r, w.stage = .reported r) ∧ q.taken + 1 = p.taken ∧ w'.isGone = true)) := by
  obtain ⟨w, w', s, hw, hs, rfl⟩ := step?_eq_some h
  have ht := countP_set_add (·.holdsSlot) (y := w') hw
  refine ⟨w, w', hw, rfl, rfl, ?_⟩
  simp only [taken]
  rcases Worker.step?_holdsSlot hs with ⟨h₁, h₂, h₃, h₄⟩ | ⟨h₁, h₂, h₃, h₄⟩ | ⟨h₁, h₂, h₃, h₄⟩
  . left; simp_all
  . right; left; simp_all
  . right; right; simp_all

theorem hasFree_eq_false_of_le {p q : Pool} (hc : q.crew = p.crew) (ht : p.taken ≤ q.taken)
    (h : p.hasFree = false) : q.hasFree = false := by
  unfold hasFree at *
  rw [hc]
  split at h <;> simp_all
  omega

end Pool

namespace Schedule

def members (s : Schedule) : List Nat :=
  s.current.toList ++ (s.queue ++ (s.waiters ++ s.sleepers.map (·.2)))

/-- Every worker that is not gone is scheduled at one place, and none waits for a slot that has
begun. -/
structure Covered (s : Schedule) : Prop where
  nodup : s.members.Nodup
  covers : ∀ i w, s.pool.workers[i]? = some w → w.isGone = true ∨ i ∈ s.members
  waiting : ∀ i ∈ s.waiters, ∃ w, s.pool.workers[i]? = some w ∧ w.stage = .waiting

structure Sound (s : Schedule) : Prop extends Covered s where
  full : s.waiters ≠ [] → s.pool.hasFree = false

theorem sound_ofPool (p : Pool) : (ofPool p).Sound where
  nodup := by simp [members, ofPool, List.nodup_range]
  covers i w h := by
    right
    have := (List.getElem?_eq_some_iff.1 h).1
    simpa [members, ofPool] using this
  waiting := by simp [ofPool]
  full := by simp [ofPool]

theorem Covered.move {s t : Schedule} (hs : s.Covered) (hpool : t.pool = s.pool)
    (hwaiters : ∀ j ∈ t.waiters, j ∈ s.waiters) (hmembers : t.members.Perm s.members) :
    t.Covered where
  nodup := hmembers.nodup_iff.2 hs.nodup
  covers j w h := by rw [hmembers.mem_iff]; exact hs.covers j w (hpool ▸ h)
  waiting j hj := by rw [hpool]; exact hs.waiting j (hwaiters j hj)

theorem Covered.set {s t : Schedule} {i : Nat} {w : Worker} (hs : s.Covered) (hi : i ∈ s.members)
    (hworkers : t.pool.workers = s.pool.workers.set i w)
    (hwaiters : ∀ j ∈ t.waiters, j ∈ s.waiters ∧ j ≠ i)
    (hmembers : ∀ j ∈ s.members, j ∈ t.members ∨ j = i ∧ w.isGone = true)
    (hnodup : t.members.Nodup) : t.Covered where
  nodup := hnodup
  covers j v h := by
    rw [hworkers, List.getElem?_set] at h
    split at h
    next hij =>
      split at h
      . simp only [Option.some.injEq] at h
        subst hij h
        rcases hmembers i hi with hm | hm
        . exact .inr hm
        . exact .inl hm.2
      . simp at h
    next =>
      rcases hs.covers j v h with hg | hm
      . exact .inl hg
      . rcases hmembers j hm with hm | hm
        . exact .inr hm
        . omega
  waiting j hj := by
    obtain ⟨v, hv⟩ := hs.waiting j (hwaiters j hj).1
    refine ⟨v, ?_, hv.2⟩
    rw [hworkers, List.getElem?_set_ne (hwaiters j hj).2.symm]
    exact hv.1

theorem members_handOver {s : Schedule} {i : Nat} {waiters : List Nat} (pool : Pool)
    (h : s.waiters = i :: waiters) :
    ({ s with pool, waiters, queue := s.queue ++ [i] } : Schedule).members = s.members := by
  simp [members, h]

theorem sound_handOver {s : Schedule} (hs : s.Covered)
    (hfull : s.waiters ≠ [] → ∀ q : Pool, q.crew = s.pool.crew → s.pool.taken + 1 ≤ q.taken →
      q.hasFree = false) : s.handOver.Sound := by
  unfold handOver
  split
  next h => exact ⟨hs, by simp [h]⟩
  next i waiters h =>
    obtain ⟨w, hw, hstage⟩ := hs.waiting i (by simp [h])
    split
    next hnone =>
      refine ⟨hs, fun _ => ?_⟩
      unfold Pool.step? at hnone
      rw [hw] at hnone
      rcases Worker.step?_eq_none (Option.map_eq_none_iff.1 hnone) with ⟨-, hf⟩ | hg
      . exact hf
      . simp [Worker.isGone, hstage] at hg
    next pool hsome =>
      obtain ⟨v, v', hv, hworkers, hcrew, hcases⟩ := Pool.step?_taken hsome
      rw [hw] at hv
      obtain rfl := Option.some.inj hv
      have hmem := members_handOver pool h
      have hnd : (i :: waiters).Nodup := by
        have := hs.nodup
        simp only [members, List.nodup_append, h] at this
        exact this.2.1.2.1.1
      refine ⟨hs.set (i := i) (by simp [members, h]) hworkers ?_ ?_ (hmem ▸ hs.nodup), fun _ => ?_⟩
      . intro j hj
        simp only [h]
        exact ⟨List.mem_cons_of_mem _ hj, fun e => (List.nodup_cons.1 hnd).1 (e ▸ hj)⟩
      . intro j hj; rw [hmem]; exact .inl hj
      . refine hfull (by simp [h]) pool hcrew ?_
        simp [hstage] at hcases
        omega

theorem sound_advance {s : Schedule} {i : Nat} {w : Worker} (hs : s.Sound)
    (hc : s.current = some i) (hw : s.pool.workers[i]? = some w) : (s.advance i w).Sound := by
  have hnd := hs.nodup
  have hi : i ∈ s.members := by simp [members, hc]
  have hrest : i ∉ s.queue ++ (s.waiters ++ s.sleepers.map (·.2)) ∧
      (s.queue ++ (s.waiters ++ s.sleepers.map (·.2))).Nodup := by
    simpa [members, hc] using hnd
  have hne : ∀ j ∈ s.waiters, j ∈ s.waiters ∧ j ≠ i := by
    intro j hj
    refine ⟨hj, fun e => hrest.1 ?_⟩
    simp [← e, hj]
  unfold advance
  split
  next hnone =>
    have hstep := hnone
    unfold Pool.step? at hstep
    rw [hw] at hstep
    rcases Worker.step?_eq_none (Option.map_eq_none_iff.1 hstep) with ⟨hstage, hfree⟩ | hgone
    . simp only [hstage]
      have hperm : ({ s with current := none, waiters := s.waiters ++ [i] } : Schedule).members.Perm
          s.members := by
        simp only [members, hc]
        grind
      refine ⟨⟨hperm.nodup_iff.2 hnd, ?_, ?_⟩, fun _ => hfree⟩
      . intro j v h; rw [hperm.mem_iff]; exact hs.covers j v h
      . intro j hj
        rcases List.mem_append.1 hj with hj | hj
        . exact hs.waiting j hj
        . rw [List.mem_singleton.1 hj]; exact ⟨w, hw, hstage⟩
    . have : ∀ t : Schedule, t = { s with current := none } → t.Sound := by
        rintro t rfl
        refine ⟨⟨by simpa [members] using hrest.2, ?_, hs.waiting⟩, hs.full⟩
        intro j v h
        rcases hs.covers j v h with hv | hm
        . exact .inl hv
        . by_cases hij : j = i
          . subst hij
            rw [hw] at h
            exact .inl (Option.some.inj h ▸ hgone)
          . right
            simpa [members, hc, hij] using hm
      split
      next hstage => simp [Worker.isGone, hstage] at hgone
      next => exact this _ rfl
  next pool hsome =>
    obtain ⟨v, v', hv, hworkers, hcrew, hcases⟩ := Pool.step?_taken hsome
    rw [hw] at hv
    obtain rfl := Option.some.inj hv
    split
    next ms rest ending hstage =>
      have hperm : ({ s with
          pool, current := none
          sleepers := s.sleepers ++ [(s.deadline (ms + 1), i)] } : Schedule).members.Perm
            s.members := by
        simp only [members, hc]
        grind
      refine ⟨hs.set hi hworkers hne (fun j hj => .inl (hperm.mem_iff.2 hj))
        (hperm.nodup_iff.2 hnd), fun h => ?_⟩
      simp [hstage] at hcases
      exact Pool.hasFree_eq_false_of_le hcrew (by simp [hcases]) (hs.full h)
    next result hstage =>
      simp [hstage] at hcases
      have hrest : ({ s with pool, current := none } : Schedule).members.Nodup := by
        simpa [members] using hrest.2
      refine sound_handOver (hs.set hi hworkers hne (fun j hj => ?_) hrest) fun h q hq hle => ?_
      . by_cases hij : j = i
        . exact .inr ⟨hij, hcases.2⟩
        . left; simpa [members, hc, hij] using hj
      . exact Pool.hasFree_eq_false_of_le (hq.trans hcrew) (by simp only at hle; omega) (hs.full h)
    next h₁ h₂ =>
      refine ⟨hs.set hi hworkers hne (fun j hj => .inl hj) hnd, fun h => ?_⟩
      rcases hcases with ⟨-, hfree, -⟩ | ⟨-, -, ht⟩ | ⟨⟨r, hr⟩, -⟩
      . rw [hs.full h] at hfree; simp at hfree
      . exact Pool.hasFree_eq_false_of_le hcrew (by simp [ht]) (hs.full h)
      . exact absurd hr (h₂ r)

theorem sound_step? {s t : Schedule} (hs : s.Sound) (h : s.step? = some t) : t.Sound := by
  unfold step? at h
  split at h
  next i hc =>
    split at h
    next hw =>
      simp at h
      subst h
      refine ⟨⟨?_, fun j v hv => ?_, hs.waiting⟩, hs.full⟩
      . have := hs.nodup
        simp [members, hc] at this
        simpa [members] using this.2
      . rcases hs.covers j v hv with hv | hm
        . exact .inl hv
        . have : j ≠ i := fun e => by simp [e, hw] at hv
          right; simpa [members, hc, this] using hm
    next w hw => simp at h; subst h; exact sound_advance hs hc hw
  next hc =>
    split at h
    next i queue hq =>
      simp at h
      subst h
      exact ⟨hs.move rfl (fun _ => id) (by simp [members, hc, hq]), hs.full⟩
    next hq =>
      obtain ⟨d, -, rfl⟩ := Option.map_eq_some_iff.1 h
      refine ⟨hs.move rfl (fun _ => id) ?_, hs.full⟩
      simp only [members, wake, hc, hq, List.partition_eq_filter_filter]
      have := (List.filter_append_perm (·.1 == d) s.sleepers).map (·.2)
      simp only [List.map_append] at this
      refine (List.Perm.append_left _ ?_)
      rw [List.nil_append, ← List.append_assoc]
      refine (List.perm_append_comm.append_right _).trans ?_
      rw [List.append_assoc]
      exact this.append_left _

theorem sound_drain {s : Schedule} (hs : s.Sound) : s.drain.Sound := by
  fun_induction drain s with
  | case1 s h => exact hs
  | case2 s t h ih => exact ih (sound_step? hs h)

theorem step?_drain (s : Schedule) : s.drain.step? = none := by
  fun_induction drain s with
  | case1 s h => exact h
  | case2 s t h ih => exact ih

theorem isDone_of_step?_eq_none {s : Schedule} (hs : s.Sound) (h : s.step? = none) :
    s.pool.isDone = true := by
  unfold step? at h
  split at h
  . split at h <;> simp at h
  next hc =>
    split at h
    . simp at h
    next hq =>
      have hsl : s.sleepers = [] := by simpa using h
      have hmem : s.members = s.waiters := by simp [members, hc, hq, hsl]
      have hwaiters : s.waiters = [] := by
        by_cases hne : s.waiters = []
        . exact hne
        have hfree := hs.full hne
        unfold Pool.hasFree at hfree
        split at hfree
        . simp at hfree
        next slots _ =>
          have hpos : 0 < s.pool.taken := by
            have := slots.pos
            simp at hfree
            omega
          obtain ⟨w, hw, hholds⟩ := List.countP_pos_iff.1 hpos
          obtain ⟨j, hj⟩ := List.mem_iff_getElem?.1 hw
          rcases hs.covers j w hj with hg | hm
          . unfold Worker.isGone at hg
            unfold Worker.holdsSlot at hholds
            split at hg <;> simp_all
          . obtain ⟨v, hv, hstage⟩ := hs.waiting j (hmem ▸ hm)
            rw [hj] at hv
            obtain rfl := Option.some.inj hv
            simp [Worker.holdsSlot, hstage] at hholds
      refine List.all_eq_true.2 fun w hw => ?_
      obtain ⟨j, hj⟩ := List.mem_iff_getElem?.1 hw
      rcases hs.covers j w hj with hg | hm
      . exact hg
      . simp [hmem, hwaiters] at hm

theorem isDone_drain (p : Pool) : (ofPool p).drain.pool.isDone = true :=
  isDone_of_step?_eq_none (sound_drain (sound_ofPool p)) (step?_drain _)

end Schedule

end SetupBatch
