import Mathlib.Data.List.Nodup
import Mathlib.Data.List.Permutation
import SetupBatch.Batch

/-!
This module contains the verification of the table of results: it is kept in ascending order of the
tickets, with the last ticket stored under each index, in whatever order tickets come. It is the
table that a search for the index, and a sort after each call, would make.
-/

namespace SetupBatch

def Ascending (tickets : List Ticket) : Prop := tickets.Pairwise fun t u => t.index < u.index

namespace Ascending

variable {xs ys : List Ticket}

theorem indices (h : Ascending xs) : (xs.map (·.index)).Nodup := by
  unfold List.Nodup
  rw [List.pairwise_map]
  exact h.imp fun hlt => Nat.ne_of_lt hlt

theorem eq_of_index (h : Ascending xs) {t u : Ticket} (ht : t ∈ xs) (hu : u ∈ xs)
    (hindex : t.index = u.index) : t = u := by
  exact List.inj_on_of_nodup_map h.indices ht hu hindex

theorem nodup (h : Ascending xs) : xs.Nodup := List.Nodup.of_map _ h.indices

theorem eq_of_mem_iff (hx : Ascending xs) (hy : Ascending ys) (h : ∀ t, t ∈ xs ↔ t ∈ ys)
    : xs = ys := by
  apply List.Perm.eq_of_pairwise _ hx hy ((List.perm_ext_iff_of_nodup hx.nodup hy.nodup).2 h)
  intro t u _ _ htu hut
  omega

theorem map (h : Ascending xs) (f : Ticket → Ticket) (hf : ∀ t, (f t).index = t.index)
    : Ascending (xs.map f) := by
  unfold Ascending
  rw [List.pairwise_map]
  apply h.imp
  intro t u htu
  rw [hf, hf]
  exact htu

end Ascending

namespace Ticket

theorem ascending_admitAll (tasks : List Task) : Ascending (admitAll tasks) := by
  have hsnd : (tasks.zipIdx.map Prod.snd).Pairwise (· < ·) := by
    rw [List.zipIdx_map_snd]
    exact List.pairwise_lt_range'
  unfold Ascending admitAll
  rw [List.pairwise_map] at *
  exact hsnd

end Ticket

namespace Results

variable {r s : Results}

section Members

variable {t u v : Ticket}

theorem mem_cons_of_index_eq (heq : v.index = t.index) (h : ∀ w ∈ r, w.index ≠ t.index)
    : u ∈ t :: r ↔ u = t ∨ u ∈ v :: r ∧ u.index ≠ t.index := by
  rw [List.mem_cons, List.mem_cons]
  apply or_congr_right
  constructor
  . intro hu
    exact ⟨.inr hu, h u hu⟩
  . rintro ⟨rfl | hu, hne⟩
    . exact absurd heq hne
    . exact hu

theorem mem_cons_of_index_ne (hne : v.index ≠ t.index)
    (h : u ∈ s ↔ u = t ∨ u ∈ r ∧ u.index ≠ t.index)
    : u ∈ v :: s ↔ u = t ∨ u ∈ v :: r ∧ u.index ≠ t.index := by
  rw [List.mem_cons, h, List.mem_cons]
  constructor
  . rintro (rfl | rfl | hu)
    . exact .inr ⟨.inl rfl, hne⟩
    . exact .inl rfl
    . exact .inr ⟨.inr hu.1, hu.2⟩
  . rintro (rfl | ⟨rfl | hu, hne⟩)
    . exact .inr (.inl rfl)
    . exact .inl rfl
    . exact .inr (.inr ⟨hu, hne⟩)

end Members

theorem mem_insert (h : Ascending r) (t u : Ticket)
    : u ∈ insert t r ↔ u = t ∨ u ∈ r ∧ u.index ≠ t.index := by
  -- the tickets after the place of `t` have greater indices
  induction r with
  | nil => simp [insert]
  | cons v r ih =>
    have hrest := List.pairwise_cons.1 h
    unfold insert
    split
    . next hlt =>
      rw [List.mem_cons]
      apply or_congr_right
      rw [iff_self_and, List.mem_cons]
      rintro (rfl | hu)
      . omega
      . have := hrest.1 u hu
        omega
    . split
      . next heq =>
        apply mem_cons_of_index_eq heq.symm
        intro w hw
        have := hrest.1 w hw
        omega
      . next hne => exact mem_cons_of_index_ne (Ne.symm hne) (ih hrest.2)

theorem ascending_insert (h : Ascending r) (t : Ticket) : Ascending (insert t r) := by
  induction r with
  | nil => exact List.pairwise_singleton _ _
  | cons v r ih =>
    have hrest := List.pairwise_cons.1 h
    unfold insert
    split
    . next hlt =>
      apply List.pairwise_cons.2 ⟨_, h⟩
      intro u hu
      cases List.mem_cons.1 hu with
      | inl heq => rw [heq]; exact hlt
      | inr hmem => exact Nat.lt_trans hlt (hrest.1 u hmem)
    . split
      . next heq =>
        apply List.pairwise_cons.2 ⟨_, hrest.2⟩
        intro u hu
        rw [heq]
        exact hrest.1 u hu
      . next hlt hne =>
        apply List.pairwise_cons.2 ⟨_, ih hrest.2⟩
        intro u hu
        cases (mem_insert hrest.2 t u).1 hu with
        | inl heq => rw [heq]; omega
        | inr hmem => exact hrest.1 u hmem.1

theorem ascending_store (h : Ascending r) (tickets : List Ticket)
    : Ascending (r.store tickets) := by
  induction tickets generalizing r with
  | nil => exact h
  | cons t tickets ih => exact ih (ascending_insert h t)

theorem mem_store (h : Ascending r) {tickets : List Ticket}
    (hindices : (tickets.map (·.index)).Nodup) (u : Ticket)
    : u ∈ r.store tickets ↔ u ∈ tickets ∨ u ∈ r ∧ u.index ∉ tickets.map (·.index) := by
  induction tickets generalizing r with
  | nil => simp [store]
  | cons t tickets ih =>
    rw [List.map_cons, List.nodup_cons] at hindices
    have hstore : r.store (t :: tickets) = (insert t r).store tickets := rfl
    rw [hstore, ih (ascending_insert h t) hindices.2, mem_insert h, List.mem_cons, List.map_cons,
      List.mem_cons, not_or]
    constructor
    . rintro (hu | ⟨rfl | hu, hnot⟩)
      . exact .inl (.inr hu)
      . exact .inl (.inl rfl)
      . exact .inr ⟨hu.1, hu.2, hnot⟩
    . rintro ((rfl | hu) | ⟨hu, hne, hnot⟩)
      . exact .inr ⟨.inl rfl, hindices.1⟩
      . exact .inl hu
      . exact .inr ⟨.inr ⟨hu, hne⟩, hnot⟩

/-! The same table, if tickets replace those of their index or come last, and all are put in order
when the tickets of a call are stored. -/

def put (r : Results) (t : Ticket) : Results :=
  match r.findIdx? (·.index == t.index) with
  | some i => r.set i t
  | none => r ++ [t]

def file (r : Results) (tickets : List Ticket) : Results :=
  (tickets.foldl put r).mergeSort fun t u => t.index ≤ u.index

theorem put_cons (u : Ticket) (r : Results) (t : Ticket)
    : put (u :: r) t = if u.index = t.index then t :: r else u :: put r t := by
  unfold put
  rw [List.findIdx?_cons]
  by_cases heq : u.index = t.index
  . simp [heq]
  . cases r.findIdx? (·.index == t.index) <;> simp [heq]

theorem mem_put (h : (r.map (·.index)).Nodup) (t u : Ticket)
    : u ∈ r.put t ↔ u = t ∨ u ∈ r ∧ u.index ≠ t.index := by
  induction r with
  | nil => simp [put]
  | cons v r ih =>
    rw [List.map_cons, List.nodup_cons] at h
    rw [put_cons]
    split
    . next heq =>
      apply mem_cons_of_index_eq heq
      intro w hw hindex
      apply h.1
      rw [heq, ← hindex]
      exact List.mem_map_of_mem hw
    . next hne => exact mem_cons_of_index_ne hne (ih h.2)

theorem nodup_put (h : (r.map (·.index)).Nodup) (t : Ticket)
    : ((r.put t).map (·.index)).Nodup := by
  induction r with
  | nil => exact List.nodup_singleton _
  | cons u r ih =>
    rw [List.map_cons, List.nodup_cons] at h
    rw [put_cons]
    split
    . next heq =>
      rw [heq] at h
      exact List.nodup_cons.2 h
    . next hne =>
      refine List.nodup_cons.2 ⟨?_, ih h.2⟩
      intro hmem
      rcases List.mem_map.1 hmem with ⟨v, hv, hindex⟩
      rcases (mem_put h.2 t v).1 hv with rfl | hv
      . exact hne hindex.symm
      . exact h.1 (List.mem_map.2 ⟨v, hv.1, hindex⟩)

theorem put_perm_insert (h : Ascending s) (hperm : r.Perm s) (t : Ticket)
    : (r.put t).Perm (insert t s) := by
  have hindices : (r.map (·.index)).Nodup := (hperm.map _).nodup_iff.2 h.indices
  have hput := List.Nodup.of_map _ (nodup_put hindices t)
  rw [List.perm_ext_iff_of_nodup hput (ascending_insert h t).nodup]
  intro u
  rw [mem_put hindices, mem_insert h, hperm.mem_iff]

theorem putAll_perm_store (h : Ascending s) (hperm : r.Perm s) (tickets : List Ticket)
    : (tickets.foldl put r).Perm (s.store tickets) := by
  induction tickets generalizing r s with
  | nil => exact hperm
  | cons t tickets ih => exact ih (ascending_insert h t) (put_perm_insert h hperm t)

theorem file_eq_store (h : Ascending r) (tickets : List Ticket)
    : r.file tickets = r.store tickets := by
  have hstore := ascending_store h tickets
  have hperm : (r.file tickets).Perm (r.store tickets) :=
    (List.mergeSort_perm _ _).trans (putAll_perm_store h (.refl r) tickets)
  have hfile : (r.file tickets).Pairwise fun t u => decide (t.index ≤ u.index) := by
    apply List.pairwise_mergeSort
    . intro t u v htu huv
      simp only [decide_eq_true_eq] at *
      omega
    . intro t u
      simp only [Bool.or_eq_true, decide_eq_true_eq]
      omega
  apply hperm.eq_of_pairwise _ (hfile.imp of_decide_eq_true) (hstore.imp Nat.le_of_lt)
  intro t u ht hu htu hut
  exact hstore.eq_of_index (hperm.mem_iff.1 ht) hu (Nat.le_antisymm htu hut)

theorem foldl_file (h : Ascending r) (calls : List (List Ticket))
    : calls.foldl file r = calls.foldl store r := by
  induction calls generalizing r with
  | nil => rfl
  | cons tickets calls ih =>
    rw [List.foldl_cons, List.foldl_cons, file_eq_store h]
    exact ih (ascending_store h tickets)

theorem foldl_store (r : Results) (calls : List (List Ticket))
    : calls.foldl store r = r.store calls.flatten := by
  induction calls generalizing r with
  | nil => rfl
  | cons tickets calls ih =>
    rw [List.foldl_cons, ih, List.flatten_cons]
    unfold store
    rw [List.foldl_append]

theorem find?_insert (t : Ticket) (r : Results) (i : Nat)
    : (insert t r).find? (·.index == i) =
        if t.index = i then some t else r.find? (·.index == i) := by
  induction r with
  | nil => by_cases hi : t.index = i <;> simp [insert, hi]
  | cons u r ih =>
    unfold insert
    split
    . by_cases hi : t.index = i <;> simp [hi]
    . split
      . next heq => by_cases hi : t.index = i <;> simp [hi, ← heq]
      . next hne =>
        by_cases hi : t.index = i
        . have hu : ¬u.index = i := by omega
          simp [ih, hi, hu]
        . simp only [List.find?_cons, ih, if_neg hi]

/--
A table that keeps the last one of each index of the tickets that were stored, in ascending order.
-/
structure Keeps (r : Results) (stored : List Ticket) : Prop where
  ascending : Ascending r
  indices : ∀ i, i ∈ r.map (·.index) ↔ i ∈ stored.map (·.index)
  latest : ∀ i, r.find? (·.index == i) = (stored.filter (·.index == i)).getLast?

theorem find?_store (tickets : List Ticket) (i : Nat)
    : (store [] tickets).find? (·.index == i) = (tickets.filter (·.index == i)).getLast? := by
  induction tickets using List.reverseRecOn with
  | nil => rfl
  | append_singleton tickets t ih =>
    have hstore : store [] (tickets ++ [t]) = insert t (store [] tickets) := List.foldl_append
    rw [hstore, find?_insert, ih, List.filter_append]
    by_cases hi : t.index = i <;> simp [hi]

theorem keeps_store (tickets : List Ticket) : Keeps (store [] tickets) tickets := by
  constructor
  . exact ascending_store List.Pairwise.nil tickets
  . intro i
    have hmem : ∀ r : Results, i ∈ r.map (·.index) ↔ (r.find? (·.index == i)).isSome := by
      intro r
      simp
    rw [hmem, find?_store, List.getLast?_isSome]
    simp [List.filter_eq_nil_iff]
  . exact find?_store tickets

/--
The table keeps the latest tickets after any number of calls, whatever the order of the tickets and
however often an index comes. Sorting it only at the end of each call makes no difference.
-/
theorem keeps_foldl_store (calls : List (List Ticket))
    : calls.foldl store [] = calls.foldl file [] ∧ Keeps (calls.foldl store []) calls.flatten := by
  constructor
  . exact (foldl_file List.Pairwise.nil calls).symm
  . rw [foldl_store]
    exact keeps_store calls.flatten

end Results

end SetupBatch
