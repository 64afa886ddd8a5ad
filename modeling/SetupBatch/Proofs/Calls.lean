import Mathlib.Data.List.Basic

/-!
This module contains runs of calls of which some may be refused. Whatever serves calls gives each of
them an answer or a refusal and goes on in a new state. The history of a run are the calls that were
accepted, which is all that counts where a refused call changes nothing.
-/

namespace SetupBatch

namespace Calls

variable {σ κ ε α : Type} (serve : σ → κ → Except ε α × σ)

def run (s : σ) (cs : List κ) : σ := cs.foldl (fun s c => (serve s c).2) s

def record (s : σ) : List κ → List (κ × α)
  | [] => []
  | c :: cs =>
    match (serve s c).1 with
    | .ok a => (c, a) :: record (serve s c).2 cs
    | .error _ => record (serve s c).2 cs

def accepted (s : σ) (cs : List κ) : List κ := (record serve s cs).map (·.1)

def answers (s : σ) (cs : List κ) : List α := (record serve s cs).map (·.2)

def Atomic : Prop := ∀ s c e, (serve s c).1 = .error e → (serve s c).2 = s

variable {serve} {s : σ}

theorem record_cons_of_ok {c : κ} {a : α} {s' : σ} (h : serve s c = (.ok a, s')) (cs : List κ)
    : record serve s (c :: cs) = (c, a) :: record serve s' cs := by
  simp only [record, h]

theorem record_cons_of_error {c : κ} {e : ε} {s' : σ} (h : serve s c = (.error e, s'))
    (cs : List κ) : record serve s (c :: cs) = record serve s' cs := by
  simp only [record, h]

theorem run_append (s : σ) (xs ys : List κ)
    : run serve s (xs ++ ys) = run serve (run serve s xs) ys := by
  unfold run
  rw [List.foldl_append]

theorem record_append (s : σ) (xs ys : List κ)
    : record serve s (xs ++ ys) = record serve s xs ++ record serve (run serve s xs) ys := by
  induction xs generalizing s with
  | nil => rfl
  | cons c xs ih =>
    have hrest := ih (serve s c).2
    rcases hserve : serve s c with ⟨e | a, s'⟩
    . rw [hserve] at hrest
      rw [List.cons_append, record_cons_of_error hserve, record_cons_of_error hserve, hrest]
      simp only [run, List.foldl_cons, hserve]
    . rw [hserve] at hrest
      rw [List.cons_append, record_cons_of_ok hserve, record_cons_of_ok hserve, hrest]
      simp only [run, List.foldl_cons, hserve, List.cons_append]

theorem accepted_append (s : σ) (xs ys : List κ)
    : accepted serve s (xs ++ ys) = accepted serve s xs ++ accepted serve (run serve s xs) ys := by
  unfold accepted
  rw [record_append, List.map_append]

theorem accepted_sublist (serve : σ → κ → Except ε α × σ) (s : σ) (cs : List κ)
    : (accepted serve s cs).Sublist cs := by
  unfold accepted
  induction cs generalizing s with
  | nil => exact List.Sublist.refl _
  | cons c cs ih =>
    rcases hserve : serve s c with ⟨e | a, s'⟩
    . rw [record_cons_of_error hserve]
      exact (ih s').cons c
    . rw [record_cons_of_ok hserve]
      exact (ih s').cons_cons c

theorem accepted_of_isPrefix {xs cs : List κ} (hcs : accepted serve s cs = cs) (hxs : xs <+: cs)
    : accepted serve s xs = xs := by
  rcases hxs with ⟨ys, rfl⟩
  rw [accepted_append] at hcs
  have hlength := congrArg List.length hcs
  rw [List.length_append, List.length_append] at hlength
  have hx := (accepted_sublist serve s xs).length_le
  have hy := (accepted_sublist serve (run serve s xs) ys).length_le
  exact (List.append_inj hcs (by omega)).1

theorem keeps_aux {P : List (κ × α) → σ → Prop} (hatomic : Atomic serve)
    (hstep : ∀ h s c a s', P h s → serve s c = (.ok a, s') → P (h ++ [(c, a)]) s')
    {h : List (κ × α)} (hs : P h s) (cs : List κ)
    : P (h ++ record serve s cs) (run serve s cs) := by
  induction cs generalizing h s with
  | nil => simpa [record, run] using hs
  | cons c cs ih =>
    rcases hserve : serve s c with ⟨e | a, s'⟩
    . have hsame : s' = s := by simpa [hserve] using hatomic s c e (by rw [hserve])
      rw [record_cons_of_error hserve, hsame]
      simpa only [run, List.foldl_cons, hserve, hsame] using ih hs
    . rw [record_cons_of_ok hserve, List.append_cons]
      simpa only [run, List.foldl_cons, hserve] using ih (hstep h s c a s' hs hserve)

/-- What holds of the empty history and is kept by every accepted call holds after every run. -/
theorem keeps_record {P : List (κ × α) → σ → Prop} (hatomic : Atomic serve)
    (hstep : ∀ h s c a s', P h s → serve s c = (.ok a, s') → P (h ++ [(c, a)]) s')
    (hs : P [] s) (cs : List κ) : P (record serve s cs) (run serve s cs) := by
  exact keeps_aux hatomic hstep hs cs

theorem keeps {P : List κ → σ → Prop} (hatomic : Atomic serve)
    (hstep : ∀ h s c a s', P h s → serve s c = (.ok a, s') → P (h ++ [c]) s')
    (hs : P [] s) (cs : List κ) : P (accepted serve s cs) (run serve s cs) := by
  apply keeps_record (P := fun h s' => P (h.map (·.1)) s') hatomic _ hs
  intro h s₁ c a s₂ h₁ hserve
  rw [List.map_append]
  exact hstep _ _ _ _ _ h₁ hserve

theorem run_accepted (hatomic : Atomic serve) (s : σ) (cs : List κ)
    : run serve s (accepted serve s cs) = run serve s cs := by
  apply keeps (P := fun h s' => run serve s h = s') hatomic _ rfl
  intro h s₁ c a s₂ hrun hserve
  rw [run_append, hrun]
  simp only [run, List.foldl_cons, List.foldl_nil, hserve]

structure Leads (serve : σ → κ → Except ε α × σ) (s : σ) (cs : List κ) (s' : σ) : Prop where
  accepted : accepted serve s cs = cs
  run : run serve s cs = s'

theorem Leads.nil (s : σ) : Leads serve s [] s := ⟨rfl, rfl⟩

theorem Leads.cons {c : κ} {a : α} {s₁ s₂ : σ} {cs : List κ} (hserve : serve s c = (.ok a, s₁))
    (hcs : Leads serve s₁ cs s₂) : Leads serve s (c :: cs) s₂ := by
  constructor
  . have hrest := hcs.accepted
    unfold Calls.accepted at hrest ⊢
    rw [record_cons_of_ok hserve, List.map_cons, hrest]
  . have hrest := hcs.run
    unfold Calls.run at hrest ⊢
    rw [List.foldl_cons, hserve, hrest]

theorem Leads.append {s₁ s₂ : σ} {xs ys : List κ} (hxs : Leads serve s xs s₁)
    (hys : Leads serve s₁ ys s₂) : Leads serve s (xs ++ ys) s₂ := by
  constructor
  . rw [accepted_append, hxs.accepted, hxs.run, hys.accepted]
  . rw [run_append, hxs.run, hys.run]

end Calls

end SetupBatch
