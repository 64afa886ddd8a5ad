import SetupBatch.Proofs.Capacity
import SetupBatch.Proofs.Reading

/-!
This module contains the verification of the slots that options ask for. However options come to be,
they ask for at least one slot, and a batch that is made of them has as many, so that no phase waits
for slots that there are not. Only the batch that asks for more slots than there may be is refused,
and accepted bounds can be as large as that.
-/

namespace SetupBatch

namespace Options

inductive Change where
  | retryBudget (budget : Nat)
  | counterMode (mode : CounterMode)
  | target (target : Target)
  | maxConcurrency (max : Nat)
  | strictElevation (strict : Bool)

namespace Change

def bound? : Change → Option Nat
  | maxConcurrency max => some max
  | _ => none

def Fits : Change → Prop
  | retryBudget budget => budget ≤ maxWord32
  | maxConcurrency max => max ≤ maxWord64
  | _ => True

end Change

def change (o : Options) : Change → Options
  | .retryBudget budget => o.withRetryBudget budget
  | .counterMode mode => o.withCounterMode mode
  | .target target => o.withTarget target
  | .maxConcurrency max => o.withMaxConcurrency max
  | .strictElevation strict => o.withStrictElevation strict

/--
Options that can come to be, with the bounds that were set for them on the way: those of settings
and of a command, the default ones, and what any calls make of them.
-/
inductive Accepted : Options → List Nat → Prop where
  | default : Accepted {} []
  | settings {text : String} {settings : Settings} (target : Target) :
    Settings.ofToml text = .ok settings →
      Accepted (settings.options target) settings.execution.maxConcurrency.toList
  | command {text : String} {settings : Settings} {flags : RunFlags} (p : Plan) :
    Settings.ofToml text = .ok settings → flags.Fits →
      Accepted (p.options settings flags)
        (settings.execution.maxConcurrency.toList ++ flags.maxConcurrency.toList)
  | change {o : Options} {bounds : List Nat} (c : Change) :
    Accepted o bounds → c.Fits → Accepted (o.change c) (bounds ++ c.bound?.toList)

def slots? (o : Options) : Option Nat := o.maxConcurrency.map (max · 1)

theorem maxConcurrency_change (o : Options) (c : Change)
    : (o.change c).maxConcurrency = (c.bound?.map (max · 1)).or o.maxConcurrency := by
  cases c <;> rfl

theorem maxConcurrency_settings (s : Settings) (target : Target)
    : (s.options target).maxConcurrency = s.execution.maxConcurrency.map (max · 1) := by
  unfold Settings.options
  cases s.execution.maxConcurrency <;> rfl

theorem maxConcurrency_plan (p : Plan) (s : Settings) (flags : RunFlags)
    : (p.options s flags).maxConcurrency =
        (flags.maxConcurrency.or s.execution.maxConcurrency).map (max · 1) := by
  unfold Plan.options
  cases flags.maxConcurrency with
  | none => exact maxConcurrency_settings s p.setupTarget
  | some max => rfl

variable {o : Options} {bounds : List Nat}

namespace Accepted

theorem maxConcurrency_eq (h : o.Accepted bounds)
    : o.maxConcurrency = bounds.getLast?.map (max · 1) := by
  have hlast : ∀ bound? : Option Nat, bound?.toList.getLast? = bound? := by
    intro bound?
    cases bound? <;> rfl
  induction h with
  | default => rfl
  | settings target => rw [maxConcurrency_settings, hlast]
  | command p => rw [maxConcurrency_plan, List.getLast?_append, hlast, hlast]
  | change c _ _ ih =>
    rw [maxConcurrency_change, ih, List.getLast?_append, hlast, Option.map_or]

theorem le_maxWord64 (h : o.Accepted bounds) : ∀ n ∈ bounds, n ≤ maxWord64 := by
  induction h with
  | default => exact nofun
  | settings target hread =>
    intro n hn
    exact Settings.le_of_ofToml hread (Option.mem_toList.1 hn)
  | command p hread hflags =>
    intro n hn
    rcases List.mem_append.1 hn with hn | hn
    . exact Settings.le_of_ofToml hread (Option.mem_toList.1 hn)
    . exact hflags n (Option.mem_toList.1 hn)
  | change c _ hc ih =>
    intro n hn
    rcases List.mem_append.1 hn with hn | hn
    . exact ih n hn
    . cases c with
      | maxConcurrency max =>
        rw [List.mem_singleton.1 hn]
        exact hc
      | _ => cases hn

end Accepted

theorem new_eq_error {n : Nat} (h : o.slots? = some n) (hn : maxSlots < n) (id : BatchId)
    (tasks : List Task) (channel : Option String) (clock : Nat → Instant)
    : Batch.new id o tasks channel clock = .error ⟨n⟩ := by
  rcases Option.map_eq_some_iff.1 h with ⟨bound, hbound, hmax⟩
  -- a bound that is too large is no zero
  have hone : 1 ≤ maxSlots := by decide
  have heq : bound = n := by omega
  unfold Batch.new Slots.ofBound? Slots.ofBound
  rw [hbound]
  dsimp only
  rw [dif_neg (by omega), heq]
  rfl

theorem new_eq_ok (h : ∀ n, o.slots? = some n → n ≤ maxSlots) (id : BatchId) (tasks : List Task)
    (channel : Option String) (clock : Nat → Instant)
    : ∃ b₀, Batch.new id o tasks channel clock = .ok b₀ ∧
        b₀.crew.slots.map (·.count) = o.slots? := by
  apply Batch.exists_new
  intro bound hbound
  exact h _ (Option.map_eq_some_iff.2 ⟨bound, hbound, rfl⟩)

section New

variable {id : BatchId} {tasks : List Task} {channel : Option String} {clock : Nat → Instant}
  {b₀ : Batch} (h : Batch.new id o tasks channel clock = .ok b₀)

include h

theorem le_maxSlots_of_new {n : Nat} (hn : o.slots? = some n) : n ≤ maxSlots := by
  by_contra hlt
  rw [new_eq_error hn (Nat.lt_of_not_le hlt)] at h
  cases h

theorem slots?_of_new : b₀.crew.slots.map (·.count) = o.slots? := by
  rcases new_eq_ok (fun n hn => le_maxSlots_of_new h hn) id tasks channel clock with ⟨b, hb, hslots⟩
  cases hb.symm.trans h
  exact hslots

theorem free?_of_new (requests : List Batch.Request) (shared : Shared) (phase : Phase)
    : (Pool.ofPhase (Session.ofCalls b₀ requests).batch.crew shared phase).free? = o.slots? := by
  have hcrew := (Session.stands_ofCalls (Batch.fresh_new h) requests).1.atRest.crew
  unfold Pool.free?
  simp only [Pool.taken_ofPhase, Nat.sub_zero]
  unfold Pool.ofPhase
  rw [hcrew]
  exact slots?_of_new h

end New

/--
What the slots are like that options ask for. The last bound that was set counts, and zero as one. A
batch is made unless there are too few slots for it, and whatever was called on it, all the slots
that it asked for are free when a phase begins, and the phase does not get stuck.
-/
structure Staffed (o : Options) (bounds : List Nat) : Prop where
  slots?_eq : o.slots? = bounds.getLast?.map (max · 1)
  range : ∀ n, o.slots? = some n → 1 ≤ n ∧ n ≤ maxWord64
  made_iff : ∀ id tasks channel clock, (∃ b₀, Batch.new id o tasks channel clock = .ok b₀) ↔
    ∀ n, o.slots? = some n → n ≤ maxSlots
  refused : ∀ n, o.slots? = some n → maxSlots < n →
    ∀ id tasks channel clock, Batch.new id o tasks channel clock = .error ⟨n⟩
  progress : ∀ id tasks channel clock b₀, Batch.new id o tasks channel clock = .ok b₀ →
    ∀ requests shared phase,
      let p := Pool.ofPhase (Session.ofCalls b₀ requests).batch.crew shared phase
      p.free? = o.slots? ∧ ∀ q, p.Reach q → q.isDone = false → ∃ i r, q.step? i = some r

theorem staffed_of_accepted (h : o.Accepted bounds) : o.Staffed bounds := by
  have hslots : o.slots? = bounds.getLast?.map (max · 1) := by
    unfold slots?
    rw [h.maxConcurrency_eq, Option.map_map]
    -- what is at least one stays as it is
    apply congrArg (Option.map · _)
    funext n
    exact sup_right_idem n 1
  constructor
  . exact hslots
  . intro n hn
    rw [hslots] at hn
    rcases Option.map_eq_some_iff.1 hn with ⟨bound, hbound, rfl⟩
    have hword := h.le_maxWord64 bound (List.mem_of_getLast? hbound)
    exact ⟨Nat.le_max_right _ _, Nat.max_le.2 ⟨hword, by decide⟩⟩
  . intro id tasks channel clock
    constructor
    . rintro ⟨b₀, hnew⟩ n hn
      exact le_maxSlots_of_new hnew hn
    . intro hle
      rcases new_eq_ok hle id tasks channel clock with ⟨b₀, hnew, -⟩
      exact ⟨b₀, hnew⟩
  . intro n hn hlt id tasks channel clock
    exact new_eq_error hn hlt id tasks channel clock
  . intro id tasks channel clock b₀ hnew requests shared phase
    refine ⟨free?_of_new hnew requests shared phase, ?_⟩
    intro q _ hdone
    exact Pool.exists_step?_of_not_isDone (Bool.eq_false_iff.1 hdone)

theorem staffed_sample
    : let settings : Settings := { execution := { maxConcurrency := some 4 } }
      let flags : RunFlags := { maxConcurrency := some 0 }
      let p : Plan := { tasks := [{ name := "a" }, { name := "b" }] }
      Settings.ofToml "[execution]\nmax_concurrency = 4\n" = .ok settings ∧
        Command.parse? ["run", "p", "--max-concurrency", "0"] = some (.run "p" flags) ∧
        (p.options settings flags).Staffed [4, 0] ∧
        ∃ b₀, p.batch ⟨⟨0⟩⟩ settings flags = .ok b₀ := by
  intro settings flags p
  have hread : Settings.ofToml "[execution]\nmax_concurrency = 4\n" = .ok settings := by
    decide +kernel
  have hparse : Command.parse? ["run", "p", "--max-concurrency", "0"] = some (.run "p" flags) := by
    decide +kernel
  have hstaffed := staffed_of_accepted (.command p hread (Command.fits_parse? hparse))
  refine ⟨hread, hparse, hstaffed, ?_⟩
  apply (hstaffed.made_iff _ _ _ _).2
  rw [hstaffed.slots?_eq]
  rintro n ⟨⟩
  decide

/-- Bounds that arguments, settings and calls accept can be larger than the slots there may be. -/
theorem exists_accepted_refused
    : let bound := 2305843009213693952
      let settings : Settings := { execution := { maxConcurrency := some bound } }
      let flags : RunFlags := { maxConcurrency := some bound }
      let p : Plan := { tasks := [{ name := "a", duration := 0 }] }
      (Settings.ofToml "[execution]\nmax_concurrency = 2305843009213693952\n" = .ok settings ∧
        Command.parse? ["run", "p", "--max-concurrency", "2305843009213693952"] =
          some (.run "p" flags) ∧
        Plan.ofToml? "[[task]]\nname = \"a\"\nduration_ms = 0\n" = some p ∧ bound ≤ maxWord64) ∧
      (p.run .queued ⟨⟨0⟩⟩ settings {} = .error ⟨bound⟩ ∧
        p.run .queued ⟨⟨0⟩⟩ {} flags = .error ⟨bound⟩ ∧
        Batch.new ⟨⟨0⟩⟩ (({} : Options).withMaxConcurrency bound) (p.tasks.map (·.task)) =
          .error ⟨bound⟩) := by
  refine ⟨?_, rfl, rfl, rfl⟩
  decide +kernel

end Options

end SetupBatch
