import SetupBatch.Proofs.Gate
import SetupBatch.Proofs.Pass

/-!
This module contains the verification of actions: a pass that the gate asks for goes through and is
accepted by the gate, and announcements change nothing that concerns the tickets.
-/

namespace SetupBatch

namespace Batch

structure Alike (b b' : Batch) : Prop where
  board : b.board.Alike b'.board
  calls : b'.shared.calls = b.shared.calls
  rest : b' = { b with shared := b'.shared, gate := b'.gate }

namespace Alike

variable {b b' b'' : Batch}

theorem refl (b : Batch) : b.Alike b := ⟨.refl _, rfl, rfl⟩

theorem trans (h : b.Alike b') (h' : b'.Alike b'') : b.Alike b'' where
  board := h.board.trans h'.board
  calls := h'.calls.trans h.calls
  rest := by
    rw [h'.rest, h.rest]

theorem withBoard {board : Board} (h : b.board.Alike board) : b.Alike (b.withBoard board) :=
  ⟨h, rfl, rfl⟩

theorem withGate (b : Batch) (gate : Gate) : b.Alike { b with gate } := ⟨.refl _, rfl, rfl⟩

theorem announce (b : Batch) (a : Gate.Action) : b.Alike (b.announce a) := by
  cases a with
  | log message => exact refl b
  | runPass retry => exact refl b
  | offerRetry failed => exact withBoard (.tell _ fun _ => rfl)
  | announceExhausted failed => exact withBoard (.tell _ fun _ => rfl)
  | finishBatch => exact withBoard (.tell _ fun _ => rfl)

theorem announceAll (b : Batch) (as : List Gate.Action) : b.Alike (as.foldl Batch.announce b) := by
  induction as generalizing b with
  | nil => exact refl b
  | cons a as ih => exact (announce b a).trans (ih _)

theorem say {b : Batch} (h : b.board.feed.Sound) (text : String) (severity : Severity)
    : b.Alike (b.say text severity) := withBoard (.say h text severity)

end Alike

theorem perform_announcements (d : Discipline) (b : Batch) {as : List Gate.Action}
    (h : ∀ retry, .runPass retry ∉ as) : b.perform d as = (.ok (), as.foldl announce b) := by
  induction as generalizing b with
  | nil => rfl
  | cons a as ih =>
    have hrest := ih (b.announce a) fun retry hmem => h retry (List.mem_cons_of_mem _ hmem)
    cases a with
    | runPass retry => exact absurd List.mem_cons_self (h retry)
    | _ => exact hrest

theorem perform_pass_eq (d : Discipline) {b : Batch} (h : b.Primed) {used tasks : Nat}
    (hstate : b.gate.state = .running used tasks) (message : String) (retry : Bool)
    : ∃ b₁ actions gate, b.runPass d retry = (.ok b₁.failed.length, b₁) ∧ b.PassDone b₁ ∧
        gate = { b.gate with state := .paused b.gate.budget used b₁.failed.length false } ∧
        b.gate.apply (.passDrained b₁.failed.length) = .ok (actions, gate) ∧
        b.perform d [.log message, .runPass retry] =
          (.ok (), actions.foldl announce { b₁ with gate }) := by
  rcases runPass_eq d h retry with ⟨b₁, hpass, hdone⟩
  have hgate : b₁.gate = b.gate := by rw [hdone.rest]
  rcases Gate.apply_passDrained hstate b₁.failed.length with ⟨actions, happly⟩
  refine ⟨b₁, actions, _, hpass, hdone, rfl, happly, ?_⟩
  show b.perform d [.runPass retry] = _
  unfold perform
  rw [hpass]
  dsimp only
  rw [hgate, happly]
  rfl

theorem perform_pass (d : Discipline) {b : Batch} (h : b.Primed) {used tasks : Nat}
    (hstate : b.gate.state = .running used tasks) (message : String) (retry : Bool)
    : ∃ b₁ b₂, b.perform d [.log message, .runPass retry] = (.ok (), b₂) ∧ b.PassDone b₁ ∧
        b₁.Alike b₂ ∧ b₂.gate = { b.gate with
          state := .paused b.gate.budget used b₁.failed.length false } := by
  rcases perform_pass_eq d h hstate message retry
    with ⟨b₁, actions, gate, -, hdone, hgate, -, hperform⟩
  refine ⟨b₁, _, hperform, hdone, (Alike.withGate b₁ gate).trans (.announceAll _ actions), ?_⟩
  rw [gate_announceAll]
  exact hgate

end Batch

end SetupBatch
