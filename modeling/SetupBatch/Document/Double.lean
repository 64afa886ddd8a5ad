/-!
This module contains the range of doubles: whether a decimal number is too large for them, both for
readers that round once and for those that compute with rounded factors.
-/

namespace SetupBatch.Document

def doubleOverflow : Nat := (1 <<< 1024) - (1 <<< 970)

/-- Holds if `m * 10 ^ e` does not round to infinity. Numbers of more than 310 digits do, and those
of less than 300 do not, whatever their digits are. -/
def isFiniteDouble (m : Nat) (e : Int) : Bool :=
  let width := (Nat.toDigits 10 m).length + e
  if m = 0 ∨ width < 300 then true
  else if 310 < width then false
  else if 0 ≤ e then m * Nat.pow 10 e.toNat < doubleOverflow
  else m < doubleOverflow * Nat.pow 10 (-e).toNat

def roundDouble (n : Nat) : Nat :=
  let excess := n.log2 - 52
  let kept := n >>> excess
  let dropped := n - kept <<< excess
  let half := (1 <<< excess) / 2
  if half < dropped ∨ half = dropped ∧ 0 < dropped ∧ kept % 2 = 1 then (kept + 1) <<< excess
  else kept <<< excess

/-- Holds if `m * 10 ^ e` does not overflow when `m` and the power of ten are rounded before they
are multiplied. A negative power never overflows. -/
def isFiniteProduct (m : Nat) (e : Int) : Bool :=
  if m = 0 ∨ e < 0 then true
  else if 308 < e then false
  else roundDouble m * roundDouble (Nat.pow 10 e.toNat) < doubleOverflow

end SetupBatch.Document
