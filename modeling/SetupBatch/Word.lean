/-!
This module contains the ranges of the numbers that fit in a machine word, and what a word keeps of
a number that does not fit.
-/

namespace SetupBatch

def maxWord32 : Nat := 0xFFFFFFFF

def maxWord64 : Nat := 0xFFFFFFFFFFFFFFFF

def maxInt64 : Nat := 0x7FFFFFFFFFFFFFFF

def wrap32 (n : Nat) : Nat := n % (maxWord32 + 1)

theorem wrap32_of_le {n : Nat} (h : n ≤ maxWord32) : wrap32 n = n :=
  Nat.mod_eq_of_lt (Nat.lt_succ_of_le h)

theorem wrap32_wrap32_add (n k : Nat) : wrap32 (wrap32 n + k) = wrap32 (n + k) :=
  Nat.mod_add_mod n (maxWord32 + 1) k

end SetupBatch
