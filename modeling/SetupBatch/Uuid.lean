import SetupBatch.Text.Digits
/-!
This module contains universally unique identifiers: 128 bits, read in four written forms and
written in one.
-/

namespace SetupBatch

structure Uuid where
  bits : BitVec 128
  deriving DecidableEq, Inhabited

namespace Uuid

def ofPlain? (cs : List Char) : Option Uuid :=
  if cs.length = 32 ∧ cs.all (Text.isDigitOf 16) then
    some ⟨BitVec.ofNat 128 (Text.digitsValue 16 cs)⟩
  else none

def ofHyphenated? (cs : List Char) : Option Uuid :=
  if cs.length = 36 ∧ cs[8]? = some '-' ∧ cs[13]? = some '-' ∧ cs[18]? = some '-' ∧
      cs[23]? = some '-' then
    ofPlain? (cs.take 8 ++ (cs.drop 9).take 4 ++ (cs.drop 14).take 4 ++ (cs.drop 19).take 4 ++
      cs.drop 24)
  else none

/-- Reads the plain, hyphenated, braced or name form, with letters of either case. -/
def ofString? (s : String) : Option Uuid :=
  let cs := s.toList
  match cs.length with
  | 32 => ofPlain? cs
  | 36 => ofHyphenated? cs
  | 38 =>
    if cs.head? = some '\x7b' ∧ cs.getLast? = some '\x7d' then ofHyphenated? (cs.drop 1).dropLast
    else none
  | 45 =>
    if (cs.take 9).map Char.toLower = "urn:uuid:".toList then ofHyphenated? (cs.drop 9) else none
  | _ => none

def digits (u : Uuid) : List Char :=
  let cs := Nat.toDigits 16 u.bits.toNat
  List.replicate (32 - cs.length) '0' ++ cs

def text (u : Uuid) : String :=
  let cs := u.digits
  String.ofList (cs.take 8 ++ '-' :: (cs.drop 8).take 4 ++ '-' :: (cs.drop 12).take 4 ++
    '-' :: (cs.drop 16).take 4 ++ '-' :: cs.drop 20)

end Uuid

end SetupBatch
