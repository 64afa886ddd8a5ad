import SetupBatch.CommandLine

/-!
This module contains the verification of the bounds that are read from settings and from arguments:
each is a number of 64 bits.
-/

namespace SetupBatch

namespace Document

variable {α : Type}

theorem Slot.of_withDefault {slot : Slot} {default a : α} {read : Tree → Option α}
    (h : slot.withDefault default read = some a) : a = default ∨ ∃ t, read t = some a := by
  cases slot with
  | value t => exact .inr ⟨t, h⟩
  | absent => exact .inl (Option.some.inj h).symm
  | beyond => exact .inl (Option.some.inj h).symm

namespace Tree

theorem le_of_nat? {bound n : Nat} {t : Tree} (h : t.nat? bound = some n) : n ≤ bound := by
  rcases Option.map_eq_some_iff.1 h with ⟨⟨n, hle⟩, -, rfl⟩
  exact hle

theorem of_option? {read : Tree → Option α} {t : Tree} {a : α}
    (h : t.option? read = some (some a)) : read t = some a := by
  unfold option? at h
  split at h
  . cases h
  . simpa using h

end Tree

end Document

open Document

theorem ExecutionSettings.le_of_read? {d : Dialect} {t : Tree} {e : ExecutionSettings} {n : Nat}
    (h : Form.read? d t = some e) (hn : e.maxConcurrency = some n) : n ≤ maxWord64 := by
  simp only [Form.read?, Option.bind_eq_bind, Option.bind_eq_some_iff] at h
  rcases h with ⟨slots, -, h⟩
  split at h
  . simp only [Option.bind_eq_some_iff] at h
    rcases h with ⟨max, hmax, strict, -, h⟩
    cases h
    rcases Slot.of_withDefault hmax with hnone | ⟨t, ht⟩
    . cases hnone.symm.trans hn
    . cases hn
      exact Tree.le_of_nat? (Tree.of_option? ht)
  . cases h

namespace Settings

theorem le_of_read? {d : Dialect} {t : Tree} {s : Settings} {n : Nat} (h : Form.read? d t = some s)
    (hn : s.execution.maxConcurrency = some n) : n ≤ maxWord64 := by
  simp only [Form.read?, Option.bind_eq_bind, Option.bind_eq_some_iff] at h
  rcases h with ⟨slots, -, h⟩
  split at h
  . simp only [Option.bind_eq_some_iff] at h
    rcases h with ⟨retry, -, execution, hexecution, h⟩
    cases h
    rcases Slot.of_withDefault hexecution with hdefault | ⟨t, ht⟩
    . rw [hdefault] at hn
      cases hn
    . exact ExecutionSettings.le_of_read? ht hn
  . cases h

theorem le_of_ofToml {text : String} {s : Settings} {n : Nat} (h : ofToml text = .ok s)
    (hn : s.execution.maxConcurrency = some n) : n ≤ maxWord64 := by
  unfold ofToml at h
  split at h
  . next s' hread =>
    cases h
    rcases Option.bind_eq_some_iff.1 hread with ⟨t, -, hread⟩
    exact le_of_read? hread hn
  . cases h

end Settings

def RunFlags.Fits (flags : RunFlags) : Prop :=
  ∀ n, flags.maxConcurrency = some n → n ≤ maxWord64

namespace Command

def Fits : Command → Prop
  | run _ flags => flags.Fits
  | _ => True

theorem le_of_wholeNumber? {s : String} {n : Nat} (h : wholeNumber? s = some n)
    : n ≤ maxWord64 := by
  unfold wholeNumber? at h
  rcases Option.ite_none_right_eq_some.1 h with ⟨⟨-, -, hle⟩, heq⟩
  rw [← Option.some.inj heq]
  exact hle

theorem fits_withBound? {flags flags' : RunFlags} {value : String}
    (h : withBound? flags value = some flags') : flags'.Fits := by
  unfold withBound? at h
  split at h
  . cases h
  . rcases Option.bind_eq_some_iff.1 h with ⟨n, hn, heq⟩
    cases heq
    rintro _ ⟨⟩
    exact le_of_wholeNumber? hn

section Arguments

variable {args : List String} {command : Command}

theorem fits_ofInit? {path : Option String} {literal : Bool}
    (h : ofInit? path literal args = some command) : command.Fits := by
  fun_induction ofInit? path literal args
  case case1 | case3 =>
    cases h
    trivial
  case case2 ih => exact ih h
  case case4 => cases h
  case case5 ih =>
    rcases Option.bind_eq_some_iff.1 h with ⟨path, -, h⟩
    exact ih path h

theorem fits_ofRun? {flags : RunFlags} {plan : Option String} {literal : Bool}
    (h : ofRun? flags plan literal args = some command) (hflags : flags.Fits) : command.Fits := by
  fun_induction ofRun? flags plan literal args
  case case1 =>
    rcases Option.map_eq_some_iff.1 h with ⟨plan, -, heq⟩
    cases heq
    exact hflags
  -- the path of a plan
  case case2 ih | case15 ih =>
    rcases Option.bind_eq_some_iff.1 h with ⟨plan, -, h⟩
    exact ih plan h hflags
  -- a bound
  case case4 ih | case13 ih =>
    rcases Option.bind_eq_some_iff.1 h with ⟨flags, hbound, h⟩
    exact ih flags h (fits_withBound? hbound)
  -- any other flag
  case case5 ih | case7 ih | case9 ih | case11 ih => exact ih h hflags
  case case12 =>
    cases h
    trivial
  case case3 | case6 | case8 | case10 | case14 => cases h

theorem fits_ofHelp? (h : ofHelp? args = some command) : command.Fits := by
  unfold ofHelp? at h
  split at h <;> cases h <;> trivial

theorem fits_ofLetters? {verbose : Bool} {letters : List Char}
    (h : ofLetters? verbose letters = some (.inl command)) : command.Fits := by
  fun_induction ofLetters? verbose letters
  case case3 ih => exact ih h
  case case4 | case5 =>
    cases h
    trivial
  case case1 | case2 | case6 => cases h

theorem fits_ofArguments? {verbose : Bool} (h : ofArguments? verbose args = some command)
    : command.Fits := by
  fun_induction ofArguments? verbose args
  case case2 => exact fits_ofInit? h
  case case3 => exact fits_ofRun? h nofun
  case case4 => exact fits_ofHelp? h
  case case6 ih | case10 ih => exact ih h
  case case7 | case8 =>
    cases h
    trivial
  case case9 hletters =>
    cases h
    exact fits_ofLetters? hletters
  case case1 | case5 | case11 | case12 => cases h

theorem fits_parse? (h : parse? args = some command) : command.Fits := fits_ofArguments? h

end Arguments

end Command

end SetupBatch
