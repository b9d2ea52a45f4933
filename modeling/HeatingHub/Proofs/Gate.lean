import HeatingHub.Gate
import Mathlib.Tactic.Lemma

/-!
# The numbers of a gate

The numbers of a gate are settings, while the lock is not. What a change to the whitelist can do is
said once (`add_cases`, `remove_cases`). Each change to the numbers says truly whether it changed
anything (`add_changed`, `remove_changed`, `clearEmergency_changed`).
-/

namespace HeatingHub.Gate

/-- The numbers that a gate knows: its part of the settings. -/
def numbers (gate : Gate) : Std.ExtTreeSet String × Option String :=
  (gate.whitelist, gate.emergency)

/-- To insert a member changes nothing. -/
lemma insert_eq_self {whitelist : Std.ExtTreeSet String} {number : String}
    (h : number ∈ whitelist) : whitelist.insert number = whitelist := by
  apply Std.ExtTreeSet.ext_mem
  intro other
  rw [Std.ExtTreeSet.mem_insert, Std.LawfulEqCmp.compare_eq_iff_eq]
  exact ⟨fun mem => mem.elim (fun same => same ▸ h) id, .inr⟩

/-- What was erased is no member. -/
lemma not_mem_erase_self (whitelist : Std.ExtTreeSet String) (number : String) :
    number ∉ whitelist.erase number :=
  fun mem => (Std.ExtTreeSet.mem_erase.1 mem).1 Std.ReflCmp.compare_self

/-! ## The whitelist -/

/-- An addition refuses an invalid number, leaves a member alone, or puts the number in. -/
lemma add_cases (gate : Gate) (number : String) :
    (isPhoneNumber number.toList = false ∧ gate.add number = (.invalidNumber, gate)) ∨
    (isPhoneNumber number.toList ∧ number ∈ gate.whitelist ∧
      gate.add number = (.unchanged, gate)) ∨
    (isPhoneNumber number.toList ∧ number ∉ gate.whitelist ∧
      gate.add number = (.added, { gate with whitelist := gate.whitelist.insert number })) := by
  rw [add, Std.ExtTreeSet.mem_iff_contains]
  cases isPhoneNumber number.toList with
  | false => exact .inl ⟨rfl, rfl⟩
  | true =>
    cases gate.whitelist.contains number with
    | true => exact .inr (.inl ⟨rfl, rfl, rfl⟩)
    | false => exact .inr (.inr ⟨rfl, Bool.false_ne_true, rfl⟩)

/-- A removal refuses an invalid number, finds no member, or takes the number out. -/
lemma remove_cases (gate : Gate) (number : String) :
    (isPhoneNumber number.toList = false ∧ gate.remove number = (.invalidNumber, gate)) ∨
    (isPhoneNumber number.toList ∧ number ∉ gate.whitelist ∧
      gate.remove number = (.unchanged, gate)) ∨
    (isPhoneNumber number.toList ∧ number ∈ gate.whitelist ∧
      gate.remove number =
        (.removed, { gate with whitelist := gate.whitelist.erase number })) := by
  rw [remove, Std.ExtTreeSet.mem_iff_contains]
  cases isPhoneNumber number.toList with
  | false => exact .inl ⟨rfl, rfl⟩
  | true =>
    cases gate.whitelist.contains number with
    | true => exact .inr (.inr ⟨rfl, rfl, rfl⟩)
    | false => exact .inr (.inl ⟨rfl, Bool.false_ne_true, rfl⟩)

/-- An addition is said to be one exactly when it changed the numbers. -/
lemma add_changed (gate : Gate) (number : String) :
    (gate.add number).1 = .added ↔ (gate.add number).2.numbers ≠ gate.numbers := by
  obtain ⟨-, change⟩ | ⟨-, -, change⟩ | ⟨-, unlisted, change⟩ := add_cases gate number
  · rw [change]
    exact ⟨nofun, fun other => absurd rfl other⟩
  · rw [change]
    exact ⟨nofun, fun other => absurd rfl other⟩
  · rw [change]
    refine ⟨fun _ same => unlisted ?_, fun _ => rfl⟩
    rw [← (Prod.mk.inj same).1]
    exact Std.ExtTreeSet.mem_insert_self

/-- A number is reported as removed exactly if the numbers change. -/
lemma remove_changed (gate : Gate) (number : String) :
    (gate.remove number).1 = .removed ↔ (gate.remove number).2.numbers ≠ gate.numbers := by
  obtain ⟨-, change⟩ | ⟨-, -, change⟩ | ⟨-, listed, change⟩ := remove_cases gate number
  · rw [change]
    exact ⟨nofun, fun other => absurd rfl other⟩
  · rw [change]
    exact ⟨nofun, fun other => absurd rfl other⟩
  · rw [change]
    refine ⟨fun _ same => ?_, fun _ => rfl⟩
    rw [← (Prod.mk.inj same).1] at listed
    exact not_mem_erase_self _ _ listed

/-- To add a number does not move the lock. -/
lemma add_locked (gate : Gate) (number : String) :
    (gate.add number).2.locked = gate.locked := by
  obtain ⟨-, change⟩ | ⟨-, -, change⟩ | ⟨-, -, change⟩ := add_cases gate number <;> rw [change]

/-- To remove a number does not move the lock. -/
lemma remove_locked (gate : Gate) (number : String) :
    (gate.remove number).2.locked = gate.locked := by
  obtain ⟨-, change⟩ | ⟨-, -, change⟩ | ⟨-, -, change⟩ := remove_cases gate number <;> rw [change]

/-! ## The emergency phone -/

/-- Forgetting the emergency phone changes the numbers exactly when there was one. -/
lemma clearEmergency_changed (gate : Gate) :
    gate.clearEmergency.1.isSome ↔ gate.clearEmergency.2.numbers ≠ gate.numbers := by
  rw [clearEmergency, numbers, numbers]
  cases gate.emergency with
  | none => exact ⟨nofun, fun other => absurd rfl other⟩
  | some number => exact ⟨nofun, fun _ => rfl⟩

end HeatingHub.Gate
