import GradedQuery.Trace
import Mathlib.Tactic.Lemma

/-!
# Outcomes of steps in sequence

A step that goes on with the result of another one succeeds exactly if both do.  The lemmas take
such a sequence apart, for plain outcomes and for those with events.
-/

namespace GradedQuery

variable {ε ε' α β : Type}

/-- Steps in sequence succeed exactly if each of them does. -/
lemma bind_eq_ok_iff {x : Except ε α} {next : α → Except ε β} {b : β} :
    x >>= next = .ok b ↔ ∃ a, x = .ok a ∧ next a = .ok b := by
  cases x with
  | error e => simp [bind, Except.bind]
  | ok a => simp [bind, Except.bind]

lemma mapError_eq_ok_iff {x : Except ε α} {toError : ε → ε'} {a : α} :
    x.mapError toError = .ok a ↔ x = .ok a := by
  cases x with
  | error e =>
      show Except.error (toError e) = .ok a ↔ _
      simp only [reduceCtorEq]
  | ok b =>
      show Except.ok b = .ok a ↔ _
      simp only [Except.ok.injEq]

namespace Traced

lemma ext_fields {x y : Traced α} (h : x.outcome = y.outcome) (h' : x.events = y.events) :
    x = y := by
  cases x
  cases y
  cases h
  cases h'
  rfl

lemma bind_eq_of_ok {x : Traced α} {a : α} (h : x.outcome = .ok a) (next : α → Traced β) :
    x >>= next = ⟨(next a).outcome, x.events ++ (next a).events⟩ :=
  ext_fields (outcome_bind_ok h next) (events_bind_ok h next)

/-- Stages in sequence succeed exactly if each of them does. -/
lemma outcome_bind_eq_ok_iff {x : Traced α} {next : α → Traced β} {b : β} :
    (x >>= next).outcome = .ok b ↔ ∃ a, x.outcome = .ok a ∧ (next a).outcome = .ok b := by
  cases h : x.outcome with
  | error e =>
      rw [bind_error h]
      simp
  | ok a =>
      rw [outcome_bind_ok h]
      simp

end Traced

end GradedQuery
