/-!
# Outcomes

A chain of steps succeeds if every step does, and fails with the fault of the first that does not.
-/

namespace BindingGen

variable {ε α β : Type} {outcome : Except ε α} {next : α → Except ε β}

theorem bind_eq_ok_iff {result : β} :
    outcome >>= next = .ok result ↔ ∃ value, outcome = .ok value ∧ next value = .ok result := by
  cases outcome with
  | error fault => exact ⟨fun h => (nomatch h), fun ⟨_, h, _⟩ => (nomatch h)⟩
  | ok value =>
    refine ⟨fun h => ⟨value, rfl, h⟩, ?_⟩
    rintro ⟨_, ⟨⟩, h⟩
    exact h

theorem mapError_eq_ok_iff {ε' : Type} {f : ε → ε'} {value : α} :
    outcome.mapError f = .ok value ↔ outcome = .ok value := by
  cases outcome with
  | error fault => exact ⟨fun h => (nomatch h), fun h => (nomatch h)⟩
  | ok held =>
    constructor
    · intro h
      cases h
      rfl
    · intro h
      cases h
      rfl

theorem mapError_eq_error_iff {ε' : Type} {f : ε → ε'} {failure : ε'} :
    outcome.mapError f = .error failure ↔ ∃ fault, outcome = .error fault ∧ failure = f fault := by
  cases outcome with
  | ok value => exact ⟨fun h => (nomatch h), fun ⟨_, h, _⟩ => (nomatch h)⟩
  | error held =>
    constructor
    · intro h
      cases h
      exact ⟨held, rfl, rfl⟩
    · rintro ⟨_, ⟨⟩, rfl⟩
      rfl

theorem eq_ok_of_toOption {value : α} (h : outcome.toOption = some value) :
    outcome = .ok value := by
  cases outcome with
  | error fault => cases h
  | ok held =>
    cases h
    rfl

/-- The fault of a step that failed. -/
def fault? : Except ε α → Option ε
  | .error fault => some fault
  | .ok _ => none

@[simp] theorem fault?_ok (value : α) : fault? (.ok value : Except ε α) = none := rfl

@[simp] theorem fault?_error (fault : ε) : fault? (.error fault : Except ε α) = some fault := rfl

theorem fault?_eq_none_iff : fault? outcome = none ↔ ∃ value, outcome = .ok value := by
  cases outcome <;> simp

theorem fault?_eq_some_iff {fault : ε} : fault? outcome = some fault ↔ outcome = .error fault := by
  cases outcome <;> simp

end BindingGen
