import SafeSql.Failure

/-!
# Actions

An action changes a state and ends with a value or a failure. What it did to the state before a
failure stays done.

## Main definitions

* `Action` — an action on a state.
* `Action.within` — an action on a part of a state.
* `Action.ensuring` — an action with another one that follows it in any case.
* `Action.outcome` — an action whose failure is its value.
* `Action.lift` — a value that may be missing, as an action.
-/

namespace SafeSql

/-- An action on a state: it ends with a value or a failure, and with the state it leaves. -/
abbrev Action (σ α : Type) := EStateM Failure σ α

namespace Action

variable {σ τ α : Type}

def within (view : σ → τ) (put : σ → τ → σ) (inner : Action τ α) : Action σ α := fun state =>
  match inner (view state) with
  | .ok value part => .ok value (put state part)
  | .error failure part => .error failure (put state part)

/-- An action followed by another, also when it fails; a failure of the second one counts. -/
def ensuring (action : Action σ α) (last : Action σ Unit) : Action σ α := fun state =>
  match action state with
  | .ok value state =>
    match last state with
    | .ok () state => .ok value state
    | .error failure state => .error failure state
  | .error failure state =>
    match last state with
    | .ok () state => .error failure state
    | .error failure state => .error failure state

def outcome (action : Action σ α) : Action σ (Except Failure α) := fun state =>
  match action state with
  | .ok value state => .ok (.ok value) state
  | .error failure state => .ok (.error failure) state

/-- A value that may be missing, as an action that leaves the state alone. -/
def lift : Except Failure α → Action σ α
  | .ok value => pure value
  | .error failure => throw failure

end Action

end SafeSql
