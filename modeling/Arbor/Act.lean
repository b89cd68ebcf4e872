import Arbor.Failure

/-!
# Actions on a state

A walk, a scene and a generator all keep a state, and a step that fails keeps what it had already
done.  An `Act` is such a step: from a state it reaches a result or a failure, and a new state in
either case.  Nothing is undone unless a definition undoes it.
-/

namespace Arbor

/-- A step that reads and changes a state and may fail; the state reached before a failure
stays. -/
abbrev Act (σ α : Type) := EStateM Failure σ α

namespace Act

variable {σ τ α : Type}

/-- A result that does not hang on the state. -/
def lift (result : Except Failure α) : Act σ α := fun state =>
  match result with
  | .ok value => .ok value state
  | .error failure => .error failure state

/-- An action on a part of a larger state.  The focus takes the state apart into that part and the
way to put a new part in its place. -/
def within (focus : τ → σ × (σ → τ)) (act : Act σ α) : Act τ α := fun whole =>
  match focus whole with
  | (part, putBack) =>
    match act part with
    | .ok value reached => .ok value (putBack reached)
    | .error failure reached => .error failure (putBack reached)

/-- The result of an action. -/
def outcome (act : Act σ α) (state : σ) : Except Failure α :=
  match act state with
  | .ok value _ => .ok value
  | .error failure _ => .error failure

/-- The state an action reaches, whether it fails or not. -/
def reached (act : Act σ α) (state : σ) : σ :=
  match act state with
  | .ok _ state => state
  | .error _ state => state

end Act
end Arbor
