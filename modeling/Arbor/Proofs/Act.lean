import Arbor.Event

/-!
# Running actions

An action is run by running its steps in turn, so what it comes to follows from the first step that
fails, or from all of them.  The laws here say this for the ways in which steps are put together,
and for the steps that cannot fail.  They are what proofs about longer actions use instead of
taking actions apart.

`Mirrors` compares an action on a state with one on a state that says more: the two come to the
same result and to states that correspond.
-/

namespace Arbor
namespace Act

variable {σ τ α β : Type} {state reached : σ}

/-- What an action comes to with the given result in the given state. -/
def settled (result : Except Failure α) (state : σ) : EStateM.Result Failure σ α :=
  match result with
  | .ok value => .ok value state
  | .error failure => .error failure state

/-- What an action comes to that gives no value: a failure, or none, and the state reached. -/
def ended (failure : Option Failure) (state : σ) : EStateM.Result Failure σ Unit :=
  settled (failure.elim (.ok ()) .error) state

theorem reached_of_settled {act : Act σ α} {result : Except Failure α}
    (run : act state = settled result reached) : act.reached state = reached := by
  unfold Act.reached
  rw [run]
  cases result <;> rfl

theorem outcome_of_settled {act : Act σ α} {result : Except Failure α}
    (run : act state = settled result reached) : act.outcome state = result := by
  unfold outcome
  rw [run]
  cases result <;> rfl

theorem reached_of_ok {act : Act σ α} {value : α} (done : act state = .ok value reached) :
    act.reached state = reached := by
  unfold Act.reached
  rw [done]

theorem reached_of_error {act : Act σ α} {failure : Failure}
    (failed : act state = .error failure reached) : act.reached state = reached := by
  unfold Act.reached
  rw [failed]

theorem settled_outcome (act : Act σ α) (state : σ) :
    act state = settled (act.outcome state) (act.reached state) := by
  unfold outcome Act.reached
  cases act state <;> rfl

theorem bind_of_ok {act : Act σ α} {next : α → Act σ β} {value : α}
    (first : act state = .ok value reached) : (act >>= next) state = next value reached := by
  change EStateM.bind act next state = _
  unfold EStateM.bind
  rw [first]

theorem bind_of_error {act : Act σ α} {next : α → Act σ β} {failure : Failure}
    (first : act state = .error failure reached) :
    (act >>= next) state = .error failure reached := by
  change EStateM.bind act next state = _
  unfold EStateM.bind
  rw [first]

/-- What is done first has succeeded if all has. -/
theorem ok_of_bind {act : Act σ α} {next : α → Act σ β} {value : β}
    (run : (act >>= next) state = .ok value reached) :
    ∃ first between, act state = .ok first between ∧ next first between = .ok value reached := by
  cases begun : act state with
  | ok first between => exact ⟨first, between, rfl, (bind_of_ok begun).symm.trans run⟩
  | error failure between => cases (bind_of_error begun).symm.trans run

theorem bind_lift_ok (value : α) (next : α → Act σ β) (state : σ) :
    (lift (.ok value) >>= next) state = next value state := rfl

theorem bind_get (next : σ → Act σ β) (state : σ) : (get >>= next) state = next state state := rfl

theorem map_of_ok {act : Act σ α} {value : α} (f : α → β) (done : act state = .ok value reached) :
    (f <$> act) state = .ok (f value) reached := by
  change EStateM.map f act state = _
  unfold EStateM.map
  rw [done]

theorem discard_of_ok {act : Act σ α} {value : α} (done : act state = .ok value reached) :
    (discard act) state = .ok () reached :=
  map_of_ok (Function.const α PUnit.unit) done

theorem map_of_error {act : Act σ α} {failure : Failure} (f : α → β)
    (failed : act state = .error failure reached) : (f <$> act) state = .error failure reached := by
  change EStateM.map f act state = _
  unfold EStateM.map
  rw [failed]

theorem discard_of_error {act : Act σ α} {failure : Failure}
    (failed : act state = .error failure reached) :
    (discard act) state = .error failure reached :=
  map_of_error (Function.const α PUnit.unit) failed

theorem reached_map (f : α → β) (act : Act σ α) (state : σ) :
    (f <$> act).reached state = act.reached state := by
  unfold Act.reached
  cases run : act state with
  | ok value reached => rw [map_of_ok f run]
  | error failure reached => rw [map_of_error f run]

theorem reached_discard (act : Act σ α) (state : σ) :
    (discard act).reached state = act.reached state :=
  reached_map (Function.const α PUnit.unit) act state

/-! ## What an action keeps -/

/-- Whatever an action comes to, a property of its state is kept. -/
def Keeps (property : σ → Prop) (act : Act σ α) : Prop :=
  ∀ state, property state → property (act.reached state)

namespace Keeps

variable {property : σ → Prop}

theorem pure (value : α) : Keeps property (Pure.pure value) := fun _ holds => holds

theorem modify {change : σ → σ} (kept : ∀ state, property state → property (change state)) :
    Keeps property (modify change) := kept

theorem lift (result : Except Failure α) : Keeps property (Act.lift result) := by
  intro state holds
  cases result <;> exact holds

theorem bind {act : Act σ α} {next : α → Act σ β} (first : Keeps property act)
    (later : ∀ value, Keeps property (next value)) : Keeps property (act >>= next) := by
  intro state holds
  have between := first state holds
  unfold reached at between ⊢
  cases run : act state with
  | ok value middle =>
    rw [run] at between
    rw [bind_of_ok run]
    exact later value middle between
  | error failure middle =>
    rw [run] at between
    rw [bind_of_error run]
    exact between

theorem settled {act : Act σ α} (kept : Keeps property act) (holds : property state)
    {result : Except Failure α} (run : act state = Act.settled result reached) :
    property reached := by
  rw [← reached_of_settled run]
  exact kept state holds

end Keeps

/-! ## Actions that do all or nothing -/

/-- An action that fails leaves its state as it was. -/
def AllOrNothing (act : Act σ α) : Prop :=
  ∀ state failure reached, act state = .error failure reached → reached = state

/-- A first step that only looks at the state may come before an action that does all or nothing. -/
theorem AllOrNothing.bind {act : Act σ α} {next : α → Act σ β}
    (looks : ∀ state, act.reached state = state) (later : ∀ value, AllOrNothing (next value)) :
    AllOrNothing (act >>= next) := by
  intro state failure after failed
  have same := looks state
  unfold reached at same
  cases run : act state with
  | ok value between =>
    rw [bind_of_ok run] at failed
    rw [run] at same
    rw [later value between failure after failed]
    exact same
  | error other between =>
    rw [bind_of_error run] at failed
    cases failed
    rwa [run] at same

/-! ## What an action fails for -/

/-- Whatever an action fails for has a property. -/
def Raises (property : Failure → Prop) (act : Act σ α) : Prop :=
  ∀ state failure reached, act state = .error failure reached → property failure

namespace Raises

variable {property : Failure → Prop}

theorem lift {result : Except Failure α}
    (holds : ∀ failure, result = .error failure → property failure) :
    Raises property (Act.lift result : Act σ α) := by
  intro state failure reached run
  cases result with
  | ok value => cases run
  | error other =>
    cases run
    exact holds failure rfl

theorem bind {act : Act σ α} {next : α → Act σ β} (first : Raises property act)
    (later : ∀ value, Raises property (next value)) : Raises property (act >>= next) := by
  intro state failure reached failed
  cases run : act state with
  | ok value between =>
    rw [bind_of_ok run] at failed
    exact later value between failure reached failed
  | error other between =>
    rw [bind_of_error run] at failed
    cases failed
    exact first state failure reached run

end Raises

/-! ## Actions on states that say more -/

/-- What an action comes to, seen with less of its state. -/
def seen (view : τ → σ) : EStateM.Result Failure τ α → EStateM.Result Failure σ α
  | .ok value state => .ok value (view state)
  | .error failure state => .error failure (view state)

/-- An action does on the states that say more what another does on what is seen of them. -/
def Mirrors (view : τ → σ) (full : Act τ α) (plain : Act σ α) : Prop :=
  ∀ state, seen view (full state) = plain (view state)

namespace Mirrors

variable {view : τ → σ} {full : Act τ α} {plain : Act σ α}

theorem bind {fullNext : α → Act τ β} {plainNext : α → Act σ β} (first : Mirrors view full plain)
    (next : ∀ value, Mirrors view (fullNext value) (plainNext value)) :
    Mirrors view (full >>= fullNext) (plain >>= plainNext) := by
  intro state
  have begun := first state
  cases run : full state with
  | ok value reached =>
    rw [run] at begun
    rw [bind_of_ok run, bind_of_ok begun.symm]
    exact next value reached
  | error failure reached =>
    rw [run] at begun
    rw [bind_of_error run, bind_of_error begun.symm]
    rfl

/-- Steps that read their state may go on differently as long as what they read agrees. -/
theorem bind_get {fullNext : τ → Act τ β} {plainNext : σ → Act σ β}
    (next : ∀ state, seen view (fullNext state state) = plainNext (view state) (view state)) :
    Mirrors view (get >>= fullNext) (get >>= plainNext) :=
  next

theorem discard (act : Mirrors view full plain) : Mirrors view (discard full) (discard plain) := by
  intro state
  have begun := act state
  cases run : full state with
  | ok value reached =>
    rw [run] at begun
    rw [discard_of_ok run, discard_of_ok begun.symm]
    rfl
  | error failure reached =>
    rw [run] at begun
    rw [discard_of_error run, discard_of_error begun.symm]
    rfl

theorem pure (value : α) : Mirrors view (Pure.pure value) (Pure.pure value) := fun _ => rfl

theorem throw (failure : Failure) :
    Mirrors view (MonadExcept.throw failure : Act τ α) (MonadExcept.throw failure) := fun _ => rfl

theorem lift (result : Except Failure α) : Mirrors view (Act.lift result) (Act.lift result) := by
  intro state
  cases result <;> rfl

end Mirrors
end Act
end Arbor
