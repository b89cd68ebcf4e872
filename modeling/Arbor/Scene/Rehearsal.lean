import Arbor.Scene.Recording

/-!
# Scenes that fail on request

A rehearsal is a theatre whose stages can be told to fail.  For each of the four things that a
scene does, a stage may have a `Fault`, which says at which calls it strikes, counted from the
first call the stage has ever had, and whether it strikes before the call has had its effect or
after.  A call that fails counts like any other.
-/

namespace Arbor
namespace Recording

open Space

/-- At which calls a fault strikes. -/
inductive Strikes where
  | always
  | calls (numbers : List Nat)

/-- Whether a fault strikes at the given call. -/
def Strikes.includes : Strikes → Nat → Bool
  | always, _ => true
  | calls numbers, call => numbers.contains call

/-- How calls are made to fail. -/
structure Fault where
  strikes : Strikes
  kind : Kind
  text : String
  after : Bool := false
  numbered : Bool := false

/-- The failure of the given call. -/
def Fault.failure (fault : Fault) (call : Nat) : Failure :=
  let text := if fault.numbered then fault.text ++ " #" ++ toString call else fault.text
  ⟨.foreign fault.kind text, [], []⟩

/-- One thing for each of the four things that a scene does. -/
structure PerAction (α : Type) where
  instantiate : α
  transform : α
  reparent : α
  destroy : α

namespace PerAction

variable {α : Type}

/-- The same thing four times. -/
def fill (value : α) : PerAction α := ⟨value, value, value, value⟩

/-- The thing for an action. -/
def get (all : PerAction α) : SceneAction → α
  | .instantiate => all.instantiate
  | .transform => all.transform
  | .reparent => all.reparent
  | .destroy => all.destroy

/-- Replace the thing for an action. -/
def set (all : PerAction α) (value : α) : SceneAction → PerAction α
  | .instantiate => { all with instantiate := value }
  | .transform => { all with transform := value }
  | .reparent => { all with reparent := value }
  | .destroy => { all with destroy := value }

end PerAction

/-- The faults of a stage, and how often each thing has been asked of it. -/
structure Trouble where
  faults : PerAction (Option Fault) := .fill none
  calls : PerAction Nat := .fill 0

/-- A theatre with the faults of its stages. -/
structure Rehearsal where
  theatre : Theatre
  troubles : List Trouble

namespace Rehearsal

/-- So many stages without objects and without faults. -/
def ofStages (count : Nat) : Rehearsal where
  theatre := .ofStages count
  troubles := List.replicate count {}

/-- The faults and calls of a stage. -/
def trouble (rehearsal : Rehearsal) (number : Nat) : Trouble := rehearsal.troubles.getD number {}

/-- Count a call and give its number. -/
def count (number : Nat) (action : SceneAction) : Act Rehearsal Nat := fun rehearsal =>
  let call := (rehearsal.trouble number).calls.get action
  let counted (trouble : Trouble) : Trouble :=
    { trouble with calls := trouble.calls.set (call + 1) action }
  .ok call { rehearsal with troubles := rehearsal.troubles.modify number counted }

/-- Replace the faults of a stage.  Its calls go on being counted. -/
def setFaults (number : Nat) (faults : PerAction (Option Fault)) (rehearsal : Rehearsal) :
    Rehearsal :=
  { rehearsal with
    troubles := rehearsal.troubles.modify number fun trouble => { trouble with faults := faults } }

/-- An action on the theatre. -/
def onTheatre {α : Type} (act : Act Theatre α) : Act Rehearsal α :=
  act.within fun ⟨theatre, troubles⟩ => (theatre, fun theatre => ⟨theatre, troubles⟩)

/-- Do what is asked of a stage, unless a fault strikes first; a fault that strikes afterwards
takes the place of the result. -/
def call {α : Type} (number : Nat) (action : SceneAction) (act : Act Theatre α) :
    Act Rehearsal α := do
  let call ← count number action
  match ((← get).trouble number).faults.get action with
  | none => onTheatre act
  | some fault =>
    if fault.strikes.includes call then
      if fault.after then discard (onTheatre act)
      throw (fault.failure call)
    else onTheatre act

/-- The scene on a stage, with its faults. -/
def scene (number : Nat) : Scene Rehearsal Nat Value where
  instantiate prefab parent :=
    call number .instantiate ((Theatre.scene number).instantiate prefab parent)
  setTransform id position rotation scale :=
    call number .transform ((Theatre.scene number).setTransform id position rotation scale)
  reparent id parent := call number .reparent ((Theatre.scene number).reparent id parent)
  destroy id := call number .destroy ((Theatre.scene number).destroy id)

end Rehearsal
end Recording
end Arbor
