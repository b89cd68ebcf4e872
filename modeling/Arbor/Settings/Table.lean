import Arbor.Settings
import Arbor.Text.Order

/-!
# Settings from a table

Settings can be read from a table of loose values.  `ofTable` takes the values as they are and
refuses an entry under a name that no setting has.  `assignAll` changes settings entry by entry and
ignores the entries that are none of theirs.  `load` names all such entries at once.  It is kinder
to the number of passes: any number is accepted there, its fraction is dropped and it is moved into
the allowed range, with a warning if that changed it; the result is checked like any other settings.
-/

namespace Arbor
namespace Settings

/-- The names of the settings. -/
def names : List String := ["axiom", "iterations", "prefab", "parent", "owner"]

/-- The value given under a name. -/
def valueFor? (entries : List (String × Value)) (name : String) : Option Value :=
  (entries.find? fun entry => entry.1 = name).map Prod.snd

/-- The settings with those that a table gives in place of the old ones. -/
def update (entries : List (String × Value)) (settings : Settings Value) : Settings Value where
  start := (valueFor? entries "axiom").getD settings.start
  iterations := (valueFor? entries "iterations").getD settings.iterations
  prefab := ((valueFor? entries "prefab").map Value.given?).getD settings.prefab
  parent := ((valueFor? entries "parent").map Value.given?).getD settings.parent
  owner := ((valueFor? entries "owner").map Value.given?).getD settings.owner

/-- The settings that a table gives, those it does not give having their defaults. -/
def fromTable (entries : List (String × Value)) : Settings Value := update entries {}

/-- The name that the settings as a whole go by. -/
def wholeName : String := "self"

/-- Why an entry that is no setting is refused. -/
def reasonAgainst (name : String) : Reason :=
  if name = wholeName then .reservedSetting name else .unexpectedSetting name

/-- The settings that a table gives, which may have no entry under another name.  The first such
entry decides why the table is refused. -/
def ofTable (entries : List (String × Value)) : Except Failure (Settings Value) :=
  match entries.find? fun entry => !names.contains entry.1 with
  | some entry => refuse (reasonAgainst entry.1)
  | none => .ok (fromTable entries)

/-- The name under which the settings give what follows from the owner and the parent. -/
def destinationName : String := "reparent_target"

/-- Change the setting under a name.  The destination cannot be changed by itself, and any other
name that no setting has is ignored. -/
def assign (entry : String × Value) : Act (Settings Value) Unit := do
  if entry.1 = destinationName then Act.lift (refuse (.derivedSetting entry.1))
  modify (update [entry])

/-- Change settings entry by entry, up to the first that is refused. -/
def assignAll (entries : List (String × Value)) : Act (Settings Value) Unit := entries.forM assign

/-- The names in a table that no setting has, sorted by code point. -/
def unknownNames (entries : List (String × Value)) : List String :=
  ((entries.map Prod.fst).filter fun name => !names.contains name).mergeSort fun a b =>
    Text.notAfter a.toList b.toList

/-- The whole part of a number, which only finite numbers have. -/
def wholePart (number : Float) : Except Failure Int :=
  match Number.readDouble number with
  | .nan => refuse .wholePartOfNan
  | .infinite _ => refuse .wholePartOfInfinity
  | finite => .ok (finite.truncate?.getD 0)

/-- A whole number moved into the allowed range. -/
def clamp (count : Int) : Int := min (max count 0) greatestIterations

/-- A loose number of passes, moved into the allowed range, and whether that changed its value. -/
def clampIterations : Value → Except Failure (Int × Bool)
  | .int count => .ok (clamp count, clamp count != count)
  | .real number =>
    (wholePart number).map fun whole =>
      (clamp whole, clamp whole != whole || !(Number.readDouble number).isWhole)
  | value => refuse (.iterationsNotNumber value)

/-- Move the number of passes, if one is given, into the allowed range and warn if that changed
it. -/
def clampGiven (entries : List (String × Value)) (settings : Settings Value) :
    Act Log (Settings Value) :=
  match valueFor? entries "iterations" with
  | none => pure settings
  | some given => do
    let (taken, changed) ← Act.lift (clampIterations given)
    report (if changed then [.clamped given taken] else [])
    return { settings with iterations := .int taken }

/-- Read settings from a table. -/
def load (entries : List (String × Value)) : Act Log (Settings Value) := do
  if !(unknownNames entries).isEmpty then
    Act.lift (refuse (.unknownSettings (unknownNames entries)))
  let settings ← clampGiven entries (fromTable entries)
  discard (Act.lift settings.validate)
  return settings

end Settings
end Arbor
