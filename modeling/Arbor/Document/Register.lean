import Arbor.Text.Numbered

/-!
# Registers of names

A document keeps a register of the names of each kind of thing in it.  A name that is not in use is
entered as it is; instead of one that is in use, its base is entered with a number behind it.
`Numbers` keeps the numbers used behind one base.  A number is chosen from these and not from the
names: numbers are free again when their names leave, but `foo.1` takes the number of `foo.001`
too, and a base is forgotten with the last name that has no number.  Names are kept in `capacity`
bytes, and a base that leaves no room for its number is cut and tried anew.
-/

namespace Arbor
namespace Document

/-- The numbers used behind one base.  The lower ones are marked one by one; of all of them the
greatest is kept. -/
structure Numbers where
  marks : Array Bool := Array.replicate 1024 false
  greatest : Nat := 0

namespace Numbers

/-- Use a number. -/
def mark (number : Nat) (numbers : Numbers) : Numbers where
  marks := numbers.marks.setIfInBounds number true
  greatest := max numbers.greatest number

/-- Use a number no longer.  The number below the greatest one is not looked for. -/
def unmark (number : Nat) (numbers : Numbers) : Numbers where
  marks := numbers.marks.setIfInBounds number false
  greatest := if number = numbers.greatest then numbers.greatest - 1 else numbers.greatest

/-- The number to use for a name that came with the given one: this one itself, if it is a lower
one and not marked; or else the least from one upwards that is not marked, which marks zero besides;
or else the given one or the one after the greatest, whichever is greater than all others. -/
def choose (given : Nat) (numbers : Numbers) : Nat × Numbers :=
  if numbers.marks[given]? = some false then (given, numbers.mark given)
  else
    let numbers := numbers.mark 0
    let chosen := match numbers.marks.findIdx? fun marked => !marked with
      | some free => free
      | none => max given (numbers.greatest + 1)
    (chosen, numbers.mark chosen)

end Numbers

/-- The names in use, and the numbers used behind every base. -/
structure Register where
  names : List String := []
  bases : List (String × Numbers) := []

namespace Register

/-- The number of bytes that a name is kept in at most. -/
def capacity : Nat := 63

/-- The numbers behind names are below this one. -/
def numberBound : Nat := Nat.pow 10 9

/-- The form in which a name is kept: it ends before the first null character and within the
capacity, and the last two characters of the basic plane, which are none, are left out of it.  A
name of which nothing is left gives way to a standard one. -/
def storable (standard : String) (name : String) : List Char :=
  let kept := Text.fitting capacity (name.toList.takeWhile fun c => c.toNat ≠ 0)
  match kept.filter fun c => c.toNat ≠ 0xfffe && c.toNat ≠ 0xffff with
  | [] => standard.toList
  | name => name

/-- The numbers used behind a base, if it is known. -/
def numbersBehind? (base : List Char) (register : Register) : Option Numbers :=
  (register.bases.find? fun entry => entry.1 = .ofList base).map Prod.snd

/-- Forget a base. -/
def forget (base : List Char) (register : Register) : Register :=
  { register with bases := register.bases.filter fun entry => entry.1 ≠ .ofList base }

/-- Keep the numbers used behind a base. -/
def keep (base : List Char) (numbers : Numbers) (register : Register) : Register :=
  { register with bases := (.ofList base, numbers) :: (register.forget base).bases }

/-- Take a name into use. -/
def use (name : List Char) (register : Register) : Register :=
  { register with names := register.names.insert (.ofList name) }

/-- Enter a name or, if it is in use and its base is known, its base with a number behind it.  If
that has no room, the base is cut by as much as the number needs and by one byte at least, and what
is left is entered; this is done so many times at most. -/
def enterWithin : Nat → List Char → Register → List Char × Register
  | 0, name, register => (name, register)
  | tries + 1, name, register =>
    let (base, given) := Text.split name
    match register.numbersBehind? base, register.names.contains (String.ofList name) with
    | some numbers, true =>
      let (chosen, numbers) := numbers.choose given
      let register := register.keep base numbers
      let numbered := Text.numbered base chosen
      if Text.byteCount numbered ≤ capacity && chosen < numberBound then
        (numbered, register.use numbered)
      else
        let room := min (capacity - Text.byteCount (Text.numberSuffix chosen))
          (Text.byteCount base - 1)
        enterWithin tries (Text.fitting room base) register
    | known, _ => (name, (register.keep base ((known.getD {}).mark given)).use name)

/-- Enter a name and give the one that is used.  Every cut makes a name shorter, so the capacity
bounds their number. -/
def enter (standard name : String) (register : Register) : String × Register :=
  let (used, register) := enterWithin (capacity + 1) (storable standard name) register
  (.ofList used, register)

/-- Use a name no longer.  A name without a number takes its base with it, unless a numbered name
was entered besides. -/
def leave (name : String) (register : Register) : Register :=
  let (base, number) := Text.split name.toList
  let register := { register with names := register.names.erase name }
  match register.numbersBehind? base with
  | none => register
  | some numbers =>
    if number = 0 && numbers.greatest = 0 then register.forget base
    else register.keep base (numbers.unmark number)

end Register
end Document
end Arbor
