import Arbor.Number.Decimal
import Arbor.Text.Quoted

/-!
# Loose values

Settings, rule items and angle sources come from outside and may hold anything.  A `Value` is such
a thing before it has been checked: the checks of this library take values apart and say in their
errors what they found, so a value has a name for its type and a written form.
-/

namespace Arbor

/-- An unchecked value.  Whole numbers have any size, and a table keeps the order of its
entries. -/
inductive Value where
  | null
  | flag (value : Bool)
  | int (value : Int)
  | real (value : Float)
  | text (value : String)
  | list (items : List Value)
  | table (entries : List (String × Value))
  deriving Inhabited

namespace Value

/-- The name under which messages refer to the type of a value. -/
def typeName : Value → String
  | null => "NoneType"
  | flag _ => "bool"
  | int _ => "int"
  | real _ => "float"
  | text _ => "str"
  | list _ => "list"
  | table _ => "dict"

mutual

/-- The written form of a value: texts are quoted, numbers are in decimal.  Whole numbers of any
size and lists and tables of any depth are written out; limits that a runtime may set to the digits
of a number or to the nesting of values are not modelled. -/
def written : Value → String
  | null => "None"
  | flag value => if value then "True" else "False"
  | int value => toString value
  | real value => Number.realText value
  | text value => Text.quoted value
  | list items => "[" ++ ", ".intercalate (writtenItems items) ++ "]"
  | table entries => "\x7b" ++ ", ".intercalate (writtenEntries entries) ++ "\x7d"

/-- The written forms of the items of a list. -/
def writtenItems : List Value → List String
  | [] => []
  | item :: items => item.written :: writtenItems items

/-- The written forms of the entries of a table. -/
def writtenEntries : List (String × Value) → List String
  | [] => []
  | (key, value) :: entries => (Text.quoted key ++ ": " ++ value.written) :: writtenEntries entries

end

/-- The whole number that a value is equal to, if there is one.  A flag counts as one or zero. -/
def whole? : Value → Option Int
  | flag value => some value.toInt
  | int value => some value
  | real value => (Number.readDouble value).whole?
  | _ => none

/-- Whether two values are numbers and equal.  Numbers of different types are equal when they are
the same whole number, exactly; two reals are compared as such, so one that is not a number differs
from itself. -/
def sameNumber : Value → Value → Bool
  | real left, real right => left == right
  | left, right =>
    match left.whole?, right.whole? with
    | some left, some right => left == right
    | _, _ => false

mutual

/-- Whether two values are the same.  Numbers are compared by what they are equal to, and tables
entry by entry in order. -/
def agrees : Value → Value → Bool
  | null, null => true
  | text left, text right => left == right
  | list left, list right => allAgree left right
  | table left, table right => entriesAgree left right
  | left, right => left.sameNumber right

/-- Whether two lists of values are the same, item by item. -/
def allAgree : List Value → List Value → Bool
  | [], [] => true
  | left :: lefts, right :: rights => left.agrees right && allAgree lefts rights
  | _, _ => false

/-- Whether two lists of entries are the same, key by key and value by value. -/
def entriesAgree : List (String × Value) → List (String × Value) → Bool
  | [], [] => true
  | (key, left) :: lefts, (other, right) :: rights =>
    key == other && left.agrees right && entriesAgree lefts rights
  | _, _ => false

end

/-- The value itself unless it is `null`, which says that nothing was given. -/
def given? : Value → Option Value
  | null => none
  | value => some value

/-- The text a value holds, if it is one. -/
def text? : Value → Option String
  | text value => some value
  | _ => none

end Value
end Arbor
