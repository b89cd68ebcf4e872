import Arbor.Failure

/-!
# Rule items

A rule table is given as a sequence of items, and an item can be anything.  An item that stands for
a rule comes apart into exactly two values: a pair of values does, and so do a text of two symbols
and a table of two keys.  `Item.read` takes an item apart and checks its parts, first the symbol
and then what replaces it.
-/

namespace Arbor
namespace Rules

/-- What a rule is given as: a sequence of parts, or a single value. -/
inductive Item where
  | parts (values : List Value)
  | single (value : Value)

namespace Item

/-- The two values of a sequence of two. -/
def twoOf : List Value → Except Failure (Value × Value)
  | [first, second] => .ok (first, second)
  | [] => refuse (.tooFewParts 0)
  | [_] => refuse (.tooFewParts 1)
  | _ => refuse .tooManyParts

/-- The two values an item comes apart into. -/
def unpack : Item → Except Failure (Value × Value)
  | parts values => twoOf values
  | single (.text text) => twoOf (text.toList.map fun symbol => .text symbol.toString)
  | single (.list values) => twoOf values
  | single (.table entries) => twoOf (entries.map fun entry => .text entry.1)
  | single value => refuse (.noParts value.typeName)

/-- The symbol a value is, if it is a text of one symbol. -/
def symbol? : Value → Option Char
  | .text text => match text.toList with
    | [symbol] => some symbol
    | _ => none
  | _ => none

/-- Check a symbol and its replacement, in this order. -/
def check (key replacement : Value) : Except Failure (Char × List Char) :=
  match symbol? key with
  | none => refuse (.ruleKey key)
  | some symbol =>
    match replacement.text? with
    | none => refuse (.ruleReplacement symbol)
    | some text => .ok (symbol, text.toList)

/-- The symbol of an item and the word that replaces it. -/
def read (item : Item) : Except Failure (Char × List Char) :=
  item.unpack >>= fun (key, replacement) => check key replacement

/-- The written form of an item.  A single part is followed by a comma, which tells it from a value
between parentheses. -/
def written : Item → String
  | parts [value] => "(" ++ value.written ++ ",)"
  | parts values => "(" ++ ", ".intercalate (Value.writtenItems values) ++ ")"
  | single value => value.written

/-- Whether two items are the same, part by part.  A sequence of parts is not the same as a single
value, even if both come apart into the same two values. -/
def agrees : Item → Item → Bool
  | parts left, parts right => Value.allAgree left right
  | single left, single right => left.agrees right
  | _, _ => false

/-- Whether two sequences of items are the same, item by item. -/
def allAgree : List Item → List Item → Bool
  | [], [] => true
  | left :: lefts, right :: rights => left.agrees right && allAgree lefts rights
  | _, _ => false

/-- Whether the item, as an entry of a table of rules, has a hash. -/
def hashable : Item → Except Failure Unit
  | single (.list values) => refuse (.unhashable (Value.list values).typeName)
  | single (.table entries) => refuse (.unhashable (Value.table entries).typeName)
  | _ => .ok ()

end Item
end Rules
end Arbor
