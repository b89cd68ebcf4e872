import Arbor.Event
import Arbor.Rules.Table

/-!
# Expanding a word

A rewriting pass replaces every symbol of a word at once, so it is the word morphism that takes
each symbol to its replacement, and expanding a word iterates it.  `passes` keeps the word after
every pass, which is what an expansion reports; `expand` is the last of them.
-/

namespace Arbor
namespace Rules
namespace Table

/-- One pass over a word. -/
def pass (table : Table) (word : List Char) : List Char := word.flatMap table.replacement

/-- The words after the first, second, … pass. -/
def passes (table : Table) : Nat → List Char → List (List Char)
  | 0, _ => []
  | count + 1, word => table.pass word :: table.passes count (table.pass word)

/-- The word after a number of passes. -/
def expand (table : Table) (count : Nat) (word : List Char) : List Char :=
  (table.passes count word).getLastD word

theorem expand_zero (table : Table) (word : List Char) : table.expand 0 word = word := rfl

theorem expand_succ (table : Table) (count : Nat) (word : List Char) :
    table.expand (count + 1) word = table.expand count (table.pass word) := by
  simp only [expand, passes, List.getLastD_cons]

theorem pass_append (table : Table) (first second : List Char) :
    table.pass (first ++ second) = table.pass first ++ table.pass second :=
  List.flatMap_append

theorem expand_append (table : Table) (count : Nat) (first second : List Char) :
    table.expand count (first ++ second) = table.expand count first ++ table.expand count second := by
  induction count generalizing first second with
  | zero => rfl
  | succ count inductionHypothesis =>
    simp only [expand_succ, pass_append, inductionHypothesis]

/-- What an expansion reports: the size of the word after every pass. -/
def passEvents (words : List (List Char)) : List Event :=
  words.mapIdx fun earlier word => .rewritten (earlier + 1) word.length

/-- Expand a word and report every pass. -/
def expandReporting (table : Table) (count : Nat) (word : List Char) : Act Log (List Char) := do
  let words := table.passes count word
  report (passEvents words)
  return words.getLastD word

end Table

/-- The number of passes a loose value asks for.  Its sign is looked at before its type: a negative
number is refused as such even if it is not whole. -/
def passCount : Value → Except Failure Nat
  | .int count => if count < 0 then refuse (.negativePasses (.int count)) else .ok count.toNat
  | .flag more => .ok more.toNat
  | .real number =>
    if number < 0 then refuse (.negativePasses (.real number))
    else refuse (.uncountable (Value.real number).typeName)
  | value => refuse (.uncomparable "<" value.typeName (Value.int 0).typeName)

/-- Expand a word as often as a loose value asks for. -/
def expandLoose (table : Table) (count : Value) (word : List Char) : Act Log (List Char) := do
  table.expandReporting (← Act.lift (passCount count)) word

end Rules
end Arbor
