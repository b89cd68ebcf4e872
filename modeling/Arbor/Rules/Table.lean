import Arbor.Rules.Item

/-!
# Tables of rewriting rules

A table holds at most one rule for a symbol.  It is built item by item, so the first item that is
no rule, or that repeats a symbol, decides why a table is refused.  A table remembers its items as
they were given: two tables agree when their items do, in order, and a text of two symbols does not
agree with the pair of these symbols although both read as one rule.
-/

namespace Arbor
namespace Rules

/-- A rule: the item it was given as, its symbol, and the word that replaces the symbol. -/
structure Rule where
  item : Item
  symbol : Char
  replacement : List Char
  reads : item.read = .ok (symbol, replacement)

/-- Rules in the order in which they were given, no two for one symbol. -/
structure Table where
  rules : List Rule
  distinct : (rules.map Rule.symbol).Nodup

namespace Table

/-- The table without rules. -/
def empty : Table := ⟨[], .nil⟩

/-- The symbols that have a rule. -/
def symbols (table : Table) : List Char := table.rules.map Rule.symbol

/-- Put a rule behind the others. -/
def push (table : Table) (rule : Rule) (fresh : rule.symbol ∉ table.symbols) : Table where
  rules := table.rules ++ [rule]
  distinct := by
    simp only [List.map_append, List.map_cons, List.map_nil, List.nodup_append]
    refine ⟨table.distinct, by simp, ?_⟩
    intro symbol member other last
    rw [List.mem_singleton] at last
    rintro rfl
    exact fresh (last ▸ member)

/-- Add the rule an item reads as, unless it reads as none or its symbol has a rule. -/
def add (table : Table) (item : Item) : Except Failure Table :=
  match reads : item.read with
  | .error failure => .error failure
  | .ok (symbol, replacement) =>
    if known : symbol ∈ table.symbols then refuse (.duplicateRule symbol)
    else .ok (table.push ⟨item, symbol, replacement, reads⟩ known)

/-- Add items from first to last, up to the first that is refused. -/
def addAll (table : Table) : List Item → Except Failure Table
  | [] => .ok table
  | item :: items => table.add item >>= fun table => table.addAll items

/-- The table of a list of items. -/
def ofItems (items : List Item) : Except Failure Table := empty.addAll items

/-- The item for an entry of a mapping. -/
def entryItem (entry : String × Value) : Item := .parts [.text entry.1, entry.2]

/-- The table of a mapping from symbols to replacements. -/
def ofEntries (entries : List (String × Value)) : Except Failure Table :=
  ofItems (entries.map entryItem)

/-- The items of a table in order. -/
def items (table : Table) : List Item := table.rules.map Rule.item

/-- The number of rules. -/
def size (table : Table) : Nat := table.rules.length

/-- The rule for a symbol. -/
def find? (table : Table) (symbol : Char) : Option Rule :=
  table.rules.find? fun rule => rule.symbol = symbol

/-- The word that replaces a symbol: that of its rule, or the symbol itself. -/
def replacement (table : Table) (symbol : Char) : List Char :=
  match table.find? symbol with
  | some rule => rule.replacement
  | none => [symbol]

/-- A symbol is replaced by its rule, or has none and stays. -/
theorem replacement_cases (table : Table) (symbol : Char) :
    (symbol ∉ table.symbols ∧ table.replacement symbol = [symbol]) ∨
      ∃ rule ∈ table.rules, rule.symbol = symbol ∧ table.replacement symbol = rule.replacement := by
  unfold replacement
  cases found : table.find? symbol with
  | none =>
    refine Or.inl ⟨fun member => ?_, rfl⟩
    rcases List.mem_map.mp member with ⟨rule, known, same⟩
    have other := List.find?_eq_none.mp found rule known
    simp [same] at other
  | some rule =>
    have same := List.find?_some found
    exact Or.inr ⟨rule, List.mem_of_find?_eq_some found, by simpa using same, rfl⟩

/-- The rule for a text, which only a text of one symbol can have. -/
def findText? (table : Table) (text : String) : Option Rule :=
  match text.toList with
  | [symbol] => table.find? symbol
  | _ => none

/-- The text that replaces a text: that of its rule, or the text itself. -/
def replacementText (table : Table) (text : String) : String :=
  match table.findText? text with
  | some rule => .ofList rule.replacement
  | none => text

/-- Whether a text is a symbol with a rule. -/
def containsText (table : Table) (text : String) : Bool := (table.findText? text).isSome

/-- The written form of a table. -/
def written (table : Table) : String :=
  "ProductionRules([" ++ ", ".intercalate (table.items.map Item.written) ++ "])"

/-- Two tables agree when their items do, in order. -/
def agrees (left right : Table) : Bool := Item.allAgree left.items right.items

/-- Whether a table has a hash, which takes one of every item. -/
def hashable (table : Table) : Except Failure Unit := table.items.forM Item.hashable

/-- The rule under which a tree branches: a segment becomes a segment, a side branch turned one
way, a second segment, a side branch turned the other way, and a side branch straight on. -/
def branching : Table where
  rules :=
    [⟨.parts [.text "F", .text "F[-F]F[+F][F]"], 'F', "F[-F]F[+F][F]".toList, rfl⟩]
  distinct := by simp

end Table
end Rules
end Arbor
