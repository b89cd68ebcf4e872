import Arbor.Rules.Table
import Mathlib.Data.List.Forall2
import Mathlib.Data.List.Nodup

/-!
# Which items make a table

An item spells a rule if it has two parts, the first of them a text of one symbol and the second a
text.  Items make a table exactly if each of them spells a rule and no two of these rules are for
one symbol.  Otherwise there is a first item that breaks a rule, and what it breaks, looked for in a
fixed order, is why the items are refused.  What comes behind this item does not matter.
-/

namespace Arbor
namespace Rules
namespace Item

variable {item : Item} {known : List Char} {symbol : Char} {word : String} {reason : Reason}

/-- The parts an item has, if it is a collection. -/
def parts? : Item → Option (List Value)
  | parts values => some values
  | single (.text text) => some (text.toList.map fun symbol => .text symbol.toString)
  | single (.list values) => some values
  | single (.table entries) => some (entries.map fun entry => .text entry.1)
  | single _ => none

/-- An item spells the rule for a symbol: it has two parts, the symbol and the text that replaces
it. -/
def Spells (item : Item) (symbol : Char) (word : String) : Prop :=
  item.parts? = some [.text symbol.toString, .text word]

/-- Why an item makes no rule behind the rules for the known symbols.  The reasons stand in the
order in which they are looked for: each supposes that none before it holds. -/
inductive Breaks (known : List Char) : Item → Reason → Prop
  | apart {value : Value} (none : (single value).parts? = none) :
    Breaks known (single value) (.noParts value.typeName)
  | few {item : Item} {values : List Value} (parts : item.parts? = some values)
    (less : values.length < 2) : Breaks known item (.tooFewParts values.length)
  | many {item : Item} {values : List Value} (parts : item.parts? = some values)
    (more : 2 < values.length) : Breaks known item .tooManyParts
  | key {item : Item} {key replacement : Value} (parts : item.parts? = some [key, replacement])
    (other : ∀ symbol : Char, key ≠ .text symbol.toString) : Breaks known item (.ruleKey key)
  | replacement {item : Item} {symbol : Char} {replacement : Value}
    (parts : item.parts? = some [.text symbol.toString, replacement])
    (other : ∀ word, replacement ≠ .text word) : Breaks known item (.ruleReplacement symbol)
  | duplicate {item : Item} {symbol : Char} {word : String} (spells : item.Spells symbol word)
    (member : symbol ∈ known) : Breaks known item (.duplicateRule symbol)

/-! ## Reading an item -/

theorem symbol?_eq_some_iff {value : Value} :
    symbol? value = some symbol ↔ value = .text symbol.toString := by
  cases value with
  | text text =>
    have same : symbol? (.text text) = some symbol ↔ text.toList = [symbol] := by
      unfold symbol?
      dsimp only
      split
      · rename_i other one
        rw [one, Option.some_inj, List.singleton_inj]
      · rename_i no
        exact ⟨fun same => (by cases same), fun one => absurd one (no symbol)⟩
    rw [same, Value.text.injEq, ← String.toList_inj, Char.toString_eq_singleton,
      String.toList_singleton]
  | _ => simp [symbol?]

theorem text?_eq_some_iff {value : Value} : value.text? = some word ↔ value = .text word := by
  cases value <;> simp [Value.text?]

theorem unpack_of_parts {values : List Value} (parts : item.parts? = some values) :
    item.unpack = twoOf values := by
  cases item with
  | parts => cases parts; rfl
  | single value => cases value <;> cases parts <;> rfl

theorem unpack_of_none {value : Value} (none : (single value).parts? = none) :
    (single value).unpack = refuse (.noParts value.typeName) := by
  cases value with
  | text | list | table => cases none
  | _ => rfl

/-- The parts of a rule are checked one after the other. -/
theorem read_of_parts {key replacement : Value} (parts : item.parts? = some [key, replacement]) :
    item.read = check key replacement := by
  rw [read, unpack_of_parts parts]
  rfl

theorem read_of_spells (spells : item.Spells symbol word) :
    item.read = .ok (symbol, word.toList) := by
  rw [read_of_parts spells, check, symbol?_eq_some_iff.mpr rfl]
  rfl

/-- An item spells a rule for a new symbol, or breaks one of the rules for items. -/
theorem spells_or_breaks (item : Item) (known : List Char) :
    (∃ symbol word, item.Spells symbol word ∧ symbol ∉ known) ∨
      ∃ reason, item.Breaks known reason := by
  match parts : item.parts? with
  | none =>
    cases item with
    | parts => cases parts
    | single value => exact Or.inr ⟨_, .apart parts⟩
  | some [] => exact Or.inr ⟨_, .few parts (by decide)⟩
  | some [_] => exact Or.inr ⟨_, .few parts (Nat.lt_succ_self 1)⟩
  | some (_ :: _ :: _ :: more) => exact Or.inr ⟨_, .many parts (by simp)⟩
  | some [key, replacement] =>
    cases one : symbol? key with
    | none =>
      refine Or.inr ⟨_, .key parts fun symbol same => ?_⟩
      rw [symbol?_eq_some_iff.mpr same] at one
      cases one
    | some symbol =>
      rw [symbol?_eq_some_iff] at one
      subst one
      cases replacement with
      | text word =>
        by_cases member : symbol ∈ known
        · exact Or.inr ⟨_, .duplicate parts member⟩
        · exact Or.inl ⟨symbol, word, parts, member⟩
      | _ => exact Or.inr ⟨_, .replacement parts fun word same => by cases same⟩

theorem twoOf_of_few {values : List Value} (less : values.length < 2) :
    twoOf values = refuse (.tooFewParts values.length) := by
  match values with
  | [] | [_] => rfl
  | _ :: _ :: _ => exact absurd less (by simp)

theorem twoOf_of_many {values : List Value} (more : 2 < values.length) :
    twoOf values = refuse .tooManyParts := by
  match values with
  | [] | [_] | [_, _] => exact absurd more (by simp)
  | _ :: _ :: _ :: _ => rfl

/-- An item that breaks a rule is not read, unless its symbol has a rule already. -/
theorem read_of_breaks (breaks : item.Breaks known reason) :
    item.read = refuse reason ∨
      ∃ symbol word, item.Spells symbol word ∧ symbol ∈ known ∧ reason = .duplicateRule symbol := by
  cases breaks with
  | apart none =>
    refine Or.inl ?_
    rw [read, unpack_of_none none]
    rfl
  | few parts less =>
    refine Or.inl ?_
    rw [read, unpack_of_parts parts, twoOf_of_few less]
    rfl
  | many parts more =>
    refine Or.inl ?_
    rw [read, unpack_of_parts parts, twoOf_of_many more]
    rfl
  | key parts other =>
    refine Or.inl ?_
    have none : symbol? _ = none := Option.eq_none_iff_forall_ne_some.mpr fun symbol one =>
      other symbol (symbol?_eq_some_iff.mp one)
    rw [read_of_parts parts, check, none]
  | replacement parts other =>
    refine Or.inl ?_
    have none : Value.text? _ = none := Option.eq_none_iff_forall_ne_some.mpr fun word text =>
      other word (text?_eq_some_iff.mp text)
    rw [read_of_parts parts, check, symbol?_eq_some_iff.mpr rfl]
    dsimp only
    rw [none]
  | duplicate spells member => exact Or.inr ⟨_, _, spells, member, rfl⟩

/-- Only an item that spells a rule is read. -/
theorem spells_of_read {replacement : List Char} (reads : item.read = .ok (symbol, replacement)) :
    item.Spells symbol (.ofList replacement) := by
  rcases item.spells_or_breaks [] with ⟨other, word, spells, -⟩ | ⟨reason, breaks⟩
  · cases (read_of_spells spells).symm.trans reads
    rwa [String.ofList_toList]
  · rcases read_of_breaks breaks with refused | ⟨other, word, -, member, -⟩
    · cases refused.symm.trans reads
    · cases member

end Item

namespace Table

variable {table final : Table} {item : Item} {items : List Item} {symbol : Char} {word : String}
  {reason : Reason}

/-- Items spell rules, one each, and no two of the rules are for one symbol. -/
structure Spelled (items : List Item) (rules : List (Char × String)) : Prop where
  each : List.Forall₂ (fun item (rule : Char × String) => item.Spells rule.1 rule.2) items rules
  distinct : (rules.map Prod.fst).Nodup

/-! ## Adding an item -/

/-- An item that spells a rule for a new symbol is added behind the others. -/
theorem add_of_spells (spells : item.Spells symbol word) (fresh : symbol ∉ table.symbols) :
    table.add item =
      .ok (table.push ⟨item, symbol, word.toList, Item.read_of_spells spells⟩ fresh) := by
  have reads := Item.read_of_spells spells
  unfold add
  split
  · rename_i failure refused
    cases refused.symm.trans reads
  · rename_i other replacement again
    cases again.symm.trans reads
    rw [dif_neg fresh]

/-- An item that breaks a rule is refused for this reason. -/
theorem add_of_breaks (breaks : item.Breaks table.symbols reason) :
    table.add item = refuse reason := by
  unfold add
  rcases Item.read_of_breaks breaks with refused | ⟨symbol, word, spells, member, rfl⟩
  · split
    · rename_i failure again
      cases again.symm.trans refused
      rfl
    · rename_i reads
      cases reads.symm.trans refused
  · have reads := Item.read_of_spells spells
    split
    · rename_i failure refused
      cases refused.symm.trans reads
    · rename_i other replacement again
      cases again.symm.trans reads
      rw [dif_pos member]

theorem symbols_push (table : Table) (rule : Rule) (fresh : rule.symbol ∉ table.symbols) :
    (table.push rule fresh).symbols = table.symbols ++ [rule.symbol] :=
  List.map_append

theorem items_push (table : Table) (rule : Rule) (fresh : rule.symbol ∉ table.symbols) :
    (table.push rule fresh).items = table.items ++ [rule.item] :=
  List.map_append

/-! ## Adding items -/

theorem addAll_cons_of_ok {next : Table} (added : table.add item = .ok next) (items : List Item) :
    table.addAll (item :: items) = next.addAll items := by
  rw [addAll, added]
  rfl

theorem addAll_cons_of_error {failure : Failure} (refused : table.add item = .error failure)
    (items : List Item) : table.addAll (item :: items) = .error failure := by
  rw [addAll, refused]
  rfl

/-- Items that have been added are there, in order, behind those from before. -/
theorem items_of_addAll (added : table.addAll items = .ok final) :
    final.items = table.items ++ items := by
  induction items generalizing table with
  | nil =>
    cases added
    exact (List.append_nil _).symm
  | cons item items inductionHypothesis =>
    rcases item.spells_or_breaks table.symbols with
        ⟨symbol, word, spells, fresh⟩ | ⟨reason, breaks⟩
    · rw [addAll_cons_of_ok (add_of_spells spells fresh)] at added
      rw [inductionHypothesis added, items_push, List.append_assoc, List.singleton_append]
    · cases (addAll_cons_of_error (add_of_breaks breaks) items).symm.trans added

/-- Items that spell rules for new symbols can be added. -/
theorem addAll_of_spelled {rules : List (Char × String)}
    (each : List.Forall₂ (fun item (rule : Char × String) => item.Spells rule.1 rule.2) items rules)
    (distinct : (table.symbols ++ rules.map Prod.fst).Nodup) :
    ∃ final, table.addAll items = .ok final ∧
      final.symbols = table.symbols ++ rules.map Prod.fst := by
  induction each generalizing table with
  | nil => exact ⟨table, rfl, (List.append_nil _).symm⟩
  | @cons item rule items rules spells each inductionHypothesis =>
    have fresh : rule.1 ∉ table.symbols := fun member =>
      (List.nodup_append.mp distinct).2.2 rule.1 member rule.1 List.mem_cons_self rfl
    have added := add_of_spells spells fresh
    have symbols :=
      symbols_push table ⟨item, rule.1, rule.2.toList, Item.read_of_spells spells⟩ fresh
    rw [List.map_cons, ← List.singleton_append, ← List.append_assoc] at distinct
    rcases inductionHypothesis (symbols ▸ distinct) with ⟨final, others, all⟩
    refine ⟨final, (addAll_cons_of_ok added items).trans others, ?_⟩
    rw [all, symbols, List.append_assoc, List.singleton_append, List.map_cons]

/-- When items are refused, there is a first one that makes no rule. -/
theorem addAll_stops {failure : Failure} (refused : table.addAll items = .error failure) :
    ∃ before item after between reason, items = before ++ item :: after ∧
      table.addAll before = .ok between ∧ item.Breaks between.symbols reason ∧
      failure = ⟨reason, [], []⟩ := by
  induction items generalizing table with
  | nil => cases refused
  | cons item items inductionHypothesis =>
    rcases item.spells_or_breaks table.symbols with
        ⟨symbol, word, spells, fresh⟩ | ⟨reason, breaks⟩
    · have added := add_of_spells spells fresh
      rw [addAll_cons_of_ok added] at refused
      rcases inductionHypothesis refused with
          ⟨before, stops, after, between, reason, rfl, others, breaks, same⟩
      exact ⟨item :: before, stops, after, between, reason, rfl,
        (addAll_cons_of_ok added before).trans others, breaks, same⟩
    · have stops := addAll_cons_of_error (add_of_breaks breaks) items
      cases stops.symm.trans refused
      exact ⟨[], item, items, table, reason, rfl, rfl, breaks, rfl⟩

theorem addAll_append {between : Table} {before : List Item}
    (added : table.addAll before = .ok between) (after : List Item) :
    table.addAll (before ++ after) = between.addAll after := by
  induction before generalizing table with
  | nil =>
    cases added
    rfl
  | cons item before inductionHypothesis =>
    cases first : table.add item with
    | error failure => cases (addAll_cons_of_error first before).symm.trans added
    | ok next =>
      rw [addAll_cons_of_ok first] at added
      rw [List.cons_append, addAll_cons_of_ok first, inductionHypothesis added]

/-! ## Tables of items -/

/-- The rules of a table as they are spelled. -/
def spelling (table : Table) : List (Char × String) :=
  table.rules.map fun rule => (rule.symbol, .ofList rule.replacement)

theorem spelling_symbols (table : Table) : table.spelling.map Prod.fst = table.symbols := by
  rw [spelling, symbols, List.map_map]
  rfl

/-- A table keeps what its items spell. -/
theorem spelled (table : Table) : Spelled table.items table.spelling where
  each := by
    rw [items, spelling, List.forall₂_map_left_iff, List.forall₂_map_right_iff, List.forall₂_same]
    exact fun rule _ => Item.spells_of_read rule.reads
  distinct := by
    rw [spelling_symbols]
    exact table.distinct

theorem items_of_ofItems (made : ofItems items = .ok table) : table.items = items :=
  items_of_addAll made

theorem ofItems_of_spelled {rules : List (Char × String)} (spelled : Spelled items rules) :
    ∃ table, ofItems items = .ok table ∧ table.symbols = rules.map Prod.fst :=
  addAll_of_spelled spelled.each spelled.distinct

/-- Items make a table exactly if they spell rules for different symbols. -/
theorem ofItems_ok_iff : (∃ table, ofItems items = .ok table) ↔ ∃ rules, Spelled items rules := by
  constructor
  · rintro ⟨table, made⟩
    rw [← items_of_ofItems made]
    exact ⟨_, table.spelled⟩
  · rintro ⟨rules, spelled⟩
    rcases ofItems_of_spelled spelled with ⟨table, made, -⟩
    exact ⟨table, made⟩

/-- Items are refused for what the first item breaks that makes no rule behind those before it. -/
theorem ofItems_error_iff {failure : Failure} :
    ofItems items = .error failure ↔
      ∃ before item after rules reason, items = before ++ item :: after ∧ Spelled before rules ∧
        item.Breaks (rules.map Prod.fst) reason ∧ failure = ⟨reason, [], []⟩ := by
  constructor
  · intro refused
    rcases addAll_stops refused with
        ⟨before, item, after, between, reason, same, made, breaks, fails⟩
    refine ⟨before, item, after, between.spelling, reason, same, ?_, ?_, fails⟩
    · have kept : between.items = before := items_of_ofItems made
      rw [← kept]
      exact between.spelled
    · rwa [spelling_symbols]
  · rintro ⟨before, item, after, rules, reason, rfl, spelled, breaks, rfl⟩
    rcases ofItems_of_spelled spelled with ⟨between, made, symbols⟩
    rw [← symbols] at breaks
    exact (addAll_append made (item :: after)).trans
      (addAll_cons_of_error (add_of_breaks breaks) after)

end Table
end Rules
end Arbor
