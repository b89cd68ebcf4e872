import Arbor.Proofs.Rules.Acceptance
import Arbor.Proofs.Rules.Morphism

/-!
# What a table shows

A table can be asked for its size, its items, whether a text has a rule, and what replaces a text,
and it can be compared with another table.  All of this follows from the items it was made of.
Tables that agree spell the same rules in the same order, so they expand every word alike, and
report the same along the way.
-/

namespace Arbor
namespace Rules

namespace Item

variable {left right item : Item} {symbol : Char} {word text first second : String}

/-- An item that is no list and no table, unless it is given as a sequence of parts. -/
def Plain : Item → Prop
  | single (.list _) => False
  | single (.table _) => False
  | _ => True

/-! ## Items that agree -/

theorem eq_of_text_agrees {value : Value} (agree : (Value.text text).agrees value = true) :
    value = .text text := by
  cases value with
  | text other =>
    rw [Value.agrees, beq_iff_eq] at agree
    rw [agree]
  | _ => simp [Value.agrees, Value.sameNumber, Value.whole?] at agree

/-- Two texts agree with no other values than these texts. -/
theorem eq_of_texts_agree {values : List Value}
    (agree : Value.allAgree [.text first, .text second] values = true) :
    values = [.text first, .text second] := by
  match values with
  | [] | [_] | _ :: _ :: _ :: _ => simp [Value.allAgree] at agree
  | [key, replacement] =>
    simp only [Value.allAgree, Bool.and_true, Bool.and_eq_true] at agree
    rw [eq_of_text_agrees agree.1, eq_of_text_agrees agree.2]

theorem keys_of_entriesAgree {lefts rights : List (String × Value)}
    (agree : Value.entriesAgree lefts rights = true) :
    lefts.map Prod.fst = rights.map Prod.fst := by
  induction lefts generalizing rights with
  | nil =>
    cases rights with
    | nil => rfl
    | cons => simp [Value.entriesAgree] at agree
  | cons entry lefts inductionHypothesis =>
    cases rights with
    | nil => simp [Value.entriesAgree] at agree
    | cons other rights =>
      simp only [Value.entriesAgree, Bool.and_eq_true, beq_iff_eq] at agree
      rw [List.map_cons, List.map_cons, agree.1.1, inductionHypothesis agree.2]

/-- What agrees with an item that spells a rule spells the same rule. -/
theorem Spells.of_agrees (spells : left.Spells symbol word) (agree : left.agrees right = true) :
    right.Spells symbol word := by
  unfold Spells at spells ⊢
  cases left with
  | parts values =>
    cases right with
    | single => simp [agrees] at agree
    | parts others =>
      cases spells
      rw [eq_of_texts_agree agree]
      rfl
  | single value =>
    cases right with
    | parts => simp [agrees] at agree
    | single other =>
      have alike : value.agrees other = true := agree
      cases value with
      | text text => rwa [eq_of_text_agrees alike]
      | list values =>
        cases other with
        | list others =>
          cases spells
          rw [Value.agrees] at alike
          rw [eq_of_texts_agree alike]
          rfl
        | _ => simp [Value.agrees, Value.sameNumber, Value.whole?] at alike
      | table entries =>
        cases other with
        | table others =>
          rw [Value.agrees] at alike
          have keys := congrArg (List.map Value.text) (keys_of_entriesAgree alike)
          rw [List.map_map, List.map_map] at keys
          exact (congrArg some keys).symm.trans spells
        | _ => simp [Value.agrees, Value.sameNumber, Value.whole?] at alike
      | _ => cases spells

/-- A plain item that spells a rule agrees with itself.  In a list or table there might be a number
that differs from itself. -/
theorem agrees_self (plain : item.Plain) (spells : item.Spells symbol word) :
    item.agrees item = true := by
  cases item with
  | parts values =>
    cases spells
    simp [agrees, Value.allAgree, Value.agrees]
  | single value =>
    cases value with
    | text text => simp [agrees, Value.agrees]
    | list | table => cases plain
    | _ => cases spells

theorem allAgree_self {items : List Item} (each : ∀ item ∈ items, item.agrees item = true) :
    allAgree items items = true := by
  induction items with
  | nil => rfl
  | cons item items inductionHypothesis =>
    rw [allAgree, each item List.mem_cons_self, Bool.true_and]
    exact inductionHypothesis fun other member => each other (List.mem_cons_of_mem item member)

end Item

namespace Table

variable {table left right : Table} {items : List Item} {text : String}

/-! ## Asking a table for a text -/

theorem findText?_symbol {rule : Rule} (known : rule ∈ table.rules) :
    table.findText? rule.symbol.toString = some rule := by
  rw [findText?, Char.toString_eq_singleton, String.toList_singleton]
  exact find?_symbol known

theorem findText?_eq_some {rule : Rule} (found : table.findText? text = some rule) :
    rule ∈ table.rules ∧ text = rule.symbol.toString := by
  unfold findText? at found
  split at found
  · rename_i symbol one
    have same : rule.symbol = symbol := by simpa using List.find?_some found
    refine ⟨List.mem_of_find?_eq_some found, ?_⟩
    rw [← String.toList_inj, Char.toString_eq_singleton, String.toList_singleton, one, same]
  · cases found

/-- The two parts of an item of a table are those of its rule. -/
theorem parts_of_mem {item : Item} {second : Value} (member : item ∈ table.items)
    (parts : item.parts? = some [.text text, second]) :
    ∃ rule ∈ table.rules, text = rule.symbol.toString ∧
      second = .text (.ofList rule.replacement) := by
  rcases List.mem_map.mp member with ⟨rule, known, rfl⟩
  have spells := Item.spells_of_read rule.reads
  cases parts.symm.trans spells
  exact ⟨rule, known, rfl, rfl⟩

/-- What a table shows of the items it was made of. -/
structure Shows (items : List Item) (table : Table) : Prop where
  size : table.size = items.length
  listing : table.items = items
  contains : ∀ text, table.containsText text = true ↔
    ∃ item ∈ items, ∃ second, item.parts? = some [.text text, second]
  replaces : ∀ text, ∀ item ∈ items, ∀ word, item.parts? = some [.text text, .text word] →
    table.replacementText text = word
  stays : ∀ text, table.containsText text = false → table.replacementText text = text

theorem shows_of_items (table : Table) : Shows table.items table where
  size := (List.length_map _).symm
  listing := rfl
  contains text := by
    constructor
    · intro contains
      rcases Option.isSome_iff_exists.mp contains with ⟨rule, found⟩
      rcases findText?_eq_some found with ⟨known, rfl⟩
      exact ⟨rule.item, List.mem_map_of_mem known, _, Item.spells_of_read rule.reads⟩
    · rintro ⟨item, member, second, parts⟩
      rcases parts_of_mem member parts with ⟨rule, known, rfl, -⟩
      rw [containsText, findText?_symbol known, Option.isSome_some]
  replaces text item member word parts := by
    rcases parts_of_mem member parts with ⟨rule, known, rfl, same⟩
    cases same
    rw [replacementText, findText?_symbol known]
  stays text missing := by
    have none : table.findText? text = none := by simpa [containsText] using missing
    rw [replacementText, none]

/-! ## Tables that agree -/

/-- Agreeing tables spell the same rules in the same order. -/
theorem spelling_of_agrees (agree : left.agrees right = true) : left.spelling = right.spelling := by
  unfold agrees items at agree
  unfold spelling
  generalize left.rules = lefts at agree
  generalize right.rules = rights at agree
  induction lefts generalizing rights with
  | nil =>
    cases rights with
    | nil => rfl
    | cons => simp [Item.allAgree] at agree
  | cons rule lefts inductionHypothesis =>
    cases rights with
    | nil => simp [Item.allAgree] at agree
    | cons other rights =>
      simp only [List.map_cons, Item.allAgree, Bool.and_eq_true] at agree
      have spells := (Item.spells_of_read rule.reads).of_agrees agree.1
      have same := (Item.read_of_spells spells).symm.trans other.reads
      rw [String.toList_ofList, Except.ok.injEq, Prod.mk.injEq] at same
      rw [List.map_cons, List.map_cons, same.1, same.2, inductionHypothesis rights agree.2]

/-- What replaces a symbol hangs on what is spelled alone. -/
theorem replacement_eq (table : Table) (symbol : Char) :
    table.replacement symbol =
      ((table.spelling.find? fun rule => rule.1 = symbol).map fun rule => rule.2.toList).getD
        [symbol] := by
  have found : (table.spelling.find? fun rule => rule.1 = symbol) =
      (table.find? symbol).map fun rule => (rule.symbol, .ofList rule.replacement) :=
    List.find?_map ..
  rw [found, replacement]
  cases table.find? symbol with
  | none => rfl
  | some rule => exact String.toList_ofList.symm

theorem passes_congr (same : left.spelling = right.spelling) (count : Nat) (word : List Char) :
    left.passes count word = right.passes count word := by
  have replacements : left.replacement = right.replacement := by
    funext symbol
    rw [replacement_eq, replacement_eq, same]
  induction count generalizing word with
  | zero => rfl
  | succ count inductionHypothesis =>
    have first : left.pass word = right.pass word := by rw [pass, pass, replacements]
    rw [passes, passes, first, inductionHypothesis]

/-- Tables that agree expand every word in the same way, however often, and report it alike. -/
theorem expandLoose_of_agrees (agree : left.agrees right = true) (count : Value)
    (word : List Char) : expandLoose left count word = expandLoose right count word := by
  have same := passes_congr (spelling_of_agrees agree)
  simp only [expandLoose, expandReporting, same]

/-- A table of plain items agrees with itself. -/
theorem agrees_self (plain : ∀ item ∈ table.items, item.Plain) : table.agrees table = true := by
  refine Item.allAgree_self fun item member => ?_
  rcases List.mem_map.mp member with ⟨rule, -, rfl⟩
  exact Item.agrees_self (plain rule.item member) (Item.spells_of_read rule.reads)

theorem entryItem_plain (entry : String × Value) : (entryItem entry).Plain := trivial

/-- Items make a table if they spell rules for different symbols, and only then; otherwise they are
refused for what the first item breaks that makes no rule, whatever items come behind it.

All that a table shows follows from its items.  Its own items make a table again that agrees with
it, and so do a mapping and the list of its items, as long as no item is a list or a table.  Tables
that agree expand every word alike. -/
theorem tables_are_spelled (items : List Item) :
    ((∃ table, ofItems items = .ok table) ↔ ∃ rules, Spelled items rules) ∧
      (∀ failure, ofItems items = .error failure ↔
        ∃ before item after rules reason, items = before ++ item :: after ∧
          Spelled before rules ∧ item.Breaks (rules.map Prod.fst) reason ∧
          failure = ⟨reason, [], []⟩) ∧
      (∀ table, ofItems items = .ok table → table.Shows items ∧
        ((∀ item ∈ items, item.Plain) →
          ∃ again, ofItems table.items = .ok again ∧ again.agrees table = true) ∧
        ∀ other, table.agrees other = true → ∀ count word,
          expandLoose table count word = expandLoose other count word) ∧
      ∀ entries table, ofEntries entries = .ok table →
        ∃ listed, ofItems (entries.map entryItem) = .ok listed ∧ table.agrees listed = true := by
  refine ⟨ofItems_ok_iff, fun failure => ofItems_error_iff, fun table made => ?_,
    fun entries table made => ?_⟩
  · have listing := items_of_ofItems made
    refine ⟨listing ▸ table.shows_of_items, fun plain => ⟨table, ?_, ?_⟩,
      fun other agree => expandLoose_of_agrees agree⟩
    · rw [listing, made]
    · exact agrees_self (listing.symm ▸ plain)
  · have listing : table.items = entries.map entryItem := items_of_ofItems made
    refine ⟨table, made, agrees_self fun item member => ?_⟩
    rw [listing] at member
    rcases List.mem_map.mp member with ⟨entry, -, rfl⟩
    exact entryItem_plain entry

/-- A text of two symbols spells a rule like a pair does.  Of two items that are no rules behind it,
the first decides, and for its replacement although its symbol has a rule already. -/
theorem pair_in_a_word_is_spelled :
    (∃ table, ofItems [.single (.text "FG"), .parts [.text "X", .text ""]] = .ok table ∧
      table.size = 2 ∧ table.replacementText "F" = "G" ∧ table.containsText "G" = false) ∧
    ofItems [.single (.text "FG"), .parts [.text "F", .null], .single .null] =
      .error ⟨.ruleReplacement 'F', [], []⟩ := by
  have first : Item.Spells (.single (.text "FG")) 'F' "G" := rfl
  have second : Item.Spells (.parts [.text "X", .text ""]) 'X' "" := rfl
  constructor
  · rcases tables_are_spelled [.single (.text "FG"), .parts [.text "X", .text ""]] with
        ⟨accepted, -, shows, -⟩
    rcases accepted.mpr ⟨[('F', "G"), ('X', "")], .cons first (.cons second .nil), by decide⟩ with
        ⟨table, made⟩
    rcases shows table made with ⟨shows, -⟩
    refine ⟨table, made, shows.size, ?_, ?_⟩
    · exact shows.replaces "F" _ List.mem_cons_self "G" first
    · rw [Bool.eq_false_iff]
      intro contains
      rcases (shows.contains "G").mp contains with ⟨item, member, word, parts⟩
      rcases List.mem_pair.mp member with rfl | rfl
      · have same := Option.some.inj (parts.symm.trans first)
        rw [List.cons_eq_cons, Value.text.injEq] at same
        exact absurd same.1 (by decide)
      · have same := Option.some.inj (parts.symm.trans second)
        rw [List.cons_eq_cons, Value.text.injEq] at same
        exact absurd same.1 (by decide)
  · rcases tables_are_spelled [.single (.text "FG"), .parts [.text "F", .null], .single .null] with
        ⟨-, refused, -⟩
    have breaks : Item.Breaks ['F'] (.parts [.text "F", .null]) (.ruleReplacement 'F') :=
      .replacement rfl fun word same => by cases same
    exact (refused _).mpr ⟨[.single (.text "FG")], _, [.single .null], [('F', "G")], _, rfl,
      ⟨.cons first .nil, by decide⟩, breaks, rfl⟩

end Table
end Rules
end Arbor
