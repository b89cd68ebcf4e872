import Arbor.Rules.Expansion
import Mathlib.Algebra.GroupWithZero.Nat
import Mathlib.Data.List.Nodup

/-!
# Expansion as an iterated morphism

A pass is the word morphism that takes every symbol to its replacement, and an expansion iterates
it.  Nothing is assumed of the table: its rules may rewrite brackets, replace a symbol by nothing,
or lead from one symbol to another and back.  What is known of an expansion for every table is that
it distributes over the parts of a word, that passes add up, and that each pass replaces every
symbol of the word before it once, so the symbols after a pass are counted by those before it.
-/

namespace Arbor
namespace Rules
namespace Table

variable {table : Table} {word : List Char} {symbol : Char}

/-- No two rules are for one symbol, so a rule that is in the table is the one that is found. -/
theorem find?_symbol {rule : Rule} (known : rule ∈ table.rules) :
    table.find? rule.symbol = some rule := by
  cases found : table.find? rule.symbol with
  | none =>
    have missed := List.find?_eq_none.mp found rule known
    simp at missed
  | some other =>
    have same : other.symbol = rule.symbol := by simpa using List.find?_some found
    have member := List.mem_of_find?_eq_some found
    rw [List.inj_on_of_nodup_map table.distinct member known same]

theorem replacement_symbol {rule : Rule} (known : rule ∈ table.rules) :
    table.replacement rule.symbol = rule.replacement := by
  simp only [replacement, find?_symbol known]

theorem replacement_of_not_mem (plain : symbol ∉ table.symbols) :
    table.replacement symbol = [symbol] := by
  rcases table.replacement_cases symbol with ⟨-, kept⟩ | ⟨rule, known, same, -⟩
  · exact kept
  · exact absurd (List.mem_map.mpr ⟨rule, known, same⟩) plain

/-- A word without rules for its symbols comes through a pass as it is. -/
theorem pass_of_plain (plain : ∀ symbol ∈ word, symbol ∉ table.symbols) :
    table.pass word = word := by
  induction word with
  | nil => rfl
  | cons symbol word inductionHypothesis =>
    rcases List.forall_mem_cons.mp plain with ⟨first, others⟩
    have later : word.flatMap table.replacement = word := inductionHypothesis others
    simp only [pass, List.flatMap_cons, replacement_of_not_mem first, later,
      List.singleton_append]

theorem expand_of_plain (count : Nat) (plain : ∀ symbol ∈ word, symbol ∉ table.symbols) :
    table.expand count word = word := by
  induction count with
  | zero => exact expand_zero table word
  | succ count inductionHypothesis =>
    rw [expand_succ, pass_of_plain plain, inductionHypothesis]

/-- Passes add up. -/
theorem expand_add (table : Table) (earlier later : Nat) (word : List Char) :
    table.expand (earlier + later) word = table.expand later (table.expand earlier word) := by
  induction earlier generalizing word with
  | zero => simp only [Nat.zero_add, expand_zero]
  | succ earlier inductionHypothesis =>
    rw [Nat.succ_add, expand_succ, expand_succ, inductionHypothesis]

/-- The last pass of an expansion is over the word that the others have left. -/
theorem expand_succ_last (table : Table) (count : Nat) (word : List Char) :
    table.expand (count + 1) word = table.pass (table.expand count word) := by
  rw [expand_add, expand_succ, expand_zero]

/-- What a pass makes of a word is counted symbol by symbol of that word. -/
theorem count_pass (table : Table) (word : List Char) (symbol : Char) :
    (table.pass word).count symbol =
      (word.map fun before => (table.replacement before).count symbol).sum :=
  List.count_flatMap

/-- A whole number of passes that is not negative is accepted as it is. -/
theorem expandLoose_natCast (table : Table) (count : Nat) (word : List Char) :
    expandLoose table (.int count) word = table.expandReporting count word := by
  have notNegative : ¬ (count : Int) < 0 := by omega
  have asked : passCount (.int count) = .ok count := by
    simp only [passCount, if_neg notNegative, Int.toNat_natCast]
  unfold expandLoose
  rw [asked]
  rfl

theorem expandReporting_outcome (table : Table) (count : Nat) (word : List Char) (log : Log) :
    (table.expandReporting count word).outcome log = .ok (table.expand count word) := rfl

/-- Whatever its rules are, a table expands every word by every number of passes.  Parts of a word
are expanded apart, passes add up, and a word without rules for its symbols stays as it is.  Every
further pass puts the replacements of all symbols in their places, so a symbol occurs as often as in
all these replacements together; what replaces a symbol is the word of its rule, or the symbol
itself if it has none. -/
theorem expansion_is_morphism (table : Table) :
    (∀ (count : Nat) (word : List Char) (log : Log),
      (expandLoose table (.int count) word).outcome log = .ok (table.expand count word)) ∧
    (∀ count first second,
      table.expand count (first ++ second) =
        table.expand count first ++ table.expand count second) ∧
    (∀ earlier later word,
      table.expand (earlier + later) word = table.expand later (table.expand earlier word)) ∧
    (∀ count word, (∀ symbol ∈ word, symbol ∉ table.symbols) → table.expand count word = word) ∧
    (∀ count word,
      table.expand (count + 1) word = (table.expand count word).flatMap table.replacement ∧
      ∀ symbol, (table.expand (count + 1) word).count symbol =
        ((table.expand count word).map fun before =>
          (table.replacement before).count symbol).sum) ∧
    (∀ rule ∈ table.rules, table.replacement rule.symbol = rule.replacement) ∧
    ∀ symbol, symbol ∉ table.symbols → table.replacement symbol = [symbol] := by
  refine ⟨fun count word log => ?_, table.expand_append, table.expand_add,
    fun count word plain => expand_of_plain count plain, fun count word => ?_,
    fun rule known => replacement_symbol known, fun symbol plain => replacement_of_not_mem plain⟩
  · rw [expandLoose_natCast, expandReporting_outcome]
  · rw [expand_succ_last]
    exact ⟨rfl, table.count_pass (table.expand count word)⟩

/-- Two symbols that lead to each other, one of them opening a group each time, and a third that is
dropped.  The second rule is given as a text of two symbols. -/
def entwined : Table where
  rules :=
    [⟨.parts [.text "A", .text "B["], 'A', "B[".toList, rfl⟩,
      ⟨.single (.text "BA"), 'B', ['A'], rfl⟩,
      ⟨.parts [.text "+", .text ""], '+', [], rfl⟩]
  distinct := by decide

/-- Symbols without rules stay behind whatever becomes of the symbols before them, and a group is
opened by every second pass. -/
theorem entwined_expands :
    (∀ symbol ∈ ['-', 'C'], symbol ∉ entwined.symbols) ∧
      entwined.expand 5 ['-', 'C'] = ['-', 'C'] ∧
      entwined.expand 5 (['A', '+'] ++ ['-', 'C']) = "B[[[-C".toList ∧
      (entwined.expand (2 + 1) ['A', 'A']).count '[' = 4 := by
  have plain : ∀ symbol ∈ ['-', 'C'], symbol ∉ entwined.symbols := by simp [entwined, symbols]
  rcases expansion_is_morphism entwined with ⟨-, parts, -, fixed, passes, -, -⟩
  refine ⟨plain, fixed 5 _ plain, ?_, ?_⟩
  · rw [parts, fixed 5 _ plain]
    decide
  · rw [(passes 2 ['A', 'A']).2]
    decide

end Table
end Rules
end Arbor
