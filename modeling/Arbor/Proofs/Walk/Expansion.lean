import Arbor.Proofs.Rules.Morphism
import Arbor.Proofs.Walk.Following

/-!
# Brackets under expansion

A table that rewrites no bracket, and replaces other symbols by balanced words only, leaves the
nesting of groups alone: the levels along a word become levels along the expanded word, and between
them the expanded word never falls lower.  So a word and what it expands to are walked to their ends
together, or both up to the same stray bracket.
-/

namespace Arbor

open Brackets Number Space

namespace Rules
namespace Table

/-- A table that has no rules for brackets and in which every replacement is balanced. -/
structure Grouped (table : Table) : Prop where
  opening : '[' ∉ table.symbols
  closing : ']' ∉ table.symbols
  balanced : ∀ rule ∈ table.rules, Balanced rule.replacement

theorem branching_grouped : branching.Grouped where
  opening := by decide
  closing := by decide
  balanced := by decide

variable {table : Table}

theorem Grouped.replacement_opening (grouped : table.Grouped) :
    table.replacement '[' = ['['] :=
  replacement_of_not_mem grouped.opening

theorem Grouped.replacement_closing (grouped : table.Grouped) :
    table.replacement ']' = [']'] :=
  replacement_of_not_mem grouped.closing

theorem Grouped.balanced_replacement (grouped : table.Grouped) {symbol : Char}
    (notOpening : symbol ≠ '[') (notClosing : symbol ≠ ']') :
    Balanced (table.replacement symbol) := by
  rcases table.replacement_cases symbol with ⟨-, kept⟩ | ⟨rule, known, -, replaced⟩
  · rw [kept]
    exact balanced_plain notOpening notClosing
  · rw [replaced]
    exact grouped.balanced rule known

/-- A pass keeps the level of a word, and whether it is matched. -/
theorem Grouped.pass_nesting (grouped : table.Grouped) (word : List Char) :
    level (table.pass word) = level word ∧ (Matched (table.pass word) ↔ Matched word) := by
  induction word using List.reverseRecOn with
  | nil => exact ⟨rfl, Iff.rfl⟩
  | append_singleton word symbol inductionHypothesis =>
    rcases inductionHypothesis with ⟨levels, matched⟩
    have whole : table.pass (word ++ [symbol]) = table.pass word ++ table.replacement symbol := by
      rw [pass_append]
      simp [pass]
    rw [whole]
    -- A bracket comes through as it is; a balanced replacement counts as little as its symbol.
    by_cases opening : symbol = '['
    · subst opening
      rw [grouped.replacement_opening, matched_concat, matched_concat, matched]
      simp only [level_append, levels, true_and]
    · by_cases closing : symbol = ']'
      · subst closing
        rw [grouped.replacement_closing, matched_concat, matched_concat, matched]
        simp only [level_append, levels, true_and]
      · have before := balanced_plain opening closing
        have after := grouped.balanced_replacement opening closing
        rw [after.append_matched, before.append_matched, level_append, level_append,
          after.level_eq, before.level_eq, levels]
        exact ⟨rfl, matched⟩

theorem Grouped.expand_nesting (grouped : table.Grouped) (count : Nat) (word : List Char) :
    level (table.expand count word) = level word ∧
      (Matched (table.expand count word) ↔ Matched word) := by
  induction count generalizing word with
  | zero => exact ⟨rfl, Iff.rfl⟩
  | succ count inductionHypothesis =>
    rcases grouped.pass_nesting word with ⟨levels, matched⟩
    rcases inductionHypothesis (table.pass word) with ⟨onward, further⟩
    rw [expand_succ]
    exact ⟨onward.trans levels, further.trans matched⟩

theorem Grouped.balanced_expand (grouped : table.Grouped) (count : Nat) {word : List Char}
    (balanced : Balanced word) : Balanced (table.expand count word) := by
  rcases grouped.expand_nesting count word with ⟨levels, matched⟩
  exact balanced_of_level (matched.mpr balanced.matched) (levels.trans balanced.level_eq)

theorem Grouped.expand_closing (grouped : table.Grouped) (count : Nat) :
    table.expand count [']'] = [']'] := by
  apply expand_of_plain
  intro symbol member
  rw [List.mem_singleton.mp member]
  exact grouped.closing

/-- A stray bracket stays one, behind the expansion of what is before it. -/
theorem Grouped.expand_stray (grouped : table.Grouped) (count : Nat) (closed rest : List Char) :
    table.expand count (closed ++ ']' :: rest) =
      table.expand count closed ++ ']' :: table.expand count rest := by
  have parts : closed ++ ']' :: rest = closed ++ ([']'] ++ rest) := rfl
  rw [parts, expand_append, expand_append, grouped.expand_closing]
  rfl

end Table
end Rules

variable {C W J : Type} [Wide W] [Component C W] [AngleSource J W]

open Rules Turtle

/-- A word and what it expands to are both walked to their ends, with as many poses left saved, or
both fail, at brackets that correspond to each other. -/
theorem expand_outcome {table : Table} (grouped : table.Grouped) (count : Nat) (word : List Char)
    {jitter other : J} (enough : AngleSource.Supplies (word.count 'F') jitter)
    (plenty : AngleSource.Supplies ((table.expand count word).count 'F') other) :
    (∃ (turtle expanded : Turtle C W J) (left spent : J),
        interpret word jitter = .ok turtle left ∧
        interpret (table.expand count word) other = .ok expanded spent ∧
        expanded.saved.length = turtle.saved.length) ∨
      ∃ (index : Nat) (left spent : J),
        (interpret word : Act J (Turtle C W J)) jitter =
          .error ⟨.unmatched "]" index, [], []⟩ left ∧
        (interpret (table.expand count word) : Act J (Turtle C W J)) other =
          .error ⟨.unmatched "]" (table.expand count (word.take index)).length, [], []⟩ spent := by
  rcases matched_or_stray word with matched | ⟨closed, rest, rfl, balanced⟩
  · rcases grouped.expand_nesting count word with ⟨levels, both⟩
    rcases interpret_of_matched (C := C) matched enough with ⟨turtle, left, walked⟩
    rcases interpret_of_matched (C := C) (both.mpr matched) plenty with ⟨expanded, spent, onward⟩
    have before := (followAll_saved_length (interpret_eq_ok_iff.mp walked).1).1
    have after := (followAll_saved_length (interpret_eq_ok_iff.mp onward).1).1
    exact Or.inl ⟨turtle, expanded, left, spent, walked, onward, by omega⟩
  · rcases interpret_of_stray (C := C) balanced rest enough with ⟨left, failed⟩
    have further := grouped.balanced_expand count balanced
    rw [grouped.expand_stray] at plenty ⊢
    rcases interpret_of_stray (C := C) further _ plenty with ⟨spent, failedToo⟩
    refine Or.inr ⟨closed.length, left, spent, failed, ?_⟩
    rw [List.take_left]
    exact failedToo

/-- Expansion neither brings bracket failures about nor hides them.  A failure comes from a bracket
of the word, and the place of this bracket in the expanded word is behind the expansion of all that
is before it; without one both words are walked to their ends, with as many poses left saved and so
with as many groups left open. -/
theorem expansion_keeps_brackets {table : Table} (grouped : table.Grouped) (count : Nat)
    (word : List Char) {jitter other : J}
    (enough : AngleSource.Supplies (word.count 'F') jitter)
    (plenty : AngleSource.Supplies ((table.expand count word).count 'F') other) :
    let plain := (interpret word : Act J (Turtle C W J)).outcome jitter
    let expanded := (interpret (table.expand count word) : Act J (Turtle C W J)).outcome other
    ((∃ failure, expanded = .error failure ∧ failure.kind = .bracket) ↔
      ∃ failure, plain = .error failure ∧ failure.kind = .bracket) ∧
    (∀ failure, plain = .error failure → failure.kind = .bracket →
      ∃ index : Nat, failure = ⟨.unmatched "]" index, [], []⟩ ∧ expanded =
        .error ⟨.unmatched "]" (table.expand count (word.take index)).length, [], []⟩) ∧
    ((∀ failure, plain = .error failure → failure.kind ≠ .bracket) →
      ∃ first second : Turtle C W J, plain = .ok first ∧ expanded = .ok second ∧
        second.saved.length = first.saved.length ∧ second.openBranches = first.openBranches) := by
  intro plain expanded
  rcases expand_outcome (C := C) grouped count word enough plenty with
      ⟨first, second, left, spent, walked, onward, same⟩ | ⟨index, left, spent, failed, further⟩
  · have plainRun : plain = .ok first := by simp only [plain, Act.outcome, walked]
    have expandedRun : expanded = .ok second := by simp only [expanded, Act.outcome, onward]
    rw [plainRun, expandedRun]
    have open_same : second.openBranches = first.openBranches := by
      simp only [openBranches, same]
    refine ⟨?_, ?_, fun _ => ⟨first, second, rfl, rfl, same, open_same⟩⟩
    · constructor
      · rintro ⟨failure, impossible, -⟩
        cases impossible
      · rintro ⟨failure, impossible, -⟩
        cases impossible
    · intro failure impossible
      cases impossible
  · have plainRun : plain = .error ⟨.unmatched "]" index, [], []⟩ := by
      simp only [plain, Act.outcome, failed]
    have expandedRun : expanded =
        .error ⟨.unmatched "]" (table.expand count (word.take index)).length, [], []⟩ := by
      simp only [expanded, Act.outcome, further]
    rw [plainRun, expandedRun]
    refine ⟨⟨fun _ => ⟨_, rfl, rfl⟩, fun _ => ⟨_, rfl, rfl⟩⟩, ?_, fun none => ?_⟩
    · intro failure same _
      cases same
      exact ⟨index, rfl, rfl⟩
    · exact absurd rfl (none _ rfl)

/-- Under the branching rule a stray bracket moves from the second place to the fourteenth. -/
theorem stray_moves :
    Table.branching.Grouped ∧
      AngleSource.Supplies 2 (Jitter.constant (.int 5)) ∧
      AngleSource.Supplies 10 (Jitter.constant (.int 5)) ∧
      (interpret ['F', ']', 'F'] : Act Jitter (Turtle Float32 Float Jitter)).outcome
        (.constant (.int 5)) = .error ⟨.unmatched "]" 1, [], []⟩ ∧
      (interpret (Table.branching.expand 1 ['F', ']', 'F']) :
        Act Jitter (Turtle Float32 Float Jitter)).outcome (.constant (.int 5)) =
          .error ⟨.unmatched "]" 13, [], []⟩ := by
  have five : ∀ count, AngleSource.Supplies count (Jitter.constant (.int 5)) :=
    Jitter.constant_supplies (rfl : Jitter.summand (.int 5) = _)
  rcases expansion_keeps_brackets (C := Float32) Table.branching_grouped 1 ['F', ']', 'F'] (five 2)
      (five 10) with ⟨-, moved, -⟩
  have failed : (interpret ['F', ']', 'F'] : Act Jitter (Turtle Float32 Float Jitter)).outcome
      (.constant (.int 5)) = .error ⟨.unmatched "]" 1, [], []⟩ := rfl
  rcases moved _ failed rfl with ⟨index, place, further⟩
  cases place
  exact ⟨Table.branching_grouped, five 2, five 10, failed, further⟩

end Arbor
