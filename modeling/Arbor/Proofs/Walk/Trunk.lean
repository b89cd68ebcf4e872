import Arbor.Proofs.Walk.Descent
import Arbor.Proofs.Walk.Drawing
import Arbor.Proofs.Walk.Sizes

/-!
# The trunk under the branching rule

Rewriting keeps groups apart: the open path of a rewritten word is made of the open paths of the
words that replace the symbols on the open path of the word (`Grouped.openPath_pass`).  Under the
branching rule two of the five segments that come of one are on its open path, and the turns beside
them are inside groups.  So with every pass the trunk of a tree has twice as many segments, and its
heading about the first axis stays what it was.
-/

namespace Arbor

open Brackets Number Space

namespace Rules
namespace Table

variable {table : Table} {word closed : List Char}

theorem pass_singleton (table : Table) (symbol : Char) :
    table.pass [symbol] = table.replacement symbol := by
  simp [pass]

theorem Grouped.pass_group (grouped : table.Grouped) (closed : List Char) :
    table.pass ('[' :: (closed ++ [']'])) = '[' :: (table.pass closed ++ [']']) := by
  have parts : '[' :: (closed ++ [']']) = ['['] ++ (closed ++ [']']) := rfl
  rw [parts, pass_append, pass_append, pass_singleton, pass_singleton, grouped.replacement_opening,
    grouped.replacement_closing]
  rfl

theorem Grouped.balanced_pass (grouped : table.Grouped) (balanced : Balanced closed) :
    Balanced (table.pass closed) := by
  rcases grouped.pass_nesting closed with ⟨levels, matched⟩
  exact balanced_of_level (matched.mpr balanced.matched) (levels.trans balanced.level_eq)

/-- A pass rewrites the open path by the open paths of the replacements. -/
theorem Grouped.openPath_pass (grouped : table.Grouped) (matched : Matched word) :
    openPath (table.pass word) =
      (openPath word).flatMap fun symbol => openPath (table.replacement symbol) := by
  induction matched using Matched.induction with
  | nil => rfl
  | @plain word symbol notOpening notClosing matched _ inductionHypothesis =>
    have before := (grouped.pass_nesting word).2.mpr matched
    have replaced := (grouped.balanced_replacement notOpening notClosing).matched
    rw [pass_append, pass_singleton, openPath_append before replaced, inductionHypothesis,
      openPath_append matched (balanced_plain notOpening notClosing).matched,
      openPath_plain notOpening notClosing, List.flatMap_append, List.flatMap_singleton]
  | @opened word matched _ inductionHypothesis =>
    have before := (grouped.pass_nesting word).2.mpr matched
    rw [pass_append, pass_singleton, grouped.replacement_opening,
      openPath_append before (by decide), openPath_append matched (by decide), openPath_opening,
      List.append_nil, List.append_nil, inductionHypothesis]
  | @group word closed balanced matched _ inductionHypothesis =>
    have before := (grouped.pass_nesting word).2.mpr matched
    have inside := grouped.balanced_pass balanced
    rw [pass_append, grouped.pass_group, openPath_append before inside.group.matched,
      openPath_append matched balanced.group.matched, openPath_group inside,
      openPath_group balanced, List.append_nil, List.append_nil, inductionHypothesis]

/-- A path with two segments in the place of each. -/
def doubled (path : List Char) : List Char :=
  path.flatMap fun symbol => if symbol = 'F' then ['F', 'F'] else [symbol]

/-- Of the five segments that replace one, the second and the two beside the turns are in groups. -/
theorem branching_openPath_pass (matched : Matched word) :
    openPath (branching.pass word) = doubled (openPath word) := by
  rw [branching_grouped.openPath_pass matched]
  refine List.flatMap_congr fun symbol member => ?_
  rcases ne_bracket_of_mem_openPath member with ⟨notOpening, notClosing⟩
  by_cases forward : symbol = 'F'
  · subst forward
    rw [if_pos rfl]
    decide
  · rw [if_neg forward, branching_replacement_of_ne forward, openPath_plain notOpening notClosing]

theorem doubled_cons (symbol : Char) (path : List Char) :
    doubled (symbol :: path) =
      (if symbol = 'F' then ['F', 'F'] else [symbol]) ++ doubled path :=
  List.flatMap_cons

theorem count_doubled (path : List Char) : (doubled path).count 'F' = path.count 'F' * 2 := by
  induction path with
  | nil => rfl
  | cons symbol path inductionHypothesis =>
    rw [doubled_cons, List.count_append, inductionHypothesis]
    by_cases forward : symbol = 'F'
    · subst forward
      have two : ['F', 'F'].count 'F' = 2 := rfl
      rw [if_pos rfl, two, List.count_cons_self]
      omega
    · rw [if_neg forward, List.count_cons_of_ne forward, List.count_cons_of_ne forward,
        List.count_nil, Nat.zero_add]

/-- Segments have no part in the heading about the first axis. -/
theorem foldl_pitched_doubled {C W : Type} [Wide W] [Component C W] (path : List Char)
    (heading : C) : (doubled path).foldl Pose.pitched heading = path.foldl Pose.pitched heading := by
  induction path generalizing heading with
  | nil => rfl
  | cons symbol path inductionHypothesis =>
    rw [doubled_cons, List.foldl_append, inductionHypothesis, List.foldl_cons]
    by_cases forward : symbol = 'F'
    · subst forward
      rfl
    · rw [if_neg forward]
      rfl

/-- The trunk of an expanded word has twice as many segments for every pass. -/
theorem branching_openPath_count (matched : Matched word) (passes : Nat) :
    (openPath (branching.expand passes word)).count 'F' =
      (openPath word).count 'F' * 2 ^ passes := by
  induction passes generalizing word with
  | zero => rw [expand_zero, Nat.pow_zero, Nat.mul_one]
  | succ passes inductionHypothesis =>
    rw [expand_succ, inductionHypothesis ((branching_grouped.pass_nesting word).2.mpr matched),
      branching_openPath_pass matched, count_doubled, Nat.mul_assoc, Nat.pow_succ, Nat.mul_comm 2]

theorem branching_openPath_pitch {C W : Type} [Wide W] [Component C W] (matched : Matched word)
    (passes : Nat) : (Pose.pitchAlong (openPath (branching.expand passes word)) : C) =
      Pose.pitchAlong (openPath word) := by
  induction passes generalizing word with
  | zero => rfl
  | succ passes inductionHypothesis =>
    rw [expand_succ, inductionHypothesis ((branching_grouped.pass_nesting word).2.mpr matched),
      branching_openPath_pass matched]
    exact foldl_pitched_doubled (openPath word) _

end Table
end Rules

variable {C W J : Type} [Wide W] [Component C W] [AngleSource J W]

open Rules

namespace Turtle

/-- A matched word and what it expands to under the branching rule are walked to their ends.  Both
walks have the same heading about the first axis there and the same number of poses saved.  The
trunk of the expanded word has twice as many segments for every pass, each of which has shortened
the next one, while five times as many sways have been drawn. -/
theorem trunk_doubles {word : List Char} (matched : Matched word) (passes : Nat)
    {turtle other : Turtle C W J}
    (enough : AngleSource.Supplies (word.count 'F') turtle.jitter)
    (plenty : AngleSource.Supplies (word.count 'F' * 5 ^ passes) other.jitter) :
    ∃ plain expanded, draw word turtle = .ok () plain ∧
      draw (Table.branching.expand passes word) other = .ok () expanded ∧
      expanded.pose.angle.x = plain.pose.angle.x ∧
      (openPath (Table.branching.expand passes word)).count 'F' =
        (openPath word).count 'F' * 2 ^ passes ∧
      expanded.pose.length = Pose.segmentLength ((openPath word).count 'F' * 2 ^ passes) ∧
      expanded.saved.length = plain.saved.length ∧
      AngleSource.Drawn (word.count 'F') turtle.jitter plain.jitter ∧
      AngleSource.Drawn (word.count 'F' * 5 ^ passes) other.jitter expanded.jitter := by
  rcases Table.branching_grouped.expand_nesting passes word with ⟨levels, both⟩
  have segments := Table.branching_expand_count passes word
  have trunk := Table.branching_openPath_count matched passes
  rcases followAll_of_matched (C := C) matched enough with ⟨plain, walked⟩
  rw [← segments] at plenty ⊢
  rcases followAll_of_matched (C := C) (both.mpr matched) plenty with ⟨expanded, further⟩
  refine ⟨plain, expanded, walked, further, ?_, trunk, ?_, ?_, followAll_drawn walked,
    followAll_drawn further⟩
  · rw [followAll_pitch further, followAll_pitch walked, Table.branching_openPath_pitch matched]
  · rw [followAll_length further, trunk]
  · have before := (followAll_saved_length walked).1
    have after := (followAll_saved_length further).1
    omega

/-- Two passes make eight segments of the two on the trunk of a word with a group left open. -/
theorem leaning_trunk_doubles :
    let word := ['[', 'F', '[', '-', 'F', ']', '+', 'F']
    let turtle : Turtle Float32 Float Jitter := start (.constant (.int 5))
    Matched word ∧ AngleSource.Supplies 3 turtle.jitter ∧ AngleSource.Supplies 75 turtle.jitter ∧
      ∃ plain expanded, draw word turtle = .ok () plain ∧
        draw (Rules.Table.branching.expand 2 word) turtle = .ok () expanded ∧
        expanded.pose.angle.x = plain.pose.angle.x ∧
        expanded.pose.length = Pose.segmentLength 8 ∧ expanded.saved.length = 2 := by
  intro word turtle
  have matched : Matched word := by decide
  have enough : ∀ count, AngleSource.Supplies count turtle.jitter :=
    Jitter.constant_supplies (rfl : Jitter.summand (.int 5) = _)
  have two : (openPath word).count 'F' = 2 := by decide +kernel
  rcases @trunk_doubles Float32 Float Jitter _ _ _ word matched 2 turtle turtle (enough _)
      (enough _) with
      ⟨plain, expanded, walked, further, heading, -, length, same, -⟩
  have size := (sizes_of_draw walked).1
  have opened : word.count '[' = 2 := rfl
  have ended : word.count ']' = 1 := rfl
  have eight : 2 * 2 ^ 2 = 8 := rfl
  rw [two, eight] at length
  exact ⟨matched, enough 3, enough 75, plain, expanded, walked, further, heading, length, by omega⟩

end Turtle
end Arbor
