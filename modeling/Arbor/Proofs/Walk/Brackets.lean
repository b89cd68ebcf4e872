import Mathlib.Data.List.Infix
import Mathlib.Data.List.Range

/-!
# Brackets in words

An opening bracket begins a group, and a closing one ends the group that was begun last.  A word is
matched if it never ends a group that it has not begun; groups may stay open at its end.  Whatever
concerns the nesting of groups follows from the level of a word, which is the number of groups that
it begins beyond those that it ends: levels add up along a word, and one that is not matched has a
first place at which its level falls below zero.
-/

namespace Arbor
namespace Brackets

/-- The number of groups that a word begins beyond those that it ends. -/
def level (word : List Char) : Int := word.count '[' - word.count ']'

/-- No beginning of the word has more closing brackets than opening ones. -/
def Matched (word : List Char) : Prop :=
  ∀ start ∈ word.inits, start.count ']' ≤ start.count '['

instance (word : List Char) : Decidable (Matched word) :=
  inferInstanceAs (Decidable (∀ start ∈ word.inits, start.count ']' ≤ start.count '['))

/-- A matched word that ends all the groups that it begins. -/
structure Balanced (word : List Char) : Prop where
  matched : Matched word
  closed : word.count ']' = word.count '['

theorem balanced_iff (word : List Char) :
    Balanced word ↔ Matched word ∧ word.count ']' = word.count '[' :=
  ⟨fun balanced => ⟨balanced.matched, balanced.closed⟩, fun both => ⟨both.1, both.2⟩⟩

instance (word : List Char) : Decidable (Balanced word) :=
  decidable_of_iff _ (balanced_iff word).symm

/-! ## Levels -/

@[simp] theorem level_append (first second : List Char) :
    level (first ++ second) = level first + level second := by
  simp only [level, List.count_append]
  omega

@[simp] theorem level_opening : level ['['] = 1 := rfl

@[simp] theorem level_closing : level [']'] = -1 := rfl

theorem level_cons (symbol : Char) (word : List Char) :
    level (symbol :: word) = level [symbol] + level word :=
  level_append [symbol] word

/-- Other symbols than brackets do not count. -/
theorem level_plain {symbol : Char} (notOpening : symbol ≠ '[') (notClosing : symbol ≠ ']') :
    level [symbol] = 0 := by
  simp [level, notOpening, notClosing]

theorem level_singleton (symbol : Char) :
    symbol = '[' ∧ level [symbol] = 1 ∨ symbol = ']' ∧ level [symbol] = -1 ∨
      level [symbol] = 0 := by
  by_cases opening : symbol = '['
  · subst opening
    simp
  · by_cases closing : symbol = ']'
    · subst closing
      simp
    · exact Or.inr (Or.inr (level_plain opening closing))

/-! ## Matched words -/

theorem matched_iff (word : List Char) :
    Matched word ↔ ∀ start, start <+: word → 0 ≤ level start := by
  simp only [Matched, List.mem_inits, level]
  constructor
  · intro matched start beginning
    have bound := matched start beginning
    omega
  · intro levels start beginning
    have bound := levels start beginning
    omega

theorem matched_nil : Matched [] := by decide

theorem Matched.of_prefix {start word : List Char} (matched : Matched word)
    (beginning : start <+: word) : Matched start := by
  rw [matched_iff] at matched ⊢
  intro shorter before
  exact matched shorter (before.trans beginning)

theorem Matched.level_nonneg {word : List Char} (matched : Matched word) : 0 ≤ level word :=
  (matched_iff word).mp matched word (List.prefix_refl word)

theorem Balanced.level_eq {word : List Char} (balanced : Balanced word) : level word = 0 := by
  have closed := balanced.closed
  simp only [level]
  omega

theorem balanced_of_level {word : List Char} (matched : Matched word) (even : level word = 0) :
    Balanced word := by
  refine ⟨matched, ?_⟩
  simp only [level] at even
  omega

/-- The second part of a matched word may end groups of the first. -/
theorem matched_append (first second : List Char) :
    Matched (first ++ second) ↔
      Matched first ∧ ∀ start, start <+: second → 0 ≤ level first + level start := by
  constructor
  · intro matched
    refine ⟨matched.of_prefix (List.prefix_append first second), fun start beginning => ?_⟩
    rw [← level_append]
    exact (matched_iff _).mp matched _ ((List.prefix_append_right_inj first).mpr beginning)
  · rintro ⟨matched, onward⟩
    rw [matched_iff] at matched ⊢
    intro start beginning
    rcases List.prefix_or_prefix_of_prefix beginning (List.prefix_append first second) with
        inside | across
    · exact matched start inside
    · rcases across with ⟨more, rfl⟩
      rw [level_append]
      exact onward more ((List.prefix_append_right_inj first).mp beginning)

theorem matched_concat (word : List Char) (symbol : Char) :
    Matched (word ++ [symbol]) ↔ Matched word ∧ 0 ≤ level (word ++ [symbol]) := by
  constructor
  · intro matched
    exact ⟨matched.of_prefix (List.prefix_append word [symbol]), matched.level_nonneg⟩
  · rintro ⟨matched, level⟩
    rw [matched_iff] at matched ⊢
    intro start beginning
    rcases List.prefix_concat_iff.mp beginning with whole | before
    · exact whole ▸ level
    · exact matched start before

/-- A balanced word in front makes no difference. -/
theorem Balanced.matched_append {first : List Char} (balanced : Balanced first)
    (second : List Char) : Matched (first ++ second) ↔ Matched second := by
  rw [Brackets.matched_append, balanced.level_eq, matched_iff second]
  simp only [Int.zero_add, balanced.matched, true_and]

/-- Neither does one behind. -/
theorem Balanced.append_matched {second : List Char} (balanced : Balanced second)
    (first : List Char) : Matched (first ++ second) ↔ Matched first := by
  rw [Brackets.matched_append]
  refine and_iff_left_of_imp fun matched start beginning => ?_
  have before := matched.level_nonneg
  have inside := (matched_iff second).mp balanced.matched start beginning
  omega

theorem balanced_plain {symbol : Char} (notOpening : symbol ≠ '[') (notClosing : symbol ≠ ']') :
    Balanced [symbol] := by
  have even := level_plain notOpening notClosing
  refine balanced_of_level ((matched_concat [] symbol).mpr ⟨matched_nil, ?_⟩) even
  exact Int.le_of_eq even.symm

theorem matched_cons_plain {symbol : Char} (notOpening : symbol ≠ '[') (notClosing : symbol ≠ ']')
    (word : List Char) : Matched (symbol :: word) ↔ Matched word :=
  (balanced_plain notOpening notClosing).matched_append word

theorem level_cons_plain {symbol : Char} (notOpening : symbol ≠ '[') (notClosing : symbol ≠ ']')
    (word : List Char) : level (symbol :: word) = level word := by
  rw [level_cons, level_plain notOpening notClosing, Int.zero_add]

/-- A group is balanced. -/
theorem Balanced.group {inside : List Char} (balanced : Balanced inside) :
    Balanced ('[' :: (inside ++ [']'])) := by
  have begun : Matched ('[' :: inside) := by
    refine (Brackets.matched_append ['['] inside).mpr ⟨by decide, fun start beginning => ?_⟩
    have within := (matched_iff inside).mp balanced.matched start beginning
    rw [level_opening]
    omega
  have even : level (('[' :: inside) ++ [']']) = 0 := by
    rw [level_append, level_cons, balanced.level_eq]
    rfl
  have ended : Matched (('[' :: inside) ++ [']']) :=
    (matched_concat ('[' :: inside) ']').mpr ⟨begun, Int.le_of_eq even.symm⟩
  exact balanced_of_level ended even

/-! ## Stray brackets -/

/-- A closing bracket behind a balanced word ends no group. -/
theorem Balanced.not_matched {closed : List Char} (balanced : Balanced closed) (rest : List Char) :
    ¬ Matched (closed ++ ']' :: rest) := by
  rw [balanced.matched_append]
  intro matched
  have first := (matched_iff _).mp matched [']'] ⟨rest, rfl⟩
  simp at first

/-- A word that is not matched has a first closing bracket that ends no group. -/
theorem matched_or_stray (word : List Char) :
    Matched word ∨ ∃ closed rest, word = closed ++ ']' :: rest ∧ Balanced closed := by
  induction word using List.reverseRecOn with
  | nil => exact Or.inl matched_nil
  | append_singleton word symbol inductionHypothesis =>
    rcases inductionHypothesis with matched | ⟨closed, rest, rfl, balanced⟩
    · by_cases within : 0 ≤ level (word ++ [symbol])
      · exact Or.inl ((matched_concat word symbol).mpr ⟨matched, within⟩)
      · have before := matched.level_nonneg
        rw [level_append] at within
        rcases level_singleton symbol with ⟨-, up⟩ | ⟨rfl, down⟩ | plain
        · omega
        · exact Or.inr ⟨word, [], rfl, balanced_of_level matched (by omega)⟩
        · omega
    · exact Or.inr ⟨closed, rest ++ [symbol], by simp, balanced⟩

/-! ## Inside and beyond a group -/

/-- The place of the bracket that ends the group which a word stands in from its start: the first
closing bracket that ends no group of the word itself. -/
def closing? (word : List Char) : Option Nat :=
  (List.range word.length).find? fun place => ¬ Matched (word.take (place + 1))

/-- The part of a word inside the group that it stands in: all of it, if the group is never
ended. -/
def inside (word : List Char) : List Char :=
  match closing? word with
  | some place => word.take place
  | none => word

/-- The part of a word beyond the group that it stands in. -/
def beyond (word : List Char) : List Char :=
  match closing? word with
  | some place => word.drop (place + 1)
  | none => []

theorem length_inside_le (word : List Char) : (inside word).length ≤ word.length := by
  unfold inside
  cases closing? word with
  | none => exact Nat.le_refl _
  | some place => exact List.length_take_le' place word

theorem length_beyond_le (word : List Char) : (beyond word).length ≤ word.length := by
  unfold beyond
  cases closing? word with
  | none => exact Nat.zero_le _
  | some place => simp

theorem closing?_of_matched {word : List Char} (matched : Matched word) :
    closing? word = none := by
  simp only [closing?, List.find?_range_eq_none]
  intro place _
  simpa using matched.of_prefix (List.take_prefix (place + 1) word)

theorem closing?_of_stray {closed : List Char} (balanced : Balanced closed) (rest : List Char) :
    closing? (closed ++ ']' :: rest) = some closed.length := by
  simp only [closing?, List.find?_range_eq_some]
  refine ⟨?_, by simp, fun place before => ?_⟩
  · have upTo : (closed ++ ']' :: rest).take (closed.length + 1) = closed ++ ']' :: [] := by
      simp [List.take_append]
    simpa [upTo] using balanced.not_matched []
  · have early : (closed ++ ']' :: rest).take (place + 1) = closed.take (place + 1) :=
      List.take_append_of_le_length before
    simpa [early] using balanced.matched.of_prefix (List.take_prefix (place + 1) closed)

/-- A word that stands in a group which is never ended is all inside. -/
theorem parts_of_matched {word : List Char} (matched : Matched word) :
    inside word = word ∧ beyond word = [] := by
  unfold inside beyond
  rw [closing?_of_matched matched]
  exact ⟨rfl, rfl⟩

/-- A word that stands in a group falls into what is before the bracket that ends it and what is
behind. -/
theorem parts_of_stray {closed : List Char} (balanced : Balanced closed) (rest : List Char) :
    inside (closed ++ ']' :: rest) = closed ∧ beyond (closed ++ ']' :: rest) = rest := by
  unfold inside beyond
  rw [closing?_of_stray balanced]
  constructor
  · exact List.take_left
  · simp [List.drop_append]

/-- The first stray bracket of a word has one place. -/
theorem stray_unique {closed other rest others : List Char} (balanced : Balanced closed)
    (alike : Balanced other) (same : closed ++ ']' :: rest = other ++ ']' :: others) :
    closed = other := by
  have places := closing?_of_stray balanced rest
  rw [same, closing?_of_stray alike] at places
  exact (List.append_inj same (Option.some.inj places).symm).1

end Brackets
end Arbor
