import Arbor.Proofs.Walk.Segments

/-!
# Open paths

What lies in a group that has been ended is behind a turtle for good: the closing bracket takes it
back to where the group was begun.  The open path of a word is what remains of the word without
such groups and without the brackets of the others.

Along a matched word there are three ways to go on: by a symbol that is no bracket, by a bracket
that begins a group, and by a whole group at once (`Matched.induction`).  The first puts the symbol
on the open path and the other two leave the path as it is, since open paths of matched words add up
(`openPath_append`).
-/

namespace Arbor
namespace Brackets

variable {word more closed : List Char} {symbol : Char} {place : Nat}

/-! ## Brackets left open -/

/-- Groups that are begun and ended behind a matched word leave it matched. -/
theorem Matched.append (matched : Matched word) (onward : Matched more) :
    Matched (word ++ more) := by
  refine (matched_append word more).mpr ⟨matched, fun start beginning => ?_⟩
  have above := (matched_iff more).mp onward start beginning
  have least := matched.level_nonneg
  omega

/-- Each group that a word leaves open was begun by a bracket of the word.  The groups that are open
inside that one are those which the rest of the word leaves open. -/
theorem open_bracket {depth : Nat} (deep : (depth : Int) < level word) :
    ∃ begun rest, word = begun ++ '[' :: rest ∧ Matched rest ∧ level rest = depth := by
  induction word using List.reverseRecOn generalizing depth with
  | nil =>
    have none : level [] = 0 := rfl
    omega
  | append_singleton word symbol inductionHypothesis =>
    rw [level_append] at deep
    by_cases opening : symbol = '['
    · subst opening
      rw [level_opening] at deep
      cases depth with
      | zero => exact ⟨word, [], rfl, matched_nil, rfl⟩
      | succ depth =>
        have shallower : (depth : Int) < level word := by omega
        rcases inductionHypothesis shallower with ⟨begun, rest, rfl, matched, height⟩
        refine ⟨begun, rest ++ ['['], by simp, ?_, ?_⟩
        · rw [matched_concat, level_append, level_opening]
          exact ⟨matched, by omega⟩
        · rw [level_append, level_opening]
          omega
    · by_cases closing : symbol = ']'
      · subst closing
        rw [level_closing] at deep
        have deeper : ((depth + 1 : Nat) : Int) < level word := by omega
        rcases inductionHypothesis deeper with ⟨begun, rest, rfl, matched, height⟩
        refine ⟨begun, rest ++ [']'], by simp, ?_, ?_⟩
        · rw [matched_concat, level_append, level_closing]
          exact ⟨matched, by omega⟩
        · rw [level_append, level_closing]
          omega
      · have balanced := balanced_plain opening closing
        rw [balanced.level_eq, Int.add_zero] at deep
        rcases inductionHypothesis deep with ⟨begun, rest, rfl, matched, height⟩
        refine ⟨begun, rest ++ [symbol], by simp, (balanced.append_matched rest).mpr matched, ?_⟩
        rw [level_append, balanced.level_eq, Int.add_zero, height]

/-- The bracket that ends a word ends a group of the word. -/
theorem group_of_closing (matched : Matched (word ++ [']'])) :
    ∃ begun closed, word = begun ++ '[' :: closed ∧ Balanced closed := by
  have ended := ((matched_concat word ']').mp matched).2
  rw [level_append, level_closing] at ended
  have deep : ((0 : Nat) : Int) < level word := by omega
  rcases open_bracket deep with ⟨begun, closed, same, inside, even⟩
  exact ⟨begun, closed, same, balanced_of_level inside even⟩

/-- A matched word is put together from symbols that are no brackets, brackets that begin a group,
and whole groups. -/
@[elab_as_elim]
theorem Matched.induction {motive : (word : List Char) → Matched word → Prop}
    (nil : motive [] matched_nil)
    (plain : ∀ {word : List Char} {symbol : Char} (_ : symbol ≠ '[') (_ : symbol ≠ ']')
      (before : Matched word) (after : Matched (word ++ [symbol])), motive word before →
        motive (word ++ [symbol]) after)
    (opened : ∀ {word : List Char} (before : Matched word) (after : Matched (word ++ ['['])),
      motive word before → motive (word ++ ['[']) after)
    (group : ∀ {word closed : List Char} (_ : Balanced closed) (before : Matched word)
      (after : Matched (word ++ '[' :: (closed ++ [']']))), motive word before →
        motive (word ++ '[' :: (closed ++ [']'])) after)
    {word : List Char} (matched : Matched word) : motive word matched := by
  -- A whole group is more than one symbol, so the word is taken as shorter than another.
  induction count : word.length using Nat.strong_induction_on generalizing word with
  | _ size inductionHypothesis =>
    rcases List.eq_nil_or_concat' word with rfl | ⟨start, symbol, rfl⟩
    · exact nil
    · have before : Matched start := matched.of_prefix (List.prefix_append start [symbol])
      rw [List.length_append, List.length_singleton] at count
      have shorter := inductionHypothesis start.length (by omega) before rfl
      by_cases opening : symbol = '['
      · subst opening
        exact opened before matched shorter
      · by_cases closing : symbol = ']'
        · subst closing
          rcases group_of_closing matched with ⟨begun, closed, rfl, balanced⟩
          have first : Matched begun := before.of_prefix (List.prefix_append begun _)
          have fewer : begun.length < size := by
            rw [List.length_append] at count
            omega
          have whole : begun ++ '[' :: closed ++ [']'] = begun ++ '[' :: (closed ++ [']']) := by simp
          revert matched
          rw [whole]
          intro matched
          exact group balanced first matched (inductionHypothesis begun.length fewer first rfl)
        · exact plain opening closing before matched shorter

/-! ## Open paths -/

/-- The symbol at a place, unless it is a bracket or lies in a group that the word has ended. -/
def onPath? (word : List Char) (place : Nat) : Option Char :=
  word[place]?.filter fun symbol =>
    symbol ≠ '[' ∧ symbol ≠ ']' ∧ ¬ ClosedOff word place word.length

/-- The symbols of a word, brackets apart, that lie in no group which it has ended. -/
def openPath (word : List Char) : List Char :=
  (List.range word.length).filterMap (onPath? word)

theorem ne_bracket_of_mem_openPath (member : symbol ∈ openPath word) :
    symbol ≠ '[' ∧ symbol ≠ ']' := by
  rcases List.mem_filterMap.mp member with ⟨place, -, there⟩
  have kept := (Option.filter_eq_some_iff.mp there).2
  rw [decide_eq_true_eq] at kept
  exact ⟨kept.1, kept.2.1⟩

theorem mem_of_mem_openPath (member : symbol ∈ openPath word) : symbol ∈ word := by
  rcases List.mem_filterMap.mp member with ⟨place, -, there⟩
  exact List.mem_of_getElem? (Option.filter_eq_some_iff.mp there).1

theorem levelAt_append_right (word more : List Char) (place : Nat) :
    levelAt (word ++ more) (word.length + place) = level word + levelAt more place := by
  rw [levelAt, List.take_length_add_append, level_append, levelAt]

/-- A place is closed off at the end of a matched word if the level has been lower since. -/
theorem closedOff_end_iff (matched : Matched word) (other : word[place]? ≠ some ']') :
    ClosedOff word place word.length ↔ ∃ between, place < between ∧ between ≤ word.length ∧
      levelAt word between < levelAt word place :=
  closedOff_iff (by rwa [List.take_length]) other

/-- A matched word ends no group that was begun before it. -/
theorem closedOff_append_left (matched : Matched word) (onward : Matched more)
    (within : place < word.length) (other : word[place]? ≠ some ']') :
    ClosedOff (word ++ more) place (word ++ more).length ↔ ClosedOff word place word.length := by
  rw [closedOff_end_iff (matched.append onward) (by rwa [List.getElem?_append_left within]),
    closedOff_end_iff matched other, levelAt_append more (Nat.le_of_lt within)]
  constructor
  · rintro ⟨between, behind, upTo, lower⟩
    rcases Nat.le_total between word.length with inside | beyond
    · rw [levelAt_append more inside] at lower
      exact ⟨between, behind, inside, lower⟩
    · rcases Nat.exists_eq_add_of_le beyond with ⟨further, rfl⟩
      have above := (matched_iff more).mp onward _ (List.take_prefix further more)
      rw [levelAt_append_right, levelAt] at lower
      refine ⟨word.length, within, Nat.le_refl _, ?_⟩
      rw [levelAt_length]
      omega
  · rintro ⟨between, behind, upTo, lower⟩
    refine ⟨between, behind, ?_, ?_⟩
    · rw [List.length_append]
      omega
    · rwa [levelAt_append more upTo]

/-- Groups of a matched word do not hang on what is before it. -/
theorem closedOff_append_right (matched : Matched word) (onward : Matched more)
    (other : more[place]? ≠ some ']') :
    ClosedOff (word ++ more) (word.length + place) (word ++ more).length ↔
      ClosedOff more place more.length := by
  have there : (word ++ more)[word.length + place]? = more[place]? := by
    rw [List.getElem?_append_right (Nat.le_add_right _ _), Nat.add_sub_cancel_left]
  rw [closedOff_end_iff (matched.append onward) (by rwa [there]), closedOff_end_iff onward other,
    levelAt_append_right, List.length_append]
  constructor
  · rintro ⟨between, behind, upTo, lower⟩
    have beyond : word.length ≤ between := by omega
    rcases Nat.exists_eq_add_of_le beyond with ⟨further, rfl⟩
    rw [levelAt_append_right] at lower
    exact ⟨further, by omega, by omega, by omega⟩
  · rintro ⟨between, behind, upTo, lower⟩
    refine ⟨word.length + between, by omega, by omega, ?_⟩
    rw [levelAt_append_right]
    omega

theorem onPath?_append_left (matched : Matched word) (onward : Matched more)
    (within : place < word.length) : onPath? (word ++ more) place = onPath? word place := by
  unfold onPath?
  rw [List.getElem?_append_left within]
  by_cases other : word[place]? = some ']'
  · rw [other]
    rfl
  · simp only [closedOff_append_left matched onward within other]

theorem onPath?_append_right (matched : Matched word) (onward : Matched more) (place : Nat) :
    onPath? (word ++ more) (word.length + place) = onPath? more place := by
  unfold onPath?
  rw [List.getElem?_append_right (Nat.le_add_right _ _), Nat.add_sub_cancel_left]
  by_cases other : more[place]? = some ']'
  · rw [other]
    rfl
  · simp only [closedOff_append_right matched onward other]

/-- The places of two words, one after the other, are those of the first and those of the second
behind them. -/
theorem range_length_append (word more : List Char) : List.range (word ++ more).length =
    List.range word.length ++ (List.range more.length).map (word.length + ·) := by
  rw [List.length_append, List.range_add]

/-- Open paths of matched words add up. -/
theorem openPath_append (matched : Matched word) (onward : Matched more) :
    openPath (word ++ more) = openPath word ++ openPath more := by
  have before : ∀ place ∈ List.range word.length,
      onPath? (word ++ more) place = onPath? word place := fun place member =>
    onPath?_append_left matched onward (List.mem_range.mp member)
  have behind : ∀ place ∈ List.range more.length,
      onPath? (word ++ more) (word.length + place) = onPath? more place := fun place _ =>
    onPath?_append_right matched onward place
  unfold openPath
  rw [range_length_append, List.filterMap_append, List.filterMap_map,
    List.filterMap_congr before]
  exact congrArg (_ ++ ·) (List.filterMap_congr behind)

theorem onPath?_plain (notOpening : symbol ≠ '[') (notClosing : symbol ≠ ']') :
    onPath? [symbol] 0 = some symbol := by
  have inNone : ¬ ClosedOff [symbol] 0 1 := by
    rintro ⟨first, before, -⟩
    exact Nat.not_lt_zero first before
  simp [onPath?, notOpening, notClosing, inNone]

theorem openPath_plain (notOpening : symbol ≠ '[') (notClosing : symbol ≠ ']') :
    openPath [symbol] = [symbol] := by
  change [0].filterMap (onPath? [symbol]) = [symbol]
  rw [List.filterMap_cons_some (onPath?_plain notOpening notClosing), List.filterMap_nil]

theorem openPath_opening : openPath ['['] = [] := rfl

/-- A whole group has no open path. -/
theorem openPath_group (balanced : Balanced closed) :
    openPath ('[' :: (closed ++ [']'])) = [] := by
  have last : ('[' :: (closed ++ [']']))[closed.length + 1]? = some ']' := by simp
  have group : Group ('[' :: (closed ++ [']'])) 0 (closed.length + 1) := by
    refine ⟨rfl, last, Nat.succ_pos _, ?_⟩
    simpa using balanced
  refine List.filterMap_eq_nil_iff.mpr fun place member => ?_
  have within := List.mem_range.mp member
  rw [List.length_cons, List.length_append, List.length_singleton] at within
  unfold onPath?
  rcases Nat.eq_zero_or_pos place with rfl | inner
  · rfl
  · rcases Nat.lt_or_ge place (closed.length + 1) with inside | beyond
    · have off : ClosedOff ('[' :: (closed ++ [']'])) place ('[' :: (closed ++ [']'])).length := by
        refine ⟨0, inner, closed.length + 1, ?_, inside, group⟩
        simp
      refine Option.filter_eq_none_iff.mpr fun symbol _ => ?_
      simp only [off, not_true_eq_false, and_false, decide_false, Bool.false_eq_true,
        not_false_eq_true]
    · have same : place = closed.length + 1 := by omega
      rw [same, last]
      rfl

theorem openPath_append_plain (matched : Matched word) (notOpening : symbol ≠ '[')
    (notClosing : symbol ≠ ']') : openPath (word ++ [symbol]) = openPath word ++ [symbol] := by
  rw [openPath_append matched (balanced_plain notOpening notClosing).matched,
    openPath_plain notOpening notClosing]

theorem openPath_append_opening (matched : Matched word) :
    openPath (word ++ ['[']) = openPath word := by
  rw [openPath_append matched (by decide), openPath_opening, List.append_nil]

theorem openPath_append_group (balanced : Balanced closed) (matched : Matched word) :
    openPath (word ++ '[' :: (closed ++ [']'])) = openPath word := by
  rw [openPath_append matched balanced.group.matched, openPath_group balanced, List.append_nil]

example : openPath ['F', '[', '-', 'F', ']', 'F', '[', '+', 'F'] = ['F', 'F', '+', 'F'] := by
  decide +kernel

/-! ## Open segments -/

/-- The number of the segment at a place, unless it lies in a group that the word has ended. -/
def openSegment? (word : List Char) (place : Nat) : Option Nat :=
  if onPath? word place = some 'F' then some ((word.take place).count 'F') else none

/-- The segments on the open path of a word, with the segments of the word numbered from zero. -/
def openSegments (word : List Char) : List Nat :=
  (List.range word.length).filterMap (openSegment? word)

/-- Open segments of matched words add up, with the numbers of the second one going on from those of
the first. -/
theorem openSegments_append (matched : Matched word) (onward : Matched more) :
    openSegments (word ++ more) =
      openSegments word ++ (openSegments more).map (word.count 'F' + ·) := by
  have before : ∀ place ∈ List.range word.length,
      openSegment? (word ++ more) place = openSegment? word place := by
    intro place member
    have within := List.mem_range.mp member
    unfold openSegment?
    rw [onPath?_append_left matched onward within,
      List.take_append_of_le_length (Nat.le_of_lt within)]
  have behind : ∀ place ∈ List.range more.length,
      openSegment? (word ++ more) (word.length + place) =
        (openSegment? more place).map (word.count 'F' + ·) := by
    intro place _
    unfold openSegment?
    rw [onPath?_append_right matched onward, List.take_length_add_append, List.count_append]
    split <;> rfl
  unfold openSegments
  rw [range_length_append, List.filterMap_append, List.filterMap_map,
    List.filterMap_congr before, List.map_filterMap]
  exact congrArg (_ ++ ·) (List.filterMap_congr behind)

theorem openSegments_forward : openSegments ['F'] = [0] := by decide +kernel

/-- Without a segment on the open path there is no open segment. -/
theorem openSegments_of_openPath (none : 'F' ∉ openPath word) : openSegments word = [] := by
  refine List.filterMap_eq_nil_iff.mpr fun place member => ?_
  refine if_neg fun onPath => none ?_
  exact List.mem_filterMap.mpr ⟨place, member, onPath⟩

theorem openSegments_append_of_openPath (matched : Matched word) (onward : Matched more)
    (none : 'F' ∉ openPath more) : openSegments (word ++ more) = openSegments word := by
  rw [openSegments_append matched onward, openSegments_of_openPath none, List.map_nil,
    List.append_nil]

theorem openSegments_append_forward (matched : Matched word) :
    openSegments (word ++ ['F']) = openSegments word ++ [word.count 'F'] := by
  rw [openSegments_append matched (by decide), openSegments_forward]
  rfl

theorem openSegments_append_plain (matched : Matched word) (notOpening : symbol ≠ '[')
    (notClosing : symbol ≠ ']') (other : symbol ≠ 'F') :
    openSegments (word ++ [symbol]) = openSegments word := by
  refine openSegments_append_of_openPath matched (balanced_plain notOpening notClosing).matched ?_
  rw [openPath_plain notOpening notClosing, List.mem_singleton]
  exact other.symm

theorem openSegments_append_opening (matched : Matched word) :
    openSegments (word ++ ['[']) = openSegments word :=
  openSegments_append_of_openPath matched (by decide) (by decide)

theorem openSegments_append_group (balanced : Balanced closed) (matched : Matched word) :
    openSegments (word ++ '[' :: (closed ++ [']'])) = openSegments word := by
  refine openSegments_append_of_openPath matched balanced.group.matched ?_
  rw [openPath_group balanced]
  exact List.not_mem_nil

theorem length_openPath_le (word : List Char) : (openPath word).length ≤ word.length := by
  have bound := List.length_filterMap_le (onPath? word) (List.range word.length)
  rwa [List.length_range] at bound

theorem length_openSegments_le (word : List Char) : (openSegments word).length ≤ word.length := by
  have bound := List.length_filterMap_le (openSegment? word) (List.range word.length)
  rwa [List.length_range] at bound

example : openSegments ['F', '[', '-', 'F', ']', 'F', '[', '+', 'F'] = [0, 2, 3] := by
  decide +kernel

end Brackets
end Arbor
