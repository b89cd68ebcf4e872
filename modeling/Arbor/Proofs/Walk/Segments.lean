import Arbor.Proofs.Walk.Brackets
import Mathlib.Data.Nat.Find

/-!
# Segments among groups

The segments of a word are numbered in the order of the word.  Seen from a later place, a segment
is closed off if it lies in a group that has been ended before.  The segment that precedes another
one in the tree is the last one before it that is not closed off.

A group is ended at the first place at which the level falls below its inside, so a segment is
closed off if and only if the level has been lower since (`closedOff_iff`).  Therefore a segment
can be searched for by levels alone (`trail`), and such a search is easily kept up to date while a
word grows.
-/

namespace Arbor
namespace Brackets

variable {word more : List Char} {symbol : Char} {place start stop later segment : Nat}

/-- The level at a place of a word: that of the symbols before it. -/
def levelAt (word : List Char) (place : Nat) : Int := level (word.take place)

/-- The brackets at two places of a word begin and end the same group. -/
structure Group (word : List Char) (first last : Nat) : Prop where
  begins : word[first]? = some '['
  ends : word[last]? = some ']'
  ordered : first < last
  inside : Balanced ((word.take last).drop (first + 1))

theorem group_iff (word : List Char) (first last : Nat) :
    Group word first last ↔ word[first]? = some '[' ∧ word[last]? = some ']' ∧ first < last ∧
      Balanced ((word.take last).drop (first + 1)) :=
  ⟨fun group => ⟨group.begins, group.ends, group.ordered, group.inside⟩,
    fun ⟨begins, ends, ordered, inside⟩ => ⟨begins, ends, ordered, inside⟩⟩

instance (word : List Char) (first last : Nat) : Decidable (Group word first last) :=
  decidable_of_iff _ (group_iff word first last).symm

/-- A place lies in a group that is ended before a later place. -/
def ClosedOff (word : List Char) (place later : Nat) : Prop :=
  ∃ first < place, ∃ last < later, place < last ∧ Group word first last

instance (word : List Char) (place later : Nat) : Decidable (ClosedOff word place later) :=
  inferInstanceAs (Decidable (∃ first < place, ∃ last < later, place < last ∧
    Group word first last))

/-- The place of a segment, with the segments numbered from zero. -/
def segmentPlace (word : List Char) (segment : Nat) : Nat := word.idxOfNth 'F' segment

/-- The last number below a bound that has a property. -/
def last? (bound : Nat) (property : Nat → Prop) [DecidablePred property] : Option Nat :=
  (List.range bound).reverse.find? property

/-- The last segment before a given one that is not in a group ended before that one. -/
def predecessor? (word : List Char) (segment : Nat) : Option Nat :=
  last? segment fun earlier =>
    ¬ ClosedOff word (segmentPlace word earlier) (segmentPlace word segment)

/-! ## Levels at places -/

theorem levelAt_length (word : List Char) : levelAt word word.length = level word := by
  rw [levelAt, List.take_length]

theorem levelAt_append (more : List Char) (within : place ≤ word.length) :
    levelAt (word ++ more) place = levelAt word place := by
  rw [levelAt, List.take_append_of_le_length within, levelAt]

theorem levelAt_succ (found : word[place]? = some symbol) :
    levelAt word (place + 1) = levelAt word place + level [symbol] := by
  rw [levelAt, List.take_add_one, found, level_append]
  rfl

theorem Matched.levelAt_nonneg (matched : Matched (word.take later)) (before : place ≤ later) :
    0 ≤ levelAt word place :=
  (matched_iff _).mp matched _ (List.take_prefix_take_left before)

/-- From a place to the next, the level is changed by the bracket there, if any. -/
theorem levelAt_step (word : List Char) (place : Nat) :
    word[place]? = some '[' ∧ levelAt word (place + 1) = levelAt word place + 1 ∨
      word[place]? = some ']' ∧ levelAt word (place + 1) = levelAt word place - 1 ∨
      levelAt word (place + 1) = levelAt word place := by
  cases found : word[place]? with
  | none =>
    right; right
    rw [levelAt, levelAt, List.take_add_one, found]
    simp
  | some symbol =>
    rw [levelAt_succ found]
    rcases level_singleton symbol with ⟨rfl, up⟩ | ⟨rfl, down⟩ | plain
    · exact Or.inl ⟨rfl, by omega⟩
    · exact Or.inr (Or.inl ⟨rfl, by omega⟩)
    · exact Or.inr (Or.inr (by omega))

theorem level_slice (ordered : start ≤ stop) :
    level ((word.take stop).drop start) = levelAt word stop - levelAt word start := by
  have parts := level_append ((word.take stop).take start) ((word.take stop).drop start)
  rw [List.take_append_drop, List.take_take, Nat.min_eq_left ordered] at parts
  simp only [levelAt]
  omega

/-! ## Groups -/

/-- The part of a word between two places of the same level is balanced if the level is not lower in
between. -/
theorem balanced_slice (ordered : start ≤ stop) (even : levelAt word stop = levelAt word start)
    (above : ∀ between, start ≤ between → between ≤ stop →
      levelAt word start ≤ levelAt word between) :
    Balanced ((word.take stop).drop start) := by
  refine balanced_of_level ((matched_iff _).mpr fun part beginning => ?_) ?_
  · have short : part.length ≤ stop - start := by
      refine beginning.length_le.trans ?_
      simp
      omega
    have same : part = (word.take (start + part.length)).drop start := by
      have taken := List.prefix_iff_eq_take.mp beginning
      rw [List.drop_take, List.take_take, Nat.min_eq_left short] at taken
      rw [List.drop_take, Nat.add_sub_cancel_left]
      exact taken
    have higher := above (start + part.length) (by omega) (by omega)
    rw [same, level_slice (by omega)]
    omega
  · rw [level_slice ordered]
    omega

namespace Group

variable {first last between : Nat}

theorem levelAt_inside (group : Group word first last) (after : first < between)
    (before : between ≤ last) : levelAt word first < levelAt word between := by
  have opened := levelAt_succ group.begins
  have beginning : (word.take between).drop (first + 1) <+: (word.take last).drop (first + 1) :=
    (List.take_prefix_take_left before).drop (first + 1)
  have nonneg := (matched_iff _).mp group.inside.matched _ beginning
  have ordered : first + 1 ≤ between := after
  rw [level_slice ordered] at nonneg
  rw [level_opening] at opened
  omega

theorem levelAt_beyond (group : Group word first last) :
    levelAt word (last + 1) = levelAt word first := by
  have opened := levelAt_succ group.begins
  have closed := levelAt_succ group.ends
  have even := group.inside.level_eq
  have ordered : first + 1 ≤ last := group.ordered
  rw [level_slice ordered] at even
  rw [level_opening] at opened
  rw [level_closing] at closed
  omega

end Group

/-- Where the level is lower for the first time, a group is ended that was begun before. -/
theorem first_descent (lower : ∃ between, place < between ∧ between ≤ later ∧
      levelAt word between < levelAt word place) :
    ∃ last, place ≤ last ∧ last < later ∧ word[last]? = some ']' ∧
      levelAt word last = levelAt word place ∧
      ∀ between, place ≤ between → between ≤ last → levelAt word place ≤ levelAt word between := by
  have least : ∀ between, between < Nat.find lower → place ≤ between →
      levelAt word place ≤ levelAt word between := by
    intro between earlier behind
    by_contra below
    have strict : place < between := by
      refine Nat.lt_of_le_of_ne behind fun same => below ?_
      exact Int.le_of_eq (congrArg (levelAt word) same)
    have upTo := (Nat.find_spec lower).2.1
    exact Nat.find_min lower earlier ⟨strict, by omega, by omega⟩
  rcases Nat.find_spec lower with ⟨behind, upTo, below⟩
  generalize Nat.find lower = stop at least behind upTo below
  cases stop with
  | zero => omega
  | succ last =>
    have above := least last (Nat.lt_succ_self last) (by omega)
    refine ⟨last, by omega, by omega, ?_⟩
    rcases levelAt_step word last with ⟨-, up⟩ | ⟨closing, down⟩ | same
    · omega
    · exact ⟨closing, by omega, fun between since upTo => least between (by omega) since⟩
    · omega

/-- Where the level was lower for the last time, the group is begun that is open since. -/
theorem last_ascent (nested : 0 < levelAt word place) :
    ∃ first < place, word[first]? = some '[' ∧
      levelAt word (first + 1) = levelAt word place ∧
      ∀ between, first < between → between ≤ place →
        levelAt word place ≤ levelAt word between := by
  have lower := Nat.findGreatest_spec
    (P := fun first => levelAt word first < levelAt word place) (Nat.zero_le place) nested
  have bound := Nat.findGreatest_le
    (P := fun first => levelAt word first < levelAt word place) place
  have greatest : ∀ between,
      Nat.findGreatest (fun first => levelAt word first < levelAt word place) place < between →
        between ≤ place → levelAt word place ≤ levelAt word between := by
    intro between later upTo
    exact Int.not_lt.mp (Nat.findGreatest_is_greatest later upTo)
  generalize Nat.findGreatest (fun first => levelAt word first < levelAt word place) place = first
    at lower bound greatest
  have before : first < place := by
    refine Nat.lt_of_le_of_ne bound fun same => ?_
    rw [same] at lower
    omega
  have above := greatest (first + 1) (Nat.lt_succ_self first) before
  refine ⟨first, before, ?_⟩
  rcases levelAt_step word first with ⟨opening, up⟩ | ⟨-, down⟩ | same
  · exact ⟨opening, by omega, greatest⟩
  · omega
  · omega

/-- A place where no group is ended is closed off as soon as the level has been lower since. -/
theorem closedOff_iff (matched : Matched (word.take later)) (other : word[place]? ≠ some ']') :
    ClosedOff word place later ↔
      ∃ between, place < between ∧ between ≤ later ∧ levelAt word between < levelAt word place := by
  constructor
  · rintro ⟨first, opened, last, closed, within, group⟩
    have inside := group.levelAt_inside opened (Nat.le_of_lt within)
    have beyond := group.levelAt_beyond
    exact ⟨last + 1, by omega, by omega, by omega⟩
  · intro lower
    have nested : 0 < levelAt word place := by
      rcases lower with ⟨between, -, upTo, below⟩
      have least := matched.levelAt_nonneg upTo
      omega
    rcases first_descent lower with ⟨last, behind, before, closing, even, onward⟩
    rcases last_ascent nested with ⟨first, opened, opening, begun, back⟩
    have apart : place < last := by
      refine Nat.lt_of_le_of_ne behind fun same => other ?_
      rw [same]
      exact closing
    refine ⟨first, opened, last, before, apart, opening, closing, by omega, ?_⟩
    refine balanced_slice (by omega) (by omega) fun between since upTo => ?_
    rw [begun]
    rcases Nat.le_total between place with early | late
    · exact back between since early
    · exact onward between late upTo

/-! ## Numbers of segments -/

theorem segmentPlace_append (more : List Char) (counted : segment < word.count 'F') :
    segmentPlace (word ++ more) segment = segmentPlace word segment := by
  unfold segmentPlace
  induction word generalizing segment with
  | nil => simp at counted
  | cons symbol word inductionHypothesis =>
    by_cases forward : symbol = 'F'
    · subst forward
      cases segment with
      | zero => simp
      | succ segment =>
        have fewer : segment < word.count 'F' := by simpa using counted
        simpa using inductionHypothesis fewer
    · have fewer : segment < word.count 'F' := by simpa [forward] using counted
      have other : (symbol == 'F') = false := by simpa using forward
      rw [List.cons_append, List.idxOfNth_cons_of_not_beq other,
        List.idxOfNth_cons_of_not_beq other, inductionHypothesis fewer]

theorem segmentPlace_count (word more : List Char) :
    segmentPlace (word ++ 'F' :: more) (word.count 'F') = word.length := by
  unfold segmentPlace
  induction word with
  | nil => simp
  | cons symbol word inductionHypothesis =>
    by_cases forward : symbol = 'F'
    · subst forward
      simpa using inductionHypothesis
    · have other : (symbol == 'F') = false := by simpa using forward
      rw [List.cons_append, List.idxOfNth_cons_of_not_beq other, List.count_cons_of_ne forward,
        inductionHypothesis, List.length_cons]

theorem segmentPlace_lt (counted : segment < word.count 'F') :
    segmentPlace word segment < word.length :=
  List.idxOfNth_lt_length_of_lt_count counted

theorem getElem?_segmentPlace (counted : segment < word.count 'F') :
    word[segmentPlace word segment]? = some 'F' := by
  rw [List.getElem?_eq_getElem (segmentPlace_lt counted)]
  exact congrArg some List.getElem_idxOfNth_eq

/-- Every segment cuts its word in two. -/
theorem cut_at_segment (counted : segment < word.count 'F') :
    ∃ done rest, word = done ++ 'F' :: rest ∧ done.count 'F' = segment := by
  have within := segmentPlace_lt counted
  refine ⟨word.take (segmentPlace word segment), word.drop (segmentPlace word segment + 1), ?_, ?_⟩
  · have forward : word[segmentPlace word segment] = 'F' := List.getElem_idxOfNth_eq
    rw [← forward, ← List.drop_eq_getElem_cons within, List.take_append_drop]
  · rw [← List.countBefore_eq_count_take]
    exact List.countBefore_idxOfNth_of_lt_count counted

/-! ## The last segment with a property -/

theorem last?_succ (bound : Nat) (property : Nat → Prop) [DecidablePred property] :
    last? (bound + 1) property = if property bound then some bound else last? bound property := by
  unfold last?
  rw [List.range_succ, List.reverse_append]
  by_cases holds : property bound <;> simp [holds]

theorem last?_congr {bound : Nat} {first second : Nat → Prop} [DecidablePred first]
    [DecidablePred second] (same : ∀ number < bound, (first number ↔ second number)) :
    last? bound first = last? bound second := by
  induction bound with
  | zero => rfl
  | succ bound inductionHypothesis =>
    have earlier := inductionHypothesis fun number before => same number (by omega)
    have here := same bound (Nat.lt_succ_self bound)
    rw [last?_succ, last?_succ, earlier]
    simp only [here]

/-! ## Trails -/

/-- The level at a place is not above a height, and it has not been lower since. -/
structure OpenAt (word : List Char) (height : Int) (place : Nat) : Prop where
  low : levelAt word place ≤ height
  since : ∀ between ≤ word.length, place < between → levelAt word place ≤ levelAt word between

theorem openAt_iff (word : List Char) (height : Int) (place : Nat) :
    OpenAt word height place ↔ levelAt word place ≤ height ∧
      ∀ between ≤ word.length, place < between → levelAt word place ≤ levelAt word between :=
  ⟨fun isOpen => ⟨isOpen.low, isOpen.since⟩, fun both => ⟨both.1, both.2⟩⟩

instance (word : List Char) (height : Int) (place : Nat) : Decidable (OpenAt word height place) :=
  decidable_of_iff _ (openAt_iff word height place).symm

/-- The last segment that a turtle at the end of the word has come by if it goes back to a level
that is not above a height. -/
def trail (word : List Char) (height : Int) : Option Nat :=
  last? (word.count 'F') fun segment => OpenAt word height (segmentPlace word segment)

theorem OpenAt.low_end {height : Int} (isOpen : OpenAt word height place)
    (within : place < word.length) : levelAt word place ≤ level word := by
  rw [← levelAt_length word]
  exact isOpen.since word.length (Nat.le_refl _) within

theorem openAt_concat {height : Int} (within : place < word.length) :
    OpenAt (word ++ [symbol]) height place ↔
      OpenAt word height place ∧ levelAt word place ≤ level (word ++ [symbol]) := by
  have here := levelAt_append [symbol] (Nat.le_of_lt within)
  have size : (word ++ [symbol]).length = word.length + 1 := by simp
  constructor
  · rintro ⟨low, since⟩
    rw [here] at low since
    refine ⟨⟨low, fun between upTo behind => ?_⟩, ?_⟩
    · rw [← levelAt_append [symbol] upTo]
      exact since between (by omega) behind
    · rw [← levelAt_length]
      exact since _ (Nat.le_refl _) (by omega)
  · rintro ⟨⟨low, since⟩, last⟩
    refine ⟨by rwa [here], fun between upTo behind => ?_⟩
    rw [here]
    rcases Nat.lt_or_ge word.length between with whole | part
    · have ending : between = (word ++ [symbol]).length := by omega
      rw [ending, levelAt_length]
      exact last
    · rw [levelAt_append [symbol] part]
      exact since between part behind

/-- Going back above the present level comes by the same segments as going back to it. -/
theorem trail_of_level_le {height : Int} (above : level word ≤ height) :
    trail word height = trail word (level word) := by
  refine last?_congr fun segment counted => ?_
  have within := segmentPlace_lt counted
  constructor
  · intro isOpen
    exact ⟨isOpen.low_end within, isOpen.since⟩
  · rintro ⟨low, since⟩
    exact ⟨Int.le_trans low above, since⟩

/-- Segments that were behind already are still come by as long as the level does not fall below
the height. -/
theorem openAt_concat_of_le {height : Int}
    (low : min height (level word) ≤ level (word ++ [symbol])) (counted : segment < word.count 'F') :
    OpenAt (word ++ [symbol]) height (segmentPlace (word ++ [symbol]) segment) ↔
      OpenAt word height (segmentPlace word segment) := by
  have within := segmentPlace_lt counted
  rw [segmentPlace_append [symbol] counted, openAt_concat within]
  refine and_iff_left_of_imp fun isOpen => ?_
  exact Int.le_trans (Int.le_min.mpr ⟨isOpen.low, isOpen.low_end within⟩) low

theorem trail_concat {height : Int} (other : symbol ≠ 'F')
    (low : min height (level word) ≤ level (word ++ [symbol])) :
    trail (word ++ [symbol]) height = trail word height := by
  have same : (word ++ [symbol]).count 'F' = word.count 'F' := by simp [other]
  unfold trail
  rw [same]
  exact last?_congr fun segment counted => openAt_concat_of_le low counted

theorem level_concat_forward (word : List Char) : level (word ++ ['F']) = level word := by
  rw [level_append, level_plain (by decide) (by decide), Int.add_zero]

theorem openAt_segment (word : List Char) (height : Int) :
    OpenAt (word ++ ['F']) height (segmentPlace (word ++ ['F']) (word.count 'F')) ↔
      level word ≤ height := by
  have here : levelAt (word ++ ['F']) word.length = level word := by
    rw [levelAt_append ['F'] (Nat.le_refl _), levelAt_length]
  rw [segmentPlace_count]
  constructor
  · rintro ⟨low, -⟩
    rwa [here] at low
  · intro low
    refine ⟨by rwa [here], fun between upTo behind => ?_⟩
    have ending : between = (word ++ ['F']).length := by
      rw [List.length_append, List.length_singleton] at upTo ⊢
      omega
    rw [here, ending, levelAt_length]
    exact Int.le_of_eq (level_concat_forward word).symm

theorem trail_concat_forward {height : Int} :
    trail (word ++ ['F']) height =
      if level word ≤ height then some (word.count 'F') else trail word height := by
  have more : (word ++ ['F']).count 'F' = word.count 'F' + 1 := by simp
  have low : min height (level word) ≤ level (word ++ ['F']) := by
    rw [level_concat_forward]
    exact Int.min_le_right _ _
  unfold trail
  rw [more, last?_succ]
  simp only [openAt_segment]
  congr 1
  exact last?_congr fun segment counted => openAt_concat_of_le low counted

/-- A segment continues the last one that a turtle has come by at the present level. -/
theorem predecessor?_eq_trail {done : List Char} (matched : Matched done) (rest : List Char) :
    predecessor? (done ++ 'F' :: rest) (done.count 'F') = trail done (level done) := by
  refine last?_congr fun segment counted => ?_
  have within := segmentPlace_lt counted
  have upTo : (done ++ 'F' :: rest).take done.length = done := List.take_left
  have forward : (done ++ 'F' :: rest)[segmentPlace done segment]? ≠ some ']' := by
    rw [List.getElem?_append_left within, getElem?_segmentPlace counted]
    decide
  rw [segmentPlace_append _ counted, segmentPlace_count,
    closedOff_iff (by rwa [upTo]) forward]
  constructor
  · intro never
    have since : ∀ between ≤ done.length, segmentPlace done segment < between →
        levelAt done (segmentPlace done segment) ≤ levelAt done between := by
      intro between upTo behind
      by_contra lower
      refine never ⟨between, behind, upTo, ?_⟩
      rw [levelAt_append _ upTo, levelAt_append _ (Nat.le_of_lt within)]
      omega
    refine ⟨?_, since⟩
    rw [← levelAt_length done]
    exact since done.length (Nat.le_refl _) within
  · rintro isOpen ⟨between, behind, upTo, lower⟩
    rw [levelAt_append _ upTo, levelAt_append _ (Nat.le_of_lt within)] at lower
    have bound := isOpen.since between upTo behind
    omega

end Brackets
end Arbor
