import Arbor.Settings

/-!
# Checking settings

Settings are accepted if their start word is a text and their number of passes a whole number within
bounds.  Whatever else they hold, they are refused as a configuration and for no other kind of
reason.
-/

namespace Arbor

variable {R : Type}

/-- A number of passes is accepted as it is, or refused as a configuration. -/
theorem checkIterations_cases (value : Value) :
    (∃ passes, value = .int passes.1 ∧ checkIterations value = .ok passes) ∨
      ∃ failure, checkIterations value = .error failure ∧ failure.kind = .configuration := by
  cases value with
  | int count =>
    by_cases inRange : 0 ≤ count ∧ count ≤ greatestIterations
    · have same : count = count.toNat := (Int.toNat_of_nonneg inRange.1).symm
      exact Or.inl ⟨⟨count.toNat, by omega⟩, congrArg Value.int same, dif_pos inRange⟩
    · exact Or.inr ⟨_, dif_neg inRange, rfl⟩
  | _ => exact Or.inr ⟨_, rfl, rfl⟩

namespace Settings

/-- The settings with another start word or number of passes, where one is given. -/
def overridden (settings : Settings R) (start iterations : Option Value) : Settings R :=
  { settings with
    start := start.getD settings.start
    iterations := iterations.getD settings.iterations }

/-- Settings stand for the growth that their start word and number of passes say, or are refused as
a configuration. -/
theorem validate_cases (settings : Settings R) :
    (∃ text growth, settings.start = .text text ∧ growth.start = text.toList ∧
        settings.iterations = .int growth.passes ∧ settings.validate = .ok growth) ∨
      ∃ failure, settings.validate = .error failure ∧ failure.kind = .configuration := by
  unfold validate checkGrowth
  cases starts : settings.start with
  | text start =>
    rcases checkIterations_cases settings.iterations with
        ⟨passes, counts, accepted⟩ | ⟨failure, refused, kind⟩
    · refine Or.inl ⟨start, ⟨start.toList, passes.1, passes.2⟩, rfl, rfl, counts, ?_⟩
      simp only [accepted]
    · refine Or.inr ⟨failure, ?_, kind⟩
      simp only [refused]
  | _ => exact Or.inr ⟨_, rfl, rfl⟩

variable {settings : Settings R} {growth : Growth}

/-- A text and a small number of passes are valid. -/
theorem validate_of_text {text : String} {passes : Nat} (starts : settings.start = .text text)
    (counts : settings.iterations = .int passes) (few : passes ≤ greatestIterations) :
    settings.validate = .ok ⟨text.toList, passes, few⟩ := by
  have inRange : 0 ≤ (passes : Int) ∧ (passes : Int) ≤ greatestIterations := by omega
  simp only [validate, checkGrowth, starts, counts, checkIterations, dif_pos inRange, Int.toNat_natCast]

theorem start_of_valid (valid : settings.validate = .ok growth) :
    ∃ text, settings.start = .text text := by
  rcases settings.validate_cases with ⟨text, _, starts, -, -, -⟩ | ⟨failure, refused, -⟩
  · exact ⟨text, starts⟩
  · cases refused.symm.trans valid

theorem kind_of_invalid {failure : Failure} (invalid : settings.validate = .error failure) :
    failure.kind = .configuration := by
  rcases settings.validate_cases with ⟨text, growth, -, -, -, valid⟩ | ⟨other, refused, kind⟩
  · cases valid.symm.trans invalid
  · cases refused.symm.trans invalid
    exact kind

end Settings

end Arbor
