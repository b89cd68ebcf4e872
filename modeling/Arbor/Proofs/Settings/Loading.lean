import Arbor.Proofs.Act
import Arbor.Proofs.Settings.Checking
import Arbor.Settings.Table

/-!
# Loading settings from a table

A loaded number of passes need not be whole or within bounds, since its fraction is dropped and the
rest is moved into the allowed range.  So a table gives settings that are accepted whenever it names
only settings, its start word is a text and its number of passes has a whole part; and every other
table is refused as a configuration, with one exception.  A number of passes that is no finite
number passes for a number, and it is its missing whole part that the loading fails for.
-/

namespace Arbor

open Number

namespace Settings

variable {entries : List (String × Value)} {given : Value} {number : Float} {log : Log}

/-- The whole part of a loose number of passes, if it is a number that has one. -/
def wholeOf? : Value → Option Int
  | .int count => some count
  | .real number => (readDouble number).truncate?
  | _ => none

/-- A table gives settings: it has entries for settings only, its start word is a text, and its
number of passes has a whole part. -/
structure Loadable (entries : List (String × Value)) : Prop where
  known : ∀ entry ∈ entries, entry.1 ∈ names
  start : ∃ text, (fromTable entries).start = .text text
  iterations : ∀ given, valueFor? entries "iterations" = some given → (wholeOf? given).isSome

/-- A table has entries for settings only, but its number of passes is not finite. -/
def Endless (entries : List (String × Value)) : Prop :=
  (∀ entry ∈ entries, entry.1 ∈ names) ∧
    ∃ number, valueFor? entries "iterations" = some (.real number) ∧
      (readDouble number = .nan ∨ ∃ negative, readDouble number = .infinite negative)

/-! ## Numbers of passes -/

/-- What has been moved into the allowed range is a small number of passes. -/
theorem clamp_cases (count : Int) :
    ∃ passes : Nat, passes ≤ greatestIterations ∧ clamp count = passes := by
  refine ⟨(clamp count).toNat, ?_, ?_⟩ <;> unfold clamp greatestIterations <;> omega

theorem wholePart_of_finite {whole : Int} (reads : (readDouble number).truncate? = some whole) :
    wholePart number = .ok whole := by
  unfold wholePart
  cases reading : readDouble number with
  | nan =>
    rw [reading] at reads
    cases reads
  | infinite negative =>
    rw [reading] at reads
    cases reads
  | finite negative mantissa exponent =>
    rw [reading] at reads
    simp only [reads, Option.getD_some]

/-- A loose number of passes that has a whole part is moved into the allowed range. -/
theorem clampIterations_of_whole {whole : Int} (has : wholeOf? given = some whole) :
    ∃ changed, clampIterations given = .ok (clamp whole, changed) := by
  cases given with
  | int count =>
    cases has
    exact ⟨_, rfl⟩
  | real number =>
    have parts : wholePart number = .ok whole := wholePart_of_finite has
    simp only [clampIterations, parts]
    exact ⟨_, rfl⟩
  | _ => cases has

theorem clampIterations_of_nan (reads : readDouble number = .nan) :
    clampIterations (.real number) = .error ⟨.wholePartOfNan, [], []⟩ := by
  simp only [clampIterations, wholePart, reads]
  rfl

theorem clampIterations_of_infinite {negative : Bool}
    (reads : readDouble number = .infinite negative) :
    clampIterations (.real number) = .error ⟨.wholePartOfInfinity, [], []⟩ := by
  simp only [clampIterations, wholePart, reads]
  rfl

/-- Without a whole part it is refused as a configuration, unless it is a number all the same. -/
theorem clampIterations_of_none (lacks : wholeOf? given = none) :
    (∃ failure, clampIterations given = .error failure ∧ failure.kind = .configuration) ∨
      ∃ number, given = .real number ∧
        (readDouble number = .nan ∨ ∃ negative, readDouble number = .infinite negative) := by
  cases given with
  | int count => cases lacks
  | real number =>
    refine Or.inr ⟨number, rfl, ?_⟩
    have none : (readDouble number).truncate? = none := lacks
    cases reading : readDouble number with
    | nan => exact Or.inl rfl
    | infinite negative => exact Or.inr ⟨negative, rfl⟩
    | finite negative mantissa exponent =>
      rw [reading] at none
      cases none
  | _ => exact Or.inl ⟨_, rfl, rfl⟩

/-! ## Loading -/

theorem unknownNames_eq_nil_iff :
    unknownNames entries = [] ↔ ∀ entry ∈ entries, entry.1 ∈ names := by
  unfold unknownNames
  rw [← List.length_eq_zero_iff, List.length_mergeSort, List.length_eq_zero_iff,
    List.filter_eq_nil_iff, List.forall_mem_map]
  simp

theorem load_of_unknown (unknown : unknownNames entries ≠ []) (log : Log) :
    load entries log = .error ⟨.unknownSettings (unknownNames entries), [], []⟩ log := by
  have some : (!(unknownNames entries).isEmpty) = true := by simpa using unknown
  simp only [load, if_pos some]
  rfl

theorem load_of_known (known : ∀ entry ∈ entries, entry.1 ∈ names) (log : Log) :
    load entries log = (clampGiven entries (fromTable entries) >>= fun settings =>
      discard (Act.lift settings.validate) >>= fun _ => pure settings) log := by
  have none : ¬ (!(unknownNames entries).isEmpty) = true := by
    simp [unknownNames_eq_nil_iff.mpr known]
  simp only [load, if_neg none]

/-- A number of passes that cannot be moved into the allowed range is what the loading fails for. -/
theorem load_of_unclamped (known : ∀ entry ∈ entries, entry.1 ∈ names)
    (gives : valueFor? entries "iterations" = some given) {failure : Failure}
    (fails : clampIterations given = .error failure) (log : Log) :
    load entries log = .error failure log := by
  have clamped : clampGiven entries (fromTable entries) log = .error failure log := by
    simp only [clampGiven, gives, fails]
    rfl
  rw [load_of_known known]
  exact Act.bind_of_error clamped

/-- What is loaded has been checked. -/
theorem load_of_clamped (known : ∀ entry ∈ entries, entry.1 ∈ names) {settings : Settings Value}
    {reached : Log} (clamped : clampGiven entries (fromTable entries) log = .ok settings reached) :
    (∃ growth, settings.validate = .ok growth ∧ load entries log = .ok settings reached) ∨
      ∃ failure, settings.validate = .error failure ∧ load entries log = .error failure reached := by
  have onward := (load_of_known known log).trans (Act.bind_of_ok clamped)
  cases checked : settings.validate with
  | ok growth =>
    rw [checked] at onward
    exact Or.inl ⟨growth, rfl, onward⟩
  | error failure =>
    rw [checked] at onward
    exact Or.inr ⟨failure, rfl, onward⟩

/-- A number of passes that has a whole part, or none that is given, is a small one in the end. -/
theorem clampGiven_of_whole
    (has : ∀ given, valueFor? entries "iterations" = some given → (wholeOf? given).isSome)
    (log : Log) :
    ∃ settings reached, clampGiven entries (fromTable entries) log = .ok settings reached ∧
      settings.start = (fromTable entries).start ∧
      ∃ passes : Nat, passes ≤ greatestIterations ∧ settings.iterations = .int passes := by
  cases gives : valueFor? entries "iterations" with
  | none =>
    have standard : (fromTable entries).iterations = .int 0 := by
      simp only [fromTable, update, gives, Option.getD_none]
    refine ⟨fromTable entries, log, ?_, rfl, 0, Nat.zero_le _, standard⟩
    simp only [clampGiven, gives]
    rfl
  | some given =>
    rcases Option.isSome_iff_exists.mp (has given gives) with ⟨whole, part⟩
    rcases clampIterations_of_whole part with ⟨changed, clamped⟩
    rcases clamp_cases whole with ⟨passes, few, same⟩
    refine ⟨{ fromTable entries with iterations := .int (clamp whole) },
      log ++ if changed then [Event.clamped given (clamp whole)] else [], ?_, rfl, passes, few,
      congrArg Value.int same⟩
    simp only [clampGiven, gives, clamped]
    rfl

theorem whole_cases (entries : List (String × Value)) :
    (∀ given, valueFor? entries "iterations" = some given → (wholeOf? given).isSome) ∨
      ∃ given, valueFor? entries "iterations" = some given ∧ wholeOf? given = none := by
  cases gives : valueFor? entries "iterations" with
  | none =>
    refine Or.inl fun given same => ?_
    cases same
  | some given =>
    cases part : wholeOf? given with
    | none => exact Or.inr ⟨given, rfl, part⟩
    | some whole =>
      refine Or.inl fun other same => ?_
      cases same
      rw [part]
      rfl

/-- However loose the values of a table are, they give settings that are accepted, or are refused as
a configuration, unless the number of passes is not finite.  Only such a number fails for another
reason: there is no whole part to take. -/
theorem loading_ends (entries : List (String × Value)) (log : Log) :
    (Loadable entries → ∃ settings growth reached,
      load entries log = .ok settings reached ∧ settings.validate = .ok growth) ∧
    (¬ Loadable entries → ¬ Endless entries → ∃ failure reached,
      load entries log = .error failure reached ∧ failure.kind = .configuration) ∧
    ∀ number, (∀ entry ∈ entries, entry.1 ∈ names) →
        valueFor? entries "iterations" = some (.real number) →
      (readDouble number = .nan → load entries log = .error ⟨.wholePartOfNan, [], []⟩ log) ∧
      ∀ negative, readDouble number = .infinite negative →
        load entries log = .error ⟨.wholePartOfInfinity, [], []⟩ log := by
  refine ⟨?_, ?_, ?_⟩
  · rintro ⟨known, ⟨text, starts⟩, has⟩
    rcases clampGiven_of_whole has log with
        ⟨settings, reached, clamped, sameStart, passes, few, counts⟩
    have valid := validate_of_text (sameStart.trans starts) counts few
    rcases load_of_clamped known clamped with ⟨growth, -, loaded⟩ | ⟨failure, invalid, -⟩
    · exact ⟨settings, _, reached, loaded, valid⟩
    · cases valid.symm.trans invalid
  · intro unloadable finite
    by_cases known : ∀ entry ∈ entries, entry.1 ∈ names
    · rcases whole_cases entries with has | ⟨given, gives, lacks⟩
      · rcases clampGiven_of_whole has log with ⟨settings, reached, clamped, sameStart, -⟩
        rcases load_of_clamped known clamped with ⟨growth, valid, -⟩ | ⟨failure, invalid, refused⟩
        · rcases start_of_valid valid with ⟨text, starts⟩
          exact absurd ⟨known, ⟨text, sameStart.symm.trans starts⟩, has⟩ unloadable
        · exact ⟨failure, reached, refused, kind_of_invalid invalid⟩
      · rcases clampIterations_of_none lacks with
            ⟨failure, refused, kind⟩ | ⟨number, rfl, special⟩
        · exact ⟨failure, log, load_of_unclamped known gives refused log, kind⟩
        · exact absurd ⟨known, number, gives, special⟩ finite
    · have unknown := mt unknownNames_eq_nil_iff.mp known
      exact ⟨_, log, load_of_unknown unknown log, rfl⟩
  · intro number known gives
    constructor
    · intro reads
      exact load_of_unclamped known gives (clampIterations_of_nan reads) log
    · intro negative reads
      exact load_of_unclamped known gives (clampIterations_of_infinite reads) log

/-- Two and a half passes count as two; a table with no start word to speak of is refused; and a
number that is none fails for its whole part. -/
theorem loose_tables_end :
    (∃ settings growth reached, load [("iterations", .real 2.5)] #[] = .ok settings reached ∧
      settings.validate = .ok growth) ∧
    (∃ failure reached, load [("axiom", .null)] #[] = .error failure reached ∧
      failure.kind = .configuration) ∧
    load [("iterations", .real (0.0 / 0.0))] #[] = .error ⟨.wholePartOfNan, [], []⟩ #[] := by
  have finite : (readDouble 2.5).truncate? = some 2 := by decide +kernel
  have undefined : readDouble (0.0 / 0.0) = .nan := by decide +kernel
  refine ⟨?_, ?_, ?_⟩
  · refine (loading_ends [("iterations", .real 2.5)] #[]).1 ⟨by decide, ⟨_, rfl⟩, ?_⟩
    intro given gives
    cases gives
    change (readDouble 2.5).truncate?.isSome
    rw [finite]
    rfl
  · refine (loading_ends [("axiom", .null)] #[]).2.1 ?_ ?_
    · rintro ⟨-, ⟨text, starts⟩, -⟩
      cases starts
    · rintro ⟨-, number, gives, -⟩
      cases gives
  · exact ((loading_ends [("iterations", .real (0.0 / 0.0))] #[]).2.2 _ (by decide) rfl).1 undefined

/-- A number of passes that is no number, and one that is infinite, are not refused as a
configuration. -/
theorem endless_passes_escape :
    (∃ failure, load [("iterations", .real (0.0 / 0.0))] #[] = .error failure #[] ∧
      failure.kind ≠ .configuration) ∧
    ∃ failure, load [("iterations", .real (1.0 / 0.0))] #[] = .error failure #[] ∧
      failure.kind ≠ .configuration := by
  have undefined : readDouble (0.0 / 0.0) = .nan := by decide +kernel
  have infinite : readDouble (1.0 / 0.0) = .infinite false := by decide +kernel
  constructor
  · have fails : clampIterations (.real (0.0 / 0.0)) = .error ⟨.wholePartOfNan, [], []⟩ :=
      clampIterations_of_nan undefined
    exact ⟨_, load_of_unclamped (by decide) rfl fails #[], by decide⟩
  · have fails : clampIterations (.real (1.0 / 0.0)) = .error ⟨.wholePartOfInfinity, [], []⟩ :=
      clampIterations_of_infinite infinite
    exact ⟨_, load_of_unclamped (by decide) rfl fails #[], by decide⟩

end Settings
end Arbor
