import Arbor.Proofs.Number.Amounts
import Arbor.Proofs.Settings.Loading
import Arbor.Tree.Growing

/-!
# What loaded settings are like

Settings that have been loaded are in order: the values given for them are as they were given, the
others are the standard ones, and the number of passes is a whole one within bounds.  It is the
given number without its fraction, moved into the allowed range, and a warning tells of every number
that is not the one given.  So there is nothing left to change.  Settings written as a table are
loaded as they are and without a warning, and a tree that has them grows without being given
anything else.
-/

namespace Arbor

open Number

namespace Plot

variable {σ H R J : Type} [AngleSource J Float]

/-- Clear the old tree away and grow a new one. -/
def growAnew (scene : Scene σ H R) (growth : Growth) : Act (Plot σ H R J) Unit := do
  clear scene
  orTakenBack scene (grow scene growth)
  onLog (report [grownEvent (← get).tree])

/-- When what is asked for is valid, a regeneration goes on to grow a new tree. -/
theorem regenerate_of_valid (scene : Scene σ H R) (start iterations : Option Value)
    (plot : Plot σ H R J) {growth : Growth}
    (valid : (plot.tree.settings.overridden start iterations).validate = .ok growth) :
    regenerate scene start iterations plot = growAnew scene growth plot := by
  have checked : (Act.lift (plot.tree.settings.overridden start iterations).validate :
      Act (Plot σ H R J) Growth) plot = .ok growth plot := by
    rw [valid]
    rfl
  exact (Act.bind_get _ _).trans (Act.bind_of_ok checked)

end Plot

namespace Settings

/-- The settings written as a table.  What is missing is written as `null`. -/
def fields (settings : Settings Value) : List (String × Value) :=
  [("axiom", settings.start), ("iterations", settings.iterations),
    ("prefab", settings.prefab.getD .null), ("parent", settings.parent.getD .null),
    ("owner", settings.owner.getD .null)]

/-- The number that a loose value is, if it is a finite one. -/
def amount? : Value → Option ℚ
  | .int count => some count
  | .real number => (readDouble number).amount?
  | _ => none

/-- The number of passes for a loose one: its fraction is dropped, and what is left is moved into
the allowed range. -/
def admitted (amount : ℚ) : ℤ := clamp (towardZero amount)

/-- What number of passes is taken, and which events are reported of it.  A warning says that the
number taken is not the one given. -/
inductive Taken : Option Value → ℤ → List Event → Prop
  | standard : Taken none 0 []
  | same {given : Value} {amount : ℚ} (reads : amount? given = some amount)
    (equal : (admitted amount : ℚ) = amount) : Taken (some given) (admitted amount) []
  | changed {given : Value} {amount : ℚ} (reads : amount? given = some amount)
    (other : (admitted amount : ℚ) ≠ amount) :
    Taken (some given) (admitted amount) [.clamped given (admitted amount)]

variable {entries : List (String × Value)} {given : Value} {amount : ℚ} {log reached : Log}
  {settings : Settings Value}

/-! ## Numbers of passes -/

theorem clamp_mono {less more : ℤ} (order : less ≤ more) : clamp less ≤ clamp more :=
  min_le_min_right _ (max_le_max_right 0 order)

theorem admitted_mono {less more : ℚ} (order : less ≤ more) : admitted less ≤ admitted more :=
  clamp_mono (towardZero_mono order)

/-- A number may just as well be moved into the range before its fraction is dropped. -/
theorem admitted_eq (amount : ℚ) :
    admitted amount = towardZero (min (max amount 0) greatestIterations) := by
  rw [admitted, clamp]
  have within : (0 : ℚ) ≤ min (max amount 0) greatestIterations :=
    le_min (le_max_right amount 0) (Nat.cast_nonneg greatestIterations)
  rw [towardZero_of_nonneg within, Int.floor_mono.map_min, Int.floor_natCast]
  rcases le_total 0 amount with above | below
  · rw [max_eq_left above, towardZero_of_nonneg above, max_eq_left (Int.floor_nonneg.mpr above)]
  · have dropped : towardZero amount ≤ 0 := by
      rw [← towardZero_intCast 0]
      exact towardZero_mono (by rwa [Int.cast_zero])
    rw [max_eq_right below, max_eq_right dropped, Int.floor_zero]

/-- Whether a number without its fraction has been changed shows whether the number itself has. -/
theorem admitted_eq_iff : (admitted amount : ℚ) = amount ↔
    admitted amount = towardZero amount ∧ ∃ whole : ℤ, (whole : ℚ) = amount := by
  constructor
  · intro same
    refine ⟨?_, _, same⟩
    rw [← towardZero_intCast (admitted amount), same]
  · rintro ⟨same, whole⟩
    rw [same]
    exact towardZero_eq_iff.mpr whole

/-- A number is taken, with a warning if a flag says that it is not the given one. -/
theorem Taken.of_flag (reads : amount? given = some amount) {changed : Bool}
    (flag : changed = false ↔ (admitted amount : ℚ) = amount) :
    Taken (some given) (admitted amount)
      (if changed then [.clamped given (admitted amount)] else []) := by
  cases changed with
  | false => exact .same reads (flag.mp rfl)
  | true => exact .changed reads fun equal => Bool.noConfusion (flag.mpr equal)

/-- What a loose number of passes becomes, when it becomes one. -/
theorem taken_of_clampIterations {taken : ℤ} {changed : Bool}
    (clamped : clampIterations given = .ok (taken, changed)) :
    Taken (some given) taken (if changed then [.clamped given taken] else []) := by
  cases given with
  | int count =>
    have same : clamp count = admitted count := by rw [admitted, towardZero_intCast]
    have flag : (admitted count != count) = false ↔ (admitted count : ℚ) = count := by
      rw [bne_eq_false_iff_eq, Int.cast_inj]
    rw [clampIterations, same] at clamped
    cases clamped
    exact .of_flag rfl flag
  | real number =>
    cases reads : (readDouble number).amount? with
    | none =>
      cases reading : readDouble number with
      | nan => cases (clampIterations_of_nan reading).symm.trans clamped
      | infinite negative => cases (clampIterations_of_infinite reading).symm.trans clamped
      | finite negative mantissa exponent =>
        rw [reading] at reads
        cases reads
    | some amount =>
      have flag : (admitted amount != towardZero amount || !(readDouble number).isWhole) = false ↔
          (admitted amount : ℚ) = amount := by
        rw [Bool.or_eq_false_iff, bne_eq_false_iff_eq, Bool.not_eq_false',
          Reading.isWhole_iff reads, admitted_eq_iff]
      have counts : amount? (.real number) = some amount := reads
      have whole := wholePart_of_finite (Reading.truncate?_of_amount reads)
      simp only [clampIterations, whole] at clamped
      cases clamped
      exact .of_flag counts flag
  | _ => cases clamped

/-- A number of passes that is taken is within bounds. -/
theorem Taken.natCast {given : Option Value} {taken : ℤ} {events : List Event}
    (takes : Taken given taken events) :
    ∃ passes : ℕ, passes ≤ greatestIterations ∧ taken = passes := by
  cases takes with
  | standard => exact ⟨0, Nat.zero_le _, rfl⟩
  | same reads equal => exact clamp_cases _
  | changed reads other => exact clamp_cases _

/-- A number of passes within bounds is taken as it is. -/
theorem clampIterations_natCast {passes : ℕ} (few : passes ≤ greatestIterations) :
    clampIterations (.int passes) = .ok ((passes : ℤ), false) := by
  have kept : clamp passes = passes := by
    unfold clamp
    omega
  have unchanged : (clamp passes != (passes : ℤ)) = false := by simpa using kept
  rw [clampIterations, unchanged, kept]

/-! ## Loading -/

/-- Whatever is given, what is loaded has passed each of the checks. -/
theorem checks_of_load (loaded : load entries log = .ok settings reached) :
    (∀ entry ∈ entries, entry.1 ∈ names) ∧
      clampGiven entries (fromTable entries) log = .ok settings reached ∧
      ∃ growth, settings.validate = .ok growth := by
  by_cases known : ∀ entry ∈ entries, entry.1 ∈ names
  · refine ⟨known, ?_⟩
    cases clamped : clampGiven entries (fromTable entries) log with
    | error failure left =>
      cases ((load_of_known known log).trans (Act.bind_of_error clamped)).symm.trans loaded
    | ok other left =>
      rcases load_of_clamped known clamped with ⟨growth, valid, same⟩ | ⟨failure, -, refused⟩
      · cases same.symm.trans loaded
        exact ⟨rfl, growth, valid⟩
      · cases refused.symm.trans loaded
  · cases (load_of_unknown (mt unknownNames_eq_nil_iff.mp known) log).symm.trans loaded

/-- Only the number of passes is moved, and only its being moved is reported. -/
theorem taken_of_clampGiven
    (clamped : clampGiven entries (fromTable entries) log = .ok settings reached) :
    ∃ taken events, settings = { fromTable entries with iterations := .int taken } ∧
      Taken (valueFor? entries "iterations") taken events ∧ reached = log ++ events := by
  cases gives : valueFor? entries "iterations" with
  | none =>
    have standard : (fromTable entries).iterations = .int 0 := by
      simp only [fromTable, update, gives, Option.getD_none]
    simp only [clampGiven, gives] at clamped
    cases clamped
    exact ⟨0, [], by rw [← standard], .standard, rfl⟩
  | some given =>
    simp only [clampGiven, gives] at clamped
    cases outcome : clampIterations given with
    | error failure =>
      rw [outcome] at clamped
      cases clamped
    | ok result =>
      rcases result with ⟨taken, changed⟩
      rw [outcome] at clamped
      cases clamped
      exact ⟨taken, _, rfl, taken_of_clampIterations outcome, rfl⟩

/-- A reference that is given as missing is missing. -/
theorem some_reference (given : Option Value) :
    some (((given.map Value.given?).getD none).getD .null) = given.or (some .null) := by
  cases given with
  | none => rfl
  | some value => cases value <;> rfl

/-- The fields of what a table gives are its entries, and the standard ones where it has none. -/
theorem valueFor?_fields (entries : List (String × Value)) (taken : Value) {name : String}
    (known : name ∈ names) (other : name ≠ "iterations") :
    valueFor? { fromTable entries with iterations := taken }.fields name =
      (valueFor? entries name).or (valueFor? (fields {}) name) := by
  simp only [names, List.mem_cons, List.not_mem_nil, or_false] at known
  rcases known with rfl | rfl | rfl | rfl | rfl
  · change some ((valueFor? entries "axiom").getD (.text standardStart)) = _
    cases valueFor? entries "axiom" <;> rfl
  · exact absurd rfl other
  · exact some_reference (valueFor? entries "prefab")
  · exact some_reference (valueFor? entries "parent")
  · exact some_reference (valueFor? entries "owner")

/-- No reference is there that stands for a missing one. -/
theorem given?_reference (given : Option Value) :
    Value.given? (((given.map Value.given?).getD none).getD .null) =
      (given.map Value.given?).getD none := by
  cases given with
  | none => rfl
  | some value => cases value <;> rfl

/-- What a table gives can be written as a table and read again. -/
theorem fromTable_fields (entries : List (String × Value)) (taken : Value) :
    fromTable { fromTable entries with iterations := taken }.fields =
      { fromTable entries with iterations := taken } := by
  have prefab := given?_reference (valueFor? entries "prefab")
  have parent := given?_reference (valueFor? entries "parent")
  have owner := given?_reference (valueFor? entries "owner")
  have read : ∀ settings : Settings Value, fromTable settings.fields =
      { start := settings.start, iterations := settings.iterations,
        prefab := Value.given? (settings.prefab.getD .null),
        parent := Value.given? (settings.parent.getD .null),
        owner := Value.given? (settings.owner.getD .null) } := fun _ => rfl
  rw [read]
  simp only [fromTable, update]
  rw [prefab, parent, owner]

/-- Settings that have been loaded are loaded again as they are, and nothing is reported of it. -/
theorem load_fields {taken : ℤ} {given : Option Value} {events : List Event}
    (takes : Taken given taken events)
    (same : settings = { fromTable entries with iterations := .int taken })
    (valid : ∃ growth, settings.validate = .ok growth) (later : Log) :
    load settings.fields later = .ok settings later := by
  have known : ∀ entry ∈ settings.fields, entry.1 ∈ names := by simp [fields, names]
  rcases takes.natCast with ⟨passes, few, rfl⟩
  have gives : valueFor? settings.fields "iterations" = some (.int passes) := by
    rw [same]
    rfl
  have clamped : clampGiven settings.fields (fromTable settings.fields) later =
      .ok settings later := by
    simp only [clampGiven, gives, clampIterations_natCast few]
    rw [same, fromTable_fields]
    rfl
  rcases load_of_clamped known clamped with ⟨growth, -, loaded⟩ | ⟨failure, invalid, -⟩
  · exact loaded
  · rcases valid with ⟨growth, valid⟩
    cases valid.symm.trans invalid

/-! ## Trees with loaded settings -/

/-- The check of settings looks at their start word and their number of passes only. -/
theorem validate_congr {R S : Type} {left : Settings R} {right : Settings S}
    (starts : left.start = right.start) (counts : left.iterations = right.iterations) :
    left.validate = right.validate := by
  unfold validate
  rw [starts, counts]

/-- Every tree with this start word and this number of passes is accepted: it is grown anew as the
growth says, whatever its references are. -/
def Accepted (settings : Settings Value) (growth : Growth) : Prop :=
  ∀ {σ H R J : Type} [AngleSource J Float] (scene : Scene σ H R) (plot : Plot σ H R J),
    plot.tree.settings.start = settings.start →
    plot.tree.settings.iterations = settings.iterations →
      (plot.tree.settings.overridden none none).validate = .ok growth ∧
      Plot.regenerate scene none none plot = Plot.growAnew scene growth plot

theorem accepted_of_valid {growth : Growth} (valid : settings.validate = .ok growth) :
    settings.Accepted growth := by
  intro σ H R J _ scene plot starts counts
  have checked : (plot.tree.settings.overridden none none).validate = .ok growth :=
    (validate_congr starts counts).trans valid
  exact ⟨checked, Plot.regenerate_of_valid scene none none plot checked⟩

/-- Whenever settings can be loaded from a table, all its entries are settings, and those other than
the number of passes are given on as they are, the standard ones standing in for the missing ones.
The number of passes is the given one without its fraction and moved into the allowed range, in
whichever order this is done, so that a greater number never gives fewer passes.  There is one
warning if this is another number than the one given, and none otherwise.  The settings are accepted
by every tree that has them, and loading them once more gives them again without a warning. -/
theorem loading_normalises (loaded : load entries log = .ok settings reached) :
    (∀ entry ∈ entries, entry.1 ∈ names) ∧
      (∀ name ∈ names, name ≠ "iterations" →
        valueFor? settings.fields name =
          (valueFor? entries name).or (valueFor? (fields {}) name)) ∧
      (∃ taken events, settings.iterations = .int taken ∧
        Taken (valueFor? entries "iterations") taken events ∧ reached = log ++ events) ∧
      (∀ amount, admitted amount = min (max (towardZero amount) 0) greatestIterations ∧
        admitted amount = towardZero (min (max amount 0) greatestIterations)) ∧
      (∀ less more, less ≤ more → admitted less ≤ admitted more) ∧
      (∃ growth, settings.Accepted growth) ∧
      ∀ later, load settings.fields later = .ok settings later := by
  rcases checks_of_load loaded with ⟨known, clamped, growth, valid⟩
  rcases taken_of_clampGiven clamped with ⟨taken, events, same, takes, reports⟩
  refine ⟨known, ?_, ⟨taken, events, ?_, takes, reports⟩, fun amount => ⟨rfl, admitted_eq amount⟩,
    fun _ _ => admitted_mono, ⟨growth, accepted_of_valid valid⟩,
    load_fields takes same ⟨growth, valid⟩⟩
  · intro name member other
    rw [same]
    exact valueFor?_fields entries (.int taken) member other
  · rw [same]

/-- Six passes and a half are moved to six, which is warned of, and the owner is given on. -/
theorem loading_half_a_pass :
    ∃ settings, load [("owner", .text "root"), ("iterations", .real 6.5)] #[] =
        .ok settings #[.clamped (.real 6.5) 6] ∧
      valueFor? settings.fields "owner" = some (.text "root") ∧
      valueFor? settings.fields "axiom" = some (.text "F") ∧
      load settings.fields #[] = .ok settings #[] := by
  have finite : (readDouble 6.5).truncate? = some 6 := by decide +kernel
  have uneven : (readDouble 6.5).isWhole = false := by decide +kernel
  have clamps : clampIterations (.real 6.5) = .ok (6, true) := by
    simp only [clampIterations, wholePart_of_finite finite, uneven]
    rfl
  have clamped : clampGiven [("owner", .text "root"), ("iterations", .real 6.5)]
      (fromTable [("owner", .text "root"), ("iterations", .real 6.5)]) #[] =
        .ok { iterations := .int 6, owner := some (.text "root") }
          #[.clamped (.real 6.5) 6] := by
    have gives : valueFor? [("owner", .text "root"), ("iterations", .real 6.5)] "iterations" =
      some (.real 6.5) := rfl
    simp only [clampGiven, gives, clamps]
    rfl
  have loaded : load [("owner", .text "root"), ("iterations", .real 6.5)] #[] =
      .ok { iterations := .int 6, owner := some (.text "root") } #[.clamped (.real 6.5) 6] := by
    rcases load_of_clamped (by decide) clamped with ⟨growth, -, loaded⟩ | ⟨failure, invalid, -⟩
    · exact loaded
    · cases invalid
  rcases loading_normalises loaded with ⟨-, passed, -, -, -, -, again⟩
  exact ⟨_, loaded, passed "owner" (by decide) (by decide),
    passed "axiom" (by decide) (by decide), again #[]⟩

end Settings
end Arbor
