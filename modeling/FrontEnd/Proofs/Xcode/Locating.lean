import FrontEnd.Proofs.Run
import FrontEnd.Proofs.Toolchain.Machine

namespace FrontEnd.Xcode

/-- Whether `xcode-select -p` ends with code zero and prints a directory. -/
def Selects (world : World) (directory : Path) : Prop :=
  ∃ output, (world.run { program := .ofText "xcode-select", arguments := ["-p"] }).1 = .ok output ∧
    output.code = some 0 ∧
    let printed := String.ofList (Text.trim output.stdout.lossy.toList)
    printed ≠ "" ∧ directory = Path.ofText printed

/-- Where the developer directory is: as the environment says, else as the command does, else at
its usual place. -/
inductive Locates (world : World) : Path → Prop
  | environment {text : String} (named : world.envText? "DEVELOPER_DIR" = some text) :
      Locates world (Path.ofText text)
  | command {directory : Path} (unnamed : world.envText? "DEVELOPER_DIR" = none)
      (selected : Selects world directory) : Locates world directory
  | usual (unnamed : world.envText? "DEVELOPER_DIR" = none)
      (unselected : ∀ directory, ¬ Selects world directory) :
      Locates world (Path.ofText "/Applications/Xcode.app/Contents/Developer")

theorem selects_iff (world : World) (directory : Path) :
    Selects world directory ↔ ∃ printed, (world.runForText selectCommand).1 = .ok printed ∧
      printed ≠ "" ∧ directory = Path.ofText printed := by
  have named : { program := .ofText "xcode-select", arguments := ["-p"] } = selectCommand := rfl
  rw [Selects, named, World.runForText]
  rcases world.run selectCommand with ⟨cause | output, left⟩
  · simp
  · by_cases code : output.code = some 0 <;> simp [Output.success, code]

theorem locate_of_unnamed {world : World} (unnamed : world.envText? "DEVELOPER_DIR" = none) :
    (locate world).1 =
      match (world.runForText selectCommand).1 with
      | .ok printed => if printed = "" then defaultDirectory else Path.ofText printed
      | .error _ => defaultDirectory := by
  rw [locate, unnamed]
  rcases world.runForText selectCommand with ⟨failed | printed, left⟩ <;> rfl

theorem locates_iff (world : World) (directory : Path) :
    Locates world directory ↔ directory = (locate world).1 := by
  cases named : world.envText? "DEVELOPER_DIR" with
  | some text =>
    have located : (locate world).1 = Path.ofText text := by simp only [locate, named]
    rw [located]
    constructor
    · rintro (same | ⟨unnamed, -⟩ | ⟨unnamed, -⟩)
      · rw [named, Option.some.injEq] at same
        rw [same]
      · simp [named] at unnamed
      · simp [named] at unnamed
    · rintro rfl
      exact .environment named
  | none =>
    rw [locate_of_unnamed named]
    by_cases selected : ∃ printed, (world.runForText selectCommand).1 = .ok printed ∧ printed ≠ ""
    · obtain ⟨printed, ran, filled⟩ := selected
      have selects (other : Path) : Selects world other ↔ other = Path.ofText printed := by
        rw [selects_iff, ran]
        simp [filled]
      simp only [ran, filled, if_false]
      constructor
      · rintro (same | ⟨-, other⟩ | ⟨-, unselected⟩)
        · simp [named] at same
        · exact (selects _).mp other
        · exact absurd ((selects _).mpr rfl) (unselected _)
      · intro same
        exact .command named ((selects directory).mpr same)
    · have unselected (other : Path) : ¬ Selects world other := by
        rw [selects_iff]
        rintro ⟨printed, ran, filled, -⟩
        exact selected ⟨printed, ran, filled⟩
      have usual : (match (world.runForText selectCommand).1 with
          | .ok printed => if printed = "" then defaultDirectory else Path.ofText printed
          | .error _ => defaultDirectory) = defaultDirectory := by
        cases ran : (world.runForText selectCommand).1 with
        | error failed => rfl
        | ok printed =>
          have blank : printed = "" := Classical.byContradiction fun filled => selected ⟨printed, ran, filled⟩
          simp [blank]
      rw [usual]
      constructor
      · rintro (same | ⟨-, other⟩ | _)
        · simp [named] at same
        · exact absurd other (unselected _)
        · rfl
      · rintro rfl
        exact .usual named unselected

def selecting (world : World) : List Command :=
  if (world.envText? "DEVELOPER_DIR").isSome then [] else [selectCommand]

theorem attempts_locate (world : World) :
    (locate world).2.attempts = world.attempts ++ selecting world := by
  unfold locate selecting
  cases world.envText? "DEVELOPER_DIR" with
  | some text => simp
  | none =>
    have tried := world.attempts_runForText selectCommand
    revert tried
    rcases world.runForText selectCommand with ⟨failed | printed, left⟩ <;> exact id

inductive Lookup where
  | builtin
  | cpp
  | sdk
deriving DecidableEq, Repr

namespace Lookup

def run : Lookup → StateM Machine (Except ToolchainError Path)
  | builtin => resolver.builtinIncludes
  | cpp => resolver.cppIncludes
  | sdk => resolver.sdkIncludes

def answer : Lookup → World → Path → Except ToolchainError Path
  | builtin => builtinIncludes
  | cpp => cppIncludes
  | sdk => sdkIncludes

theorem run_eq_ask (lookup : Lookup) : lookup.run = ask lookup.answer := by
  cases lookup with
  | builtin | sdk => rfl
  | cpp => exact cppLookup_eq_ask

theorem answer_of_ran (lookup : Lookup) {before after : World} (ran : before.Ran after)
    (developer : Path) : lookup.answer after developer = lookup.answer before developer := by
  cases lookup with
  | builtin => exact builtinIncludes_of_ran ran developer
  | cpp => exact cppIncludes_of_ran ran developer
  | sdk => exact sdkIncludes_of_ran ran developer

theorem run_located (lookup : Lookup) (world : World) (directory : Path) :
    lookup.run.run { world, developerDirectory := some directory } =
      (lookup.answer world directory, { world, developerDirectory := some directory }) := by
  rw [run_eq_ask]
  rfl

theorem run_unlocated (lookup : Lookup) (world : World) :
    lookup.run.run { world } =
      (lookup.answer world (locate world).1,
        { world := (locate world).2, developerDirectory := some (locate world).1 }) := by
  rw [run_eq_ask, ← lookup.answer_of_ran (locate_ran world)]
  rfl

end Lookup

inductive Event where
  | lookup (lookup : Lookup)
  | change (next : World)

def Event.isLookup : Event → Bool
  | lookup _ => true
  | change _ => false

/-- One event, with the answer to a lookup. A change leaves alone which commands were tried. -/
def step : Event → Machine → Option (Except ToolchainError Path) × Machine
  | .lookup lookup, machine =>
    match lookup.run.run machine with
    | (answer, left) => (some answer, left)
  | .change next, machine =>
    (none, { machine with world := { next with attempts := machine.world.attempts } })

structure Located (directory : Path) (attempts : List Command) (machine : Machine) : Prop where
  directory : machine.developerDirectory = some directory
  attempts : machine.world.attempts = attempts

theorem Located.step {directory : Path} {attempts : List Command} (event : Event) (machine : Machine)
    (located : Located directory attempts machine) :
    Located directory attempts (step event machine).2 := by
  obtain ⟨world, found⟩ := machine
  obtain ⟨rfl, rfl⟩ := located
  cases event with
  | change next => exact ⟨rfl, rfl⟩
  | lookup lookup =>
    simp only [Xcode.step, lookup.run_located]
    exact ⟨rfl, rfl⟩

def answerIn (directory : Path) (moment : Run.Moment Event Machine) (lookup : Lookup) :
    Except ToolchainError Path :=
  (lookup.run.run { world := moment.before.world, developerDirectory := some directory }).1

def AnsweredIn (directory : Path) (moments : List (Run.Moment Event Machine)) : Prop :=
  ∀ moment ∈ moments, ∀ lookup, moment.input = .lookup lookup →
    (step moment.input moment.before).1 = some (answerIn directory moment lookup)

theorem Located.run {directory : Path} {attempts : List Command} {machine : Machine}
    (located : Located directory attempts machine) (events : List Event) :
    Located directory attempts (Run.final Xcode.step machine events) ∧
      AnsweredIn directory (Run.moments Xcode.step machine events) := by
  refine ⟨Run.final_of_kept located events Located.step, ?_⟩
  intro moment member lookup asked
  have kept := Run.moments_of_kept located events Located.step moment member
  obtain ⟨input, world, found⟩ := moment
  obtain ⟨rfl, -⟩ := kept
  obtain rfl : input = .lookup lookup := asked
  rfl

theorem located_of_first {world : World} {events : List Event} {first : Run.Moment Event Machine}
    (found : (Run.moments step { world } events).find? (·.input.isLookup) = some first) :
    Located (locate first.before.world).1 (world.attempts ++ selecting first.before.world)
        (Run.final step { world } events) ∧
      AnsweredIn (locate first.before.world).1 (Run.moments step { world } events) := by
  induction events generalizing world with
  | nil => cases found
  | cons event events ih =>
    cases event with
    | change next =>
      obtain ⟨located, answered⟩ := ih found
      refine ⟨located, ?_⟩
      intro moment member lookup asked
      rcases List.mem_cons.mp member with rfl | later
      · cases asked
      · exact answered moment later lookup asked
    | lookup lookup =>
      obtain rfl : ⟨.lookup lookup, { world }⟩ = first := Option.some.inj found
      have start : Located (locate world).1 (world.attempts ++ selecting world)
          (step (.lookup lookup) { world }).2 := by
        simp only [step, lookup.run_unlocated]
        exact ⟨rfl, attempts_locate world⟩
      obtain ⟨located, answered⟩ := start.run events
      refine ⟨located, ?_⟩
      intro moment member other asked
      rcases List.mem_cons.mp member with rfl | later
      · obtain rfl : lookup = other := Event.lookup.inj asked
        simp only [step, answerIn, lookup.run_unlocated, lookup.run_located]
      · exact answered moment later other asked

theorem unlocated_of_none {world : World} {events : List Event}
    (none : (Run.moments step { world } events).find? (·.input.isLookup) = none) :
    (Run.final step { world } events).developerDirectory = .none ∧
      (Run.final step { world } events).world.attempts = world.attempts := by
  induction events generalizing world with
  | nil => exact ⟨rfl, rfl⟩
  | cons event events ih =>
    cases event with
    | change next => exact ih none
    | lookup lookup => cases none

/-- A resolver locates its developer directory at the first lookup of a run, tries one command for it
at the most, and answers every lookup as a resolver that was given the directory. One that was given
it tries no command. -/
theorem lookups_locate_once (world : World) (events : List Event) :
    let moments := Run.moments step { world } events
    let left := Run.final step { world } events
    (moments.find? (·.input.isLookup) = none →
      left.developerDirectory = none ∧ left.world.attempts = world.attempts) ∧
    (∀ first, moments.find? (·.input.isLookup) = some first →
      ∃ directory, (∀ other, Locates first.before.world other ↔ other = directory) ∧
        left.developerDirectory = some directory ∧
        left.world.attempts = world.attempts ++
          (if (first.before.world.envText? "DEVELOPER_DIR").isSome then []
            else [{ program := .ofText "xcode-select", arguments := ["-p"] }]) ∧
        AnsweredIn directory moments) ∧
    ∀ directory,
      let given : Machine := { world, developerDirectory := some directory }
      (Run.final step given events).world.attempts = world.attempts ∧
        AnsweredIn directory (Run.moments step given events) := by
  intro moments left
  refine ⟨unlocated_of_none, ?_, ?_⟩
  · intro first found
    obtain ⟨located, answered⟩ := located_of_first found
    exact ⟨_, locates_iff first.before.world, located.directory, located.attempts, answered⟩
  · intro directory given
    have start : Located directory world.attempts given := ⟨rfl, rfl⟩
    obtain ⟨located, answered⟩ := start.run events
    exact ⟨located.attempts, answered⟩

/-- A directory that the command names is kept when the environment comes to name another. -/
theorem lookups_locate_once_before_change :
    let names (location : List String) : Location := (location.map Bytes.ofText).reverse
    let world : World := {
      tree := {
        entries := [(names ["bin"], .directory),
          (names ["bin", "xcode-select"], .file [] (.program ⟨Bytes.ofText "/d\n", [], .exited 0⟩))]
        nodup := by decide }
      environment := [(Bytes.ofText "PATH", Bytes.ofText "/bin")]
      directory := []
      executable := ⟨[]⟩
      calls := []
      attempts := [] }
    let next := world.setEnv "DEVELOPER_DIR" (some (Bytes.ofText "/e"))
    let events := [.lookup .builtin, .change next, .lookup .cpp]
    (Run.moments step { world } events).find? (·.input.isLookup) = some ⟨.lookup .builtin, { world }⟩ ∧
      (Run.final step { world } events).developerDirectory = some (.ofText "/d") ∧
      (Run.final step { world } events).world.attempts =
        [{ program := .ofText "xcode-select", arguments := ["-p"] }] := by
  intro names world next events
  obtain ⟨-, locating, -⟩ := lookups_locate_once world events
  obtain ⟨directory, located, kept, tried, -⟩ := locating ⟨.lookup .builtin, { world }⟩ rfl
  have selected : Locates world (.ofText "/d") :=
    .command (by decide) ⟨⟨some 0, Bytes.ofText "/d\n", []⟩, rfl, rfl, by decide, by decide⟩
  obtain rfl := (located _).mp selected
  exact ⟨rfl, kept, tried⟩

end FrontEnd.Xcode
