import FrontEnd.Msvc.Headers
import FrontEnd.Proofs.Options.Session
import FrontEnd.Proofs.World.Environment
import FrontEnd.Xcode.Headers

namespace FrontEnd

def World.Ran (before after : World) : Prop :=
  ∃ calls attempts, after = { before with calls, attempts }

namespace World

theorem Ran.refl (world : World) : world.Ran world :=
  ⟨world.calls, world.attempts, rfl⟩

theorem Ran.trans {first second third : World} (early : first.Ran second) (late : second.Ran third) :
    first.Ran third := by
  obtain ⟨_, _, rfl⟩ := early
  obtain ⟨calls, attempts, rfl⟩ := late
  exact ⟨calls, attempts, rfl⟩

theorem run_ran (world : World) (command : Command) : world.Ran (world.run command).2 := by
  unfold run
  split
  · exact ⟨_, _, rfl⟩
  · split <;> exact ⟨_, _, rfl⟩

theorem runForText_ran (world : World) (command : Command) :
    world.Ran (world.runForText command).2 := by
  have ran := world.run_ran command
  unfold runForText
  split
  · rename_i cause left started
    rwa [started] at ran
  · rename_i output left started
    rw [started] at ran
    split <;> exact ran

theorem attempts_run (world : World) (command : Command) :
    (world.run command).2.attempts = world.attempts ++ [command] := by
  unfold run
  split
  · rfl
  · split <;> rfl

theorem attempts_runForText (world : World) (command : Command) :
    (world.runForText command).2.attempts = world.attempts ++ [command] := by
  rw [← attempts_run, runForText]
  rcases world.run command with ⟨cause | output, left⟩
  · rfl
  · simp only
    split <;> rfl

theorem Ran.startable {before after : World} (ran : before.Ran after) (path : Path) :
    after.startable path = before.startable path := by
  obtain ⟨_, _, rfl⟩ := ran
  rfl

theorem Ran.lookUp {before after : World} (ran : before.Ran after) (program : Path) :
    after.lookUp program = before.lookUp program := by
  have directories : after.searchDirectories = before.searchDirectories := by
    obtain ⟨_, _, rfl⟩ := ran
    rfl
  simp only [World.lookUp, ran.startable, firstStartable_congr ran.startable, directories]

theorem Ran.run {before after : World} (ran : before.Ran after) (command : Command) :
    (after.run command).1 = (before.run command).1 := by
  simp only [World.run, ran.lookUp]
  split
  · rfl
  · split <;> rfl

theorem Ran.runForText {before after : World} (ran : before.Ran after) (command : Command) :
    (after.runForText command).1 = (before.runForText command).1 := by
  have same := ran.run command
  unfold World.runForText
  generalize after.run command = late at same ⊢
  generalize before.run command = early at same ⊢
  obtain ⟨answer, _⟩ := early
  obtain ⟨other, _⟩ := late
  obtain rfl : answer = other := same.symm
  cases answer with
  | error cause => rfl
  | ok output =>
    simp only
    split <;> rfl

end World

namespace Msvc

theorem installation?_ran (world : World) (generation : Generation) :
    world.Ran (installation? world generation).2 := by
  unfold installation?
  split
  · exact .refl world
  · rename_i program _
    have ran := world.runForText_ran ⟨program, locatorArguments generation⟩
    split <;> rename_i printed <;> rwa [printed] at ran

theorem compilerInclude?_ran (world : World) (generation : Generation) :
    world.Ran (compilerInclude? world generation).2 := by
  have ran := installation?_ran world generation
  unfold compilerInclude?
  cases generation with
  | vs2012 | vs2013 | vs2015 => exact .refl world
  | vs2017 | latest =>
    simp only
    split <;> rename_i installed <;> rwa [installed] at ran

theorem systemIncludes_ran (generation : Generation) (world : World) :
    world.Ran (systemIncludes generation world).2 := by
  unfold systemIncludes
  split
  · exact .refl world
  · exact compilerInclude?_ran world generation

end Msvc

namespace Xcode

/-- The C++ headers in a developer directory. A toolchain that has none leaves them to the SDK. -/
def cppIncludes (world : World) (developer : Path) : Except ToolchainError Path :=
  match toolchainIn world developer with
  | .error missing => .error missing
  | .ok toolchain =>
    let own := cppUnder toolchain
    if world.isDirectory own then .ok own
    else
      match sdkIn world developer with
      | .error _ => .error (.folderNotFound .cpp own)
      | .ok sdk =>
        if world.isDirectory (cppUnder sdk) then .ok (cppUnder sdk)
        else .error (.folderNotFound .cpp own)

theorem developerDirectory_again {machine left : Machine} {directory : Path}
    (found : developerDirectory machine = (directory, left)) :
    developerDirectory left = (directory, left) := by
  unfold developerDirectory at found
  split at found
  · rename_i located
    cases found
    simp only [developerDirectory, located]
  · cases found
    rfl

theorem ask_of_found {machine left : Machine} {directory : Path}
    (found : developerDirectory machine = (directory, left))
    (question : World → Path → Except ToolchainError Path) :
    (ask question).run machine = (question left.world directory, left) := by
  simp only [StateT.run, ask, found]

theorem cppLookup_eq_ask : cppLookup = ask cppIncludes := by
  funext machine
  cases found : developerDirectory machine with
  | mk directory left =>
    have again := developerDirectory_again found
    have answer : ask cppIncludes machine = (cppIncludes left.world directory, left) :=
      ask_of_found found cppIncludes
    rw [answer, cppLookup, ask_of_found found, cppIncludes]
    cases toolchainIn left.world directory with
    | error missing => rfl
    | ok toolchain =>
      simp only [ask_of_found again]
      cases left.world.isDirectory (cppUnder toolchain) with
      | true => rfl
      | false =>
        simp only [Bool.false_eq_true, if_false]
        cases sdkIn left.world directory with
        | error missing => rfl
        | ok sdk =>
          simp only
          cases left.world.isDirectory (cppUnder sdk) <;> rfl

theorem locate_ran (world : World) : world.Ran (locate world).2 := by
  have ran := world.runForText_ran selectCommand
  unfold locate
  split
  · exact .refl world
  · split <;> rename_i printed <;> rwa [printed] at ran

theorem locate_of_ran {before after : World} (ran : before.Ran after) :
    (locate after).1 = (locate before).1 := by
  have named : after.envText? "DEVELOPER_DIR" = before.envText? "DEVELOPER_DIR" := by
    obtain ⟨_, _, rfl⟩ := ran
    rfl
  have same := ran.runForText selectCommand
  simp only [locate, named]
  generalize after.runForText selectCommand = late at same ⊢
  generalize before.runForText selectCommand = early at same ⊢
  obtain ⟨printed, _⟩ := early
  obtain ⟨other, _⟩ := late
  obtain rfl : printed = other := same.symm
  cases before.envText? "DEVELOPER_DIR" with
  | some directory => rfl
  | none => cases printed <;> rfl

theorem builtinIncludes_of_ran {before after : World} (ran : before.Ran after) (developer : Path) :
    builtinIncludes after developer = builtinIncludes before developer := by
  obtain ⟨_, _, rfl⟩ := ran
  rfl

theorem cppIncludes_of_ran {before after : World} (ran : before.Ran after) (developer : Path) :
    cppIncludes after developer = cppIncludes before developer := by
  obtain ⟨_, _, rfl⟩ := ran
  rfl

theorem sdkIncludes_of_ran {before after : World} (ran : before.Ran after) (developer : Path) :
    sdkIncludes after developer = sdkIncludes before developer := by
  obtain ⟨_, _, rfl⟩ := ran
  rfl

def developer (machine : Machine) : Path :=
  machine.developerDirectory.getD (locate machine.world).1

structure Asked (before after : Machine) : Prop where
  world : before.world.Ran after.world
  developer : developer after = developer before

theorem developerDirectory_asked (machine : Machine) :
    (developerDirectory machine).1 = developer machine ∧ Asked machine (developerDirectory machine).2 := by
  obtain ⟨world, located⟩ := machine
  cases located with
  | some directory => exact ⟨rfl, .refl world, rfl⟩
  | none => exact ⟨rfl, locate_ran world, rfl⟩

/-- A question that only the file system answers gets one answer, however often it is asked. -/
theorem ask_run {question : World → Path → Except ToolchainError Path}
    (kept : ∀ {before after : World}, before.Ran after → ∀ path, question after path = question before path)
    {start machine : Machine} (asked : Asked start machine) :
    ∃ left, (ask question).run machine = (question start.world (developer start), left) ∧ Asked start left := by
  obtain ⟨directory, step⟩ := developerDirectory_asked machine
  refine ⟨(developerDirectory machine).2, ?_, asked.world.trans step.world, step.developer.trans asked.developer⟩
  have answer : (ask question).run machine =
      (question (developerDirectory machine).2.world (developerDirectory machine).1,
        (developerDirectory machine).2) := rfl
  rw [answer, directory, kept step.world, kept asked.world, asked.developer]

def lookups (world : World) (developer : Path) : List (Except ToolchainError Path) :=
  [builtinIncludes world developer, cppIncludes world developer, sdkIncludes world developer]

def folders (world : World) (developer : Path) : Except ToolchainError (List Path) := do
  let builtin ← builtinIncludes world developer
  let cpp ← cppIncludes world developer
  let sdk ← sdkIncludes world developer
  return [builtin, cpp, sdk]

theorem folders_cases (world : World) (developer : Path) :
    (∃ missing, folders world developer = .error missing ∧ .error missing ∈ lookups world developer) ∨
      ∃ paths, folders world developer = .ok paths ∧ lookups world developer = paths.map .ok := by
  simp only [folders, lookups]
  rcases builtinIncludes world developer with missing | builtin
  · exact .inl ⟨missing, rfl, by simp⟩
  rcases cppIncludes world developer with missing | cpp
  · exact .inl ⟨missing, rfl, by simp⟩
  rcases sdkIncludes world developer with missing | sdk
  · exact .inl ⟨missing, rfl, by simp⟩
  · exact .inr ⟨[builtin, cpp, sdk], rfl, rfl⟩

theorem filterMap_lookups {world : World} {developer : Path} {paths : List Path}
    (found : folders world developer = .ok paths) :
    (lookups world developer).filterMap Except.toOption = paths := by
  rcases folders_cases world developer with ⟨missing, failed, -⟩ | ⟨others, agreed, all⟩
  · rw [found] at failed
    cases failed
  · rw [found, Except.ok.injEq] at agreed
    rw [all, agreed]
    simp [List.filterMap_map, Function.comp_def, Except.toOption]

theorem folders_of_ran {before after : World} (ran : before.Ran after) (developer : Path) :
    folders after developer = folders before developer := by
  simp only [folders, builtinIncludes_of_ran ran, cppIncludes_of_ran ran, sdkIncludes_of_ran ran]

theorem resolver_folders_run (machine : Machine) :
    ∃ left, resolver.folders.run.run machine = (folders machine.world (developer machine), left) ∧
      Asked machine left := by
  have unasked : Asked machine machine := ⟨.refl machine.world, rfl⟩
  obtain ⟨second, builtin, afterBuiltin⟩ := ask_run builtinIncludes_of_ran unasked
  obtain ⟨third, cpp, afterCpp⟩ := ask_run cppIncludes_of_ran afterBuiltin
  obtain ⟨left, sdk, afterSdk⟩ := ask_run sdkIncludes_of_ran afterCpp
  simp only [XcodeResolver.folders, ExceptT.run_bind, ExceptT.run_mk, run_bind_stateM, resolver,
    cppLookup_eq_ask, builtin, folders]
  rcases builtinIncludes machine.world (developer machine) with missing | path
  · exact ⟨second, rfl, afterBuiltin⟩
  simp only [run_bind_stateM, cpp]
  rcases cppIncludes machine.world (developer machine) with missing | path
  · exact ⟨third, rfl, afterCpp⟩
  simp only [run_bind_stateM, sdk]
  rcases sdkIncludes machine.world (developer machine) with missing | path
  · exact ⟨left, rfl, afterSdk⟩
  · exact ⟨left, rfl, afterSdk⟩

end Xcode

end FrontEnd
