import FrontEnd.Proofs.CommandLine.Decoding
import FrontEnd.Proofs.Config.Apply
import FrontEnd.Proofs.Options.Operations
import FrontEnd.Proofs.Run
import Mathlib.Data.List.Infix

namespace FrontEnd

open CommandLine

variable {σ : Type}

structure Additions where
  arguments : List String := []
  systemIncludeDirs : List Path := []
  includeDirs : List Path := []
  defines : List String := []
  undefines : List String := []

def Additions.concat (parts : List Additions) : Additions where
  arguments := parts.flatMap (·.arguments)
  systemIncludeDirs := parts.flatMap (·.systemIncludeDirs)
  includeDirs := parts.flatMap (·.includeDirs)
  defines := parts.flatMap (·.defines)
  undefines := parts.flatMap (·.undefines)

def Additions.values (added : Additions) : Section → List String
  | .define => added.defines
  | .undefine => added.undefines
  | .includeDir => added.includeDirs.map Path.display
  | .systemIncludeDir => added.systemIncludeDirs.map Path.display
  | _ => []

/-- What an operation adds when it is run in a session. A setup for Xcode that fails adds nothing;
a setup for a host that fails has added its language flags. -/
def Operation.additions (session : Session σ) : Operation σ → Additions
  | .addArgument argument => { arguments := [argument] }
  | .addDefine define => { defines := [define] }
  | .addUndefine macroName => { undefines := [macroName] }
  | .addIncludeDir directory => { includeDirs := [directory] }
  | .addSystemIncludeDir directory => { systemIncludeDirs := [directory] }
  | .setupMsvc generation resolver =>
    { arguments := Options.compatibilityFlags
      systemIncludeDirs := ((resolver.systemIncludes generation).run session.surroundings).1 }
  | .setupMsvcChoice choice resolver =>
    { arguments := Options.compatibilityFlags
      systemIncludeDirs := ((resolver.systemIncludes (.ofToken choice)).run session.surroundings).1 }
  | .setupXcode resolver =>
    match (resolver.folders.run.run session.surroundings).1 with
    | .error _ => {}
    | .ok folders => { arguments := ["-stdlib=libc++"], systemIncludeDirs := folders }
  | .setup host =>
    { arguments := session.setupArguments host, systemIncludeDirs := session.setupDirectories host }
  | .apply config => { defines := config.parser.defines, includeDirs := config.parser.includeDirs }
  | .setAbi _ | .setMicrosoftMode _ | .setRtti _ | .setLanguage _ | .setToolSet _ => {}
  | .setNoBuiltinIncludes _ | .setNoStandardIncludes _ | .setTarget _ | .setVerbose _ => {}

namespace Options

structure Extends (later earlier : Options) (added : Additions) : Prop where
  arguments : later.arguments = earlier.arguments ++ added.arguments
  systemIncludeDirs : later.systemIncludeDirs = earlier.systemIncludeDirs ++ added.systemIncludeDirs
  includeDirs : later.includeDirs = earlier.includeDirs ++ added.includeDirs
  defines : later.defines = earlier.defines ++ added.defines
  undefines : later.undefines = earlier.undefines ++ added.undefines
  executable : later.executable = earlier.executable

theorem Extends.refl (options : Options) : options.Extends options {} := by
  constructor <;> simp

theorem Extends.withMsvc (options : Options) (compiler : Msvc.Compiler) (includes : List Path) :
    (options.withMsvc compiler includes).Extends options
      { arguments := compatibilityFlags, systemIncludeDirs := includes } := by
  rw [withMsvc_eq]
  constructor <;> simp

theorem Extends.cons {last next first : Options} {added : Additions} {parts : List Additions}
    (later : last.Extends next (.concat parts)) (earlier : next.Extends first added) :
    last.Extends first (.concat (added :: parts)) where
  arguments := by
    rw [later.arguments, earlier.arguments, List.append_assoc]
    rfl
  systemIncludeDirs := by
    rw [later.systemIncludeDirs, earlier.systemIncludeDirs, List.append_assoc]
    rfl
  includeDirs := by
    rw [later.includeDirs, earlier.includeDirs, List.append_assoc]
    rfl
  defines := by
    rw [later.defines, earlier.defines, List.append_assoc]
    rfl
  undefines := by
    rw [later.undefines, earlier.undefines, List.append_assoc]
    rfl
  executable := later.executable.trans earlier.executable

theorem Extends.shown {later earlier : Options} {parts : List Additions}
    (more : later.Extends earlier (.concat parts)) {kind : Section}
    (listed : kind ∈ [.define, .undefine, .includeDir, .systemIncludeDir]) :
    later.shown kind = earlier.shown kind ++ parts.flatMap (·.values kind) := by
  rw [shown_eq, shown_eq]
  simp only [List.mem_cons, List.not_mem_nil, or_false] at listed
  rcases listed with rfl | rfl | rfl | rfl
  · exact more.defines
  · exact more.undefines
  · simp only [sectionValues, more.includeDirs, Additions.concat, Additions.values, List.map_append,
      List.map_flatMap]
  · simp only [sectionValues, more.systemIncludeDirs, Additions.concat, Additions.values, List.map_append,
      List.map_flatMap]

end Options

namespace Session

theorem operate_extends (operation : Operation σ) (session : Session σ) :
    (session.operate operation).2.options.Extends session.options (operation.additions session) := by
  have same {α : Type} {list : List α} : list = list ++ [] := (List.append_nil list).symm
  cases operation with
  | setupMsvc generation resolver => exact .withMsvc _ _ _
  | setupMsvcChoice choice resolver => exact .withMsvc _ _ _
  | setupXcode resolver =>
    rw [operate_setupXcode_options, Operation.additions]
    cases (resolver.folders.run.run session.surroundings).1 with
    | error missing => exact .refl _
    | ok folders => constructor <;> simp [Options.withFolders]
  | setup host =>
    show (session.setup host).2.options.Extends _ _
    rw [(session.setup_eq host).2]
    constructor <;> simp [Operation.additions]
  | apply config =>
    rw [operate_apply_options, Config.apply_eq]
    constructor <;> simp [Operation.additions]
  | addArgument => exact ⟨rfl, same, same, same, same, rfl⟩
  | addSystemIncludeDir => exact ⟨same, rfl, same, same, same, rfl⟩
  | addIncludeDir => exact ⟨same, same, rfl, same, same, rfl⟩
  | addDefine => exact ⟨same, same, same, rfl, same, rfl⟩
  | addUndefine => exact ⟨same, same, same, same, rfl, rfl⟩
  | setAbi | setMicrosoftMode | setRtti | setLanguage | setToolSet | setNoBuiltinIncludes
  | setNoStandardIncludes | setTarget | setVerbose => exact ⟨same, same, same, same, same, rfl⟩

def runAdditions (session : Session σ) (operations : List (Operation σ)) : Additions :=
  .concat ((Run.moments operate session operations).map fun moment =>
    moment.input.additions moment.before)

theorem run_extends (session : Session σ) (operations : List (Operation σ)) :
    (Run.final operate session operations).options.Extends session.options
      (session.runAdditions operations) := by
  induction operations generalizing session with
  | nil => exact .refl session.options
  | cons operation operations ih =>
    exact (ih (session.operate operation).2).cons (session.operate_extends operation)

/-- Over any run of operations, failing ones included, every list grows at its end by what the
operations add one after another, and so do the sections that the command line shows for lists. -/
theorem run_appends (session : Session σ) (operations : List (Operation σ)) :
    let added := (Run.moments operate session operations).map fun moment =>
      moment.input.additions moment.before
    let before := session.options
    let after := (Run.final operate session operations).options
    after.arguments = before.arguments ++ added.flatMap (·.arguments) ∧
      after.systemIncludeDirs = before.systemIncludeDirs ++ added.flatMap (·.systemIncludeDirs) ∧
      after.includeDirs = before.includeDirs ++ added.flatMap (·.includeDirs) ∧
      after.defines = before.defines ++ added.flatMap (·.defines) ∧
      after.undefines = before.undefines ++ added.flatMap (·.undefines) ∧
      before.defineSection <+: after.defineSection ∧
      before.undefineSection <+: after.undefineSection ∧
      before.includeSection <+: after.includeSection ∧
      before.systemIncludeSection <+: after.systemIncludeSection ∧
      (∀ kind ∈ [Section.define, .undefine, .includeDir, .systemIncludeDir],
        after.shown kind = before.shown kind ++ added.flatMap (·.values kind) ∧
          kind.write (before.shown kind) <+: kind.write (after.shown kind)) ∧
      after.executable = before.executable := by
  intro added before after
  have more : after.Extends before (.concat added) := session.run_extends operations
  have systemDirs : before.systemIncludeDirs <+: after.systemIncludeDirs :=
    ⟨_, more.systemIncludeDirs.symm⟩
  have includeDirs : before.includeDirs <+: after.includeDirs := ⟨_, more.includeDirs.symm⟩
  have defines : before.defines <+: after.defines := ⟨_, more.defines.symm⟩
  have undefines : before.undefines <+: after.undefines := ⟨_, more.undefines.symm⟩
  refine ⟨more.arguments, more.systemIncludeDirs, more.includeDirs, more.defines, more.undefines,
    defines.map _, undefines.map _, includeDirs.map _, systemDirs.flatMap _, ?_, more.executable⟩
  intro kind listed
  have grown := more.shown listed
  refine ⟨grown, ?_⟩
  rw [grown, Section.write_append]
  exact List.prefix_append _ _

end Session

end FrontEnd
