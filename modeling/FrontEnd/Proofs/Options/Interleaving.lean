import FrontEnd.Options.CommandLine
import FrontEnd.Proofs.Options.Operations
import FrontEnd.Proofs.Run
import FrontEnd.Toolchain.Fixed

namespace FrontEnd

variable {σ : Type}

inductive Part where
  | defines
  | undefines
  | includeDirs
  | target
  | verbose
  | toolchain
deriving DecidableEq

/-- The part that an operation sees and changes. Applying a configuration changes several. -/
def Operation.part? : Operation σ → Option Part
  | .addDefine _ => some .defines
  | .addUndefine _ => some .undefines
  | .addIncludeDir _ => some .includeDirs
  | .setTarget _ => some .target
  | .setVerbose _ => some .verbose
  | .addArgument _ | .addSystemIncludeDir _ => some .toolchain
  | .setupMsvc _ _ | .setupMsvcChoice _ _ | .setupXcode _ | .setup _ => some .toolchain
  | .setAbi _ | .setMicrosoftMode _ | .setRtti _ | .setLanguage _ | .setToolSet _ => some .toolchain
  | .setNoBuiltinIncludes _ | .setNoStandardIncludes _ => some .toolchain
  | .apply _ => none

def Operation.isOn (part : Part) (operation : Operation σ) : Bool :=
  operation.part? = some part

namespace Options

def toolchain (options : Options) : Options :=
  { options with defines := [], undefines := [], includeDirs := [], target := none, verbose := false }

theorem toolchain_withMsvc (options : Options) (compiler : Msvc.Compiler) (includes : List Path) :
    (options.withMsvc compiler includes).toolchain = options.toolchain.withMsvc compiler includes := by
  rw [withMsvc_eq, withMsvc_eq]
  rfl

theorem toolchain_withLanguageFlags (options : Options) :
    options.withLanguageFlags.toolchain = options.toolchain.withLanguageFlags := by
  rw [withLanguageFlags_eq, withLanguageFlags_eq]
  rfl

theorem setupXcode_toolchain (options : Options) (resolver : XcodeResolver (StateM σ)) (surroundings : σ) :
    (options.toolchain.setupXcode resolver).run surroundings =
      let done := (options.setupXcode resolver).run surroundings
      ((done.1.1, done.1.2.toolchain), done.2) := by
  rw [setupXcode_run, setupXcode_run]
  rcases resolver.folders.run.run surroundings with ⟨missing | folders, left⟩ <;> rfl

theorem setup_toolchain (options : Options) (host : Host (StateM σ)) (surroundings : σ) :
    (options.toolchain.setup host).run surroundings =
      let done := (options.setup host).run surroundings
      ((done.1.1, done.1.2.toolchain), done.2) := by
  cases macOS : host.platform.isMacOS with
  | true =>
    rw [setup_run_macOS _ _ macOS, setup_run_macOS _ _ macOS, ← toolchain_withLanguageFlags,
      setupXcode_toolchain]
  | false =>
    cases wanted : host.platform.isWindows && !options.noBuiltinIncludes with
    | true =>
      obtain ⟨windows, builtin⟩ : host.platform.isWindows = true ∧ options.noBuiltinIncludes = false := by
        simpa using wanted
      rw [options.setup_run_windows _ macOS windows builtin,
        options.toolchain.setup_run_windows _ macOS windows builtin]
      simp only [toolchain_withMsvc, toolchain_withLanguageFlags]
    | false =>
      have neither : host.platform.isWindows = false ∨ options.noBuiltinIncludes = true := by
        simpa [Classical.or_iff_not_imp_left] using wanted
      rw [options.setup_run_neither _ macOS neither, options.toolchain.setup_run_neither _ macOS neither,
        ← toolchain_withLanguageFlags]

end Options

namespace Session

def Held (σ : Type) : Part → Type
  | .defines | .undefines => List String
  | .includeDirs => List Path
  | .target => Option String
  | .verbose => Bool
  | .toolchain => Session σ

def toolchain (session : Session σ) : Session σ :=
  { session with options := session.options.toolchain }

def held (session : Session σ) : (part : Part) → Held σ part
  | .defines => session.options.defines
  | .undefines => session.options.undefines
  | .includeDirs => session.options.includeDirs
  | .target => session.options.target
  | .verbose => session.options.verbose
  | .toolchain => session.toolchain

theorem eq_of_held {first second : Session σ} (same : ∀ part, first.held part = second.held part) :
    first = second := by
  have defines : first.options.defines = second.options.defines := same .defines
  have undefines : first.options.undefines = second.options.undefines := same .undefines
  have includeDirs : first.options.includeDirs = second.options.includeDirs := same .includeDirs
  have target : first.options.target = second.options.target := same .target
  have verbose : first.options.verbose = second.options.verbose := same .verbose
  have rest : first.toolchain = second.toolchain := same .toolchain
  obtain ⟨⟨⟩, _⟩ := first
  obtain ⟨⟨⟩, _⟩ := second
  simp only [toolchain, Options.toolchain, Session.mk.injEq, Options.mk.injEq] at *
  simp only [*, and_self]

theorem perform_toolchain {ρ : Type} (session : Session σ) (action : Options → StateM σ (ρ × Options))
    (kept : (action session.options.toolchain).run session.surroundings =
      let done := (action session.options).run session.surroundings
      ((done.1.1, done.1.2.toolchain), done.2)) :
    session.toolchain.perform action = ((session.perform action).1, (session.perform action).2.toolchain) := by
  have options : session.toolchain.options = session.options.toolchain := rfl
  have surroundings : session.toolchain.surroundings = session.surroundings := rfl
  rw [perform, options, surroundings, kept]
  rfl

theorem operate_toolchain {operation : Operation σ} (on : operation.part? = some .toolchain)
    (session : Session σ) :
    session.toolchain.operate operation =
      ((session.operate operation).1, (session.operate operation).2.toolchain) := by
  have msvc (generation : Msvc.Generation) (resolver : MsvcResolver (StateM σ)) :
      session.toolchain.operate (.setupMsvc generation resolver) =
        ((session.operate (.setupMsvc generation resolver)).1,
          (session.operate (.setupMsvc generation resolver)).2.toolchain) := by
    have made := session.options.toolchain_withMsvc (resolver.compiler generation)
      ((resolver.systemIncludes generation).run session.surroundings).1
    exact Prod.ext rfl (congrArg (Session.mk · _) made.symm)
  cases operation with
  | setupMsvc generation resolver => exact msvc generation resolver
  | setupMsvcChoice choice resolver => exact msvc (.ofToken choice) resolver
  | setupXcode resolver =>
    exact session.perform_toolchain _ (session.options.setupXcode_toolchain resolver _)
  | setup host => exact session.perform_toolchain _ (session.options.setup_toolchain host _)
  | addArgument | addSystemIncludeDir | setAbi | setMicrosoftMode | setRtti | setLanguage | setToolSet
  | setNoBuiltinIncludes | setNoStandardIncludes => rfl
  | addDefine | addUndefine | addIncludeDir | setTarget | setVerbose | apply => cases on

/-- An operation on a part answers by what the part holds, and what it leaves there depends on
nothing else. -/
theorem operate_on {part : Part} {operation : Operation σ} (on : operation.part? = some part)
    (first second : Session σ) (same : first.held part = second.held part) :
    (first.operate operation).1 = (second.operate operation).1 ∧
      (first.operate operation).2.held part = (second.operate operation).2.held part := by
  cases operation with
  | addDefine define =>
    cases on
    exact ⟨rfl, congrArg (· ++ [define]) (show first.options.defines = second.options.defines from same)⟩
  | addUndefine macroName =>
    cases on
    exact ⟨rfl, congrArg (· ++ [macroName])
      (show first.options.undefines = second.options.undefines from same)⟩
  | addIncludeDir directory =>
    cases on
    exact ⟨rfl, congrArg (· ++ [directory])
      (show first.options.includeDirs = second.options.includeDirs from same)⟩
  | setTarget | setVerbose =>
    cases on
    exact ⟨rfl, rfl⟩
  | apply => cases on
  | addArgument | addSystemIncludeDir | setupMsvc | setupMsvcChoice | setupXcode | setup | setAbi
  | setMicrosoftMode | setRtti | setLanguage | setToolSet | setNoBuiltinIncludes | setNoStandardIncludes =>
    obtain rfl : Part.toolchain = part := Option.some.inj on
    have equal : first.toolchain = second.toolchain := same
    have runs := operate_toolchain on first
    rw [equal, operate_toolchain on second] at runs
    obtain ⟨answer, left⟩ := Prod.mk.inj runs
    exact ⟨answer.symm, left.symm⟩

theorem held_eq {first second : Session σ} {part : Part} (user : part ≠ .toolchain)
    (defines : first.options.defines = second.options.defines)
    (undefines : first.options.undefines = second.options.undefines)
    (includeDirs : first.options.includeDirs = second.options.includeDirs)
    (target : first.options.target = second.options.target)
    (verbose : first.options.verbose = second.options.verbose) : first.held part = second.held part := by
  cases part with
  | defines => exact defines
  | undefines => exact undefines
  | includeDirs => exact includeDirs
  | target => exact target
  | verbose => exact verbose
  | toolchain => exact absurd rfl user

theorem operate_off {part own : Part} {operation : Operation σ} (on : operation.part? = some own)
    (other : own ≠ part) (session : Session σ) :
    (session.operate operation).2.held part = session.held part := by
  cases operation with
  | addDefine | addUndefine | addIncludeDir | setTarget | setVerbose =>
    cases on
    -- On its own part there is nothing to show, and no other one is touched.
    cases part <;> first | exact absurd rfl other | rfl
  | apply => cases on
  | addArgument | addSystemIncludeDir | setAbi | setMicrosoftMode | setRtti | setLanguage | setToolSet
  | setNoBuiltinIncludes | setNoStandardIncludes =>
    cases on
    exact held_eq other.symm rfl rfl rfl rfl rfl
  | setupMsvc | setupMsvcChoice =>
    cases on
    refine held_eq other.symm ?_ ?_ ?_ ?_ ?_ <;>
      simp only [operate_setupMsvcChoice, operate_setupMsvc_options, Options.withMsvc_eq]
  | setupXcode resolver =>
    cases on
    have made := session.operate_setupXcode_options resolver
    cases found : (resolver.folders.run.run session.surroundings).1 with
    | error missing =>
      rw [found] at made
      refine held_eq other.symm ?_ ?_ ?_ ?_ ?_ <;> rw [made]
    | ok folders =>
      rw [found] at made
      refine held_eq other.symm ?_ ?_ ?_ ?_ ?_ <;> rw [made] <;> rfl
  | setup host =>
    cases on
    have made : (session.operate (.setup host)).2.options = _ := (session.setup_eq host).2
    refine held_eq other.symm ?_ ?_ ?_ ?_ ?_ <;> rw [made]

theorem run_of_part (part : Part) (session : Session σ) (operations : List (Operation σ))
    (parted : ∀ operation ∈ operations, operation.part?.isSome = true) :
    (Run.final operate session operations).held part =
        (Run.final operate session (operations.filter (·.isOn part))).held part ∧
      Run.answersWhere operate (·.isOn part) session operations =
        Run.answers operate session (operations.filter (·.isOn part)) := by
  refine Run.run_filter (fun session => held session part) ?_ ?_ session session rfl
  · intro operation _ on first second same
    exact operate_on (of_decide_eq_true on) first second same
  · intro operation member off start
    obtain ⟨own, on⟩ := Option.isSome_iff_exists.mp (parted operation member)
    refine operate_off on ?_ start
    rintro rfl
    exact of_decide_eq_false off on

/-- Two runs with the same operations on each part, in the same order there, end alike and give the
same answers on each part, however the parts are interleaved. -/
theorem interleaving_irrelevant (session : Session σ) (first second : List (Operation σ))
    (first_parted : ∀ operation ∈ first, operation.part?.isSome = true)
    (second_parted : ∀ operation ∈ second, operation.part?.isSome = true)
    (same : ∀ part, first.filter (·.isOn part) = second.filter (·.isOn part)) :
    Run.final operate session first = Run.final operate session second ∧
      (∀ part, Run.answersWhere operate (·.isOn part) session first =
        Run.answersWhere operate (·.isOn part) session second) ∧
      (Run.final operate session first).options.commandLine =
        (Run.final operate session second).options.commandLine := by
  have ends : Run.final operate session first = Run.final operate session second := by
    refine eq_of_held fun part => ?_
    rw [(session.run_of_part part first first_parted).1, same part,
      (session.run_of_part part second second_parted).1]
  refine ⟨ends, fun part => ?_, by rw [ends]⟩
  rw [(session.run_of_part part first first_parted).2, same part,
    (session.run_of_part part second second_parted).2]

/-- What the user adds around a setup that fails and one that does not may as well come last. -/
theorem interleaving_irrelevant_around_setups :
    let host (platform : Platform) : Host (StateM Unit) := {
      platform
      msvc := Fixed.Msvc.resolver {}
      xcode := Fixed.xcodeResolver (some .cpp) }
    let macOS := host OsFamily.macOS.platform
    let windows := host OsFamily.windows.platform
    let session : Session Unit := ⟨Options.new OsFamily.unix.platform ⟨[]⟩, ()⟩
    let first : List (Operation Unit) :=
      [.addDefine "A=1", .setup macOS, .setTarget (some "x"), .addUndefine "B", .setup windows]
    let second : List (Operation Unit) :=
      [.setup macOS, .setup windows, .addUndefine "B", .addDefine "A=1", .setTarget (some "x")]
    (∀ operation ∈ first, operation.part?.isSome = true) ∧
      (∀ operation ∈ second, operation.part?.isSome = true) ∧
      (∀ part, first.filter (·.isOn part) = second.filter (·.isOn part)) ∧
      Run.final operate session first = Run.final operate session second := by
  intro host macOS windows session first second
  have first_parted : ∀ operation ∈ first, operation.part?.isSome = true := by
    simp [first, Operation.part?]
  have second_parted : ∀ operation ∈ second, operation.part?.isSome = true := by
    simp [second, Operation.part?]
  have same (part : Part) : first.filter (·.isOn part) = second.filter (·.isOn part) := by
    cases part <;> rfl
  exact ⟨first_parted, second_parted, same,
    (session.interleaving_irrelevant first second first_parted second_parted same).1⟩

end Session

end FrontEnd
