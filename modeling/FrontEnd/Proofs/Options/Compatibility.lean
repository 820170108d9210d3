import FrontEnd.Proofs.CommandLine.Decoding
import FrontEnd.Proofs.Config.Apply
import FrontEnd.Proofs.Options.Operations
import FrontEnd.Proofs.Run
import FrontEnd.Toolchain.Fixed

namespace FrontEnd

open CommandLine

variable {σ : Type}

/-- Whether an operation leaves it to setups to manage compatibility: it assigns to none of its
fields, and overrides no ABI. -/
def Operation.LeavesCompatibility : Operation σ → Prop
  | .setAbi _ | .setMicrosoftMode _ | .setToolSet _ => False
  | .setNoBuiltinIncludes _ | .setNoStandardIncludes _ => False
  | .apply config => config.parser.abi = none
  | _ => True

/-- The compiler that a resolver reports to an operation that sets up for Microsoft's. -/
def Operation.compiler? (session : Session σ) : Operation σ → Option Msvc.Compiler
  | .setupMsvc generation resolver => some (resolver.compiler generation)
  | .setupMsvcChoice choice resolver => some (resolver.compiler (.ofToken choice))
  | .setup host => if session.takesMsvc host then some (Session.msvcCompiler host) else none
  | _ => none

def latestCompiler? (past : List (Run.Moment (Operation σ) (Session σ))) : Option Msvc.Compiler :=
  (past.filterMap fun moment => moment.input.compiler? moment.before).getLast?

theorem latestCompiler?_append (past : List (Run.Moment (Operation σ) (Session σ)))
    (operation : Operation σ) (session : Session σ) :
    latestCompiler? (past ++ [⟨operation, session⟩]) =
      (operation.compiler? session).or (latestCompiler? past) := by
  unfold latestCompiler?
  cases found : operation.compiler? session <;> simp [List.filterMap_append, found]

namespace Options

structure Consistent (options : Options) (latest : Option Msvc.Compiler) : Prop where
  abi : options.abi = .microsoft ↔ options.microsoftMode = true
  includes : options.noBuiltinIncludes = options.noStandardIncludes
  toolSet : options.toolSet = (latest.bind Msvc.Compiler.toolSet?).getD 0
  setUp : latest.isSome = true → options.microsoftMode = true ∧ options.noBuiltinIncludes = true

theorem Consistent.new (family : OsFamily) (executable : Path) :
    (Options.new family.platform executable).Consistent none where
  abi := by cases family <;> simp [Options.new, OsFamily.platform]
  includes := rfl
  toolSet := rfl
  setUp := nofun

theorem Consistent.withMsvc (options : Options) (compiler : Msvc.Compiler) (includes : List Path) :
    (options.withMsvc compiler includes).Consistent (some compiler) := by
  rw [withMsvc_eq]
  exact ⟨⟨fun _ => rfl, fun _ => rfl⟩, rfl, rfl, fun _ => ⟨rfl, rfl⟩⟩

theorem Consistent.congr {options other : Options} {latest : Option Msvc.Compiler}
    (consistent : options.Consistent latest) (abi : other.abi = options.abi)
    (mode : other.microsoftMode = options.microsoftMode) (toolSet : other.toolSet = options.toolSet)
    (builtin : other.noBuiltinIncludes = options.noBuiltinIncludes)
    (standard : other.noStandardIncludes = options.noStandardIncludes) : other.Consistent latest where
  abi := by rw [abi, mode]; exact consistent.abi
  includes := by rw [builtin, standard]; exact consistent.includes
  toolSet := by rw [toolSet]; exact consistent.toolSet
  setUp := by rw [mode, builtin]; exact consistent.setUp

theorem Consistent.leaveOut {options other : Options} {latest : Option Msvc.Compiler}
    (consistent : options.Consistent latest) (abi : other.abi = options.abi)
    (mode : other.microsoftMode = options.microsoftMode) (toolSet : other.toolSet = options.toolSet)
    (builtin : other.noBuiltinIncludes = true) (standard : other.noStandardIncludes = true) :
    other.Consistent latest where
  abi := by rw [abi, mode]; exact consistent.abi
  includes := by rw [builtin, standard]
  toolSet := by rw [toolSet]; exact consistent.toolSet
  setUp some := ⟨by rw [mode]; exact (consistent.setUp some).1, builtin⟩

end Options

theorem Session.consistent_setup {session : Session σ} {latest : Option Msvc.Compiler}
    (host : Host (StateM σ)) (consistent : session.options.Consistent latest) :
    (session.setup host).2.options.Consistent (((Operation.setup host).compiler? session).or latest) := by
  rw [(session.setup_eq host).2]
  cases taken : session.takesMsvc host with
  | true =>
    simp only [Operation.compiler?, taken, if_true, Option.some_or]
    constructor <;> simp [Session.setsUpHeaders, taken]
  | false =>
    simp only [Operation.compiler?, taken, Bool.false_eq_true, if_false, Option.none_or]
    cases headers : session.setsUpHeaders host with
    | true => apply consistent.leaveOut <;> simp
    | false => apply consistent.congr <;> simp

theorem Session.consistent_operate {session : Session σ} {latest : Option Msvc.Compiler}
    {operation : Operation σ} (leaves : operation.LeavesCompatibility)
    (consistent : session.options.Consistent latest) :
    (session.operate operation).2.options.Consistent ((operation.compiler? session).or latest) := by
  cases operation with
  | setupMsvc generation resolver => exact Options.Consistent.withMsvc _ _ _
  | setupMsvcChoice choice resolver => exact Options.Consistent.withMsvc _ _ _
  | setupXcode resolver =>
    rw [operate_setupXcode_options]
    cases (resolver.folders.run.run session.surroundings).1 with
    | error missing => exact consistent
    | ok folders => exact consistent.leaveOut rfl rfl rfl rfl rfl
  | setup host => exact session.consistent_setup host consistent
  | apply config =>
    have unset : config.parser.abi = none := leaves
    rw [operate_apply_options, Config.apply_eq]
    refine consistent.congr ?_ rfl rfl rfl rfl
    rw [unset, Option.getD_none]
  | setAbi | setMicrosoftMode | setToolSet | setNoBuiltinIncludes | setNoStandardIncludes => exact leaves.elim
  | addArgument | addDefine | addUndefine | addIncludeDir | addSystemIncludeDir | setRtti | setLanguage
  | setTarget | setVerbose => exact consistent.congr rfl rfl rfl rfl rfl

theorem Session.consistent_run (family : OsFamily) (executable : Path) (surroundings : σ)
    (operations : List (Operation σ))
    (leaves : ∀ operation ∈ operations, operation.LeavesCompatibility) :
    let start : Session σ := ⟨Options.new family.platform executable, surroundings⟩
    (Run.final Session.operate start operations).options.Consistent
      (latestCompiler? (Run.moments Session.operate start operations)) := by
  intro start
  refine Run.final_of_history
    (P := fun past (session : Session σ) => session.options.Consistent (latestCompiler? past))
    (Options.Consistent.new family executable) operations ?_
  intro past operation member session consistent
  rw [latestCompiler?_append]
  exact session.consistent_operate (leaves operation member) consistent

/-- The flag that names the latest compiler. There is none for a version that has no identifier, nor
for the one whose identifier stands for no tool set. -/
def versionFlag : Option Msvc.Compiler → List String
  | some compiler =>
    if compiler.toolSet?.isSome = true ∧ compiler ≠ ⟨0, 0⟩ then
      ["-fms-compatibility-version=" ++ compiler.render]
    else []
  | none => []

theorem Options.Consistent.compatibilitySection_eq {options : Options} {latest : Option Msvc.Compiler}
    (consistent : options.Consistent latest) : options.compatibilitySection = versionFlag latest := by
  have toolSet := consistent.toolSet
  cases latest with
  | none =>
    have told : options.compatibility? = none := by
      simp only [Option.bind_none, Option.getD_none] at toolSet
      simp [compatibility?, toolSet, Msvc.Compiler.ofToolSet?]
    simp only [compatibilitySection, told, versionFlag]
  | some compiler =>
    obtain ⟨mode, -⟩ := consistent.setUp rfl
    have told : options.compatibility? = Msvc.Compiler.ofToolSet? options.toolSet := by
      simp only [compatibility?, mode, if_true]
    rw [Option.bind_some] at toolSet
    cases made : compiler.toolSet? with
    | none =>
      rw [made, Option.getD_none] at toolSet
      simp [compatibilitySection, told, toolSet, Msvc.Compiler.ofToolSet?, versionFlag, made]
    | some identifier =>
      rw [made, Option.getD_some] at toolSet
      by_cases zero : identifier = 0
      · have nameless := compiler.toolSet?_eq_zero_iff.mp (zero ▸ made)
        simp [compatibilitySection, told, toolSet, zero, Msvc.Compiler.ofToolSet?, versionFlag, nameless]
      · have named : compiler ≠ ⟨0, 0⟩ := by
          intro nameless
          rw [compiler.toolSet?_eq_zero_iff.mpr nameless, Option.some.injEq] at made
          exact zero made.symm
        have decoded := Msvc.Compiler.ofToolSet?_of_toolSet? made zero
        simp [compatibilitySection, told, toolSet, decoded, versionFlag, made, named]

/-- In options made for a family of systems and used in any way that leaves compatibility to setups,
the ABI, the mode and the include flags go together, and the tool set and the one version flag that
the command line has after the arguments are those of the latest setup for Microsoft's compiler. -/
theorem compatibility_of_run (family : OsFamily) (executable : Path) (surroundings : σ)
    (operations : List (Operation σ))
    (leaves : ∀ operation ∈ operations, operation.LeavesCompatibility) :
    let start : Session σ := ⟨Options.new family.platform executable, surroundings⟩
    let options := (Run.final Session.operate start operations).options
    let latest := latestCompiler? (Run.moments Session.operate start operations)
    (options.abi = .microsoft ↔ options.microsoftMode = true) ∧
      options.noBuiltinIncludes = options.noStandardIncludes ∧
      (options.toolSet ≠ 0 → options.microsoftMode = true ∧
        options.noBuiltinIncludes = true ∧ options.noStandardIncludes = true) ∧
      options.toolSet = (latest.bind Msvc.Compiler.toolSet?).getD 0 ∧
      options.compatibilitySection = versionFlag latest ∧
      ∃ own, options.commandLine = options.arguments ++ own ∧
        (optionWords own).filter Section.compatibility.begins = versionFlag latest := by
  intro start options latest
  have consistent : options.Consistent latest :=
    Session.consistent_run family executable surroundings operations leaves
  refine ⟨consistent.abi, consistent.includes, ?_, consistent.toolSet, consistent.compatibilitySection_eq,
    options.ownSections, rfl, ?_⟩
  · intro set
    have some_latest : latest.isSome = true := by
      cases found : latest with
      | none => exact absurd (by rw [consistent.toolSet, found]; rfl) set
      | some compiler => rfl
    obtain ⟨mode, builtin⟩ := consistent.setUp some_latest
    exact ⟨mode, builtin, consistent.includes ▸ builtin⟩
  · rw [options.filter_compatibility_ownSections]
    exact consistent.compatibilitySection_eq

/-- Options made on Unix, with a setup for Xcode that fails and one for Windows. -/
theorem compatibility_of_mixed_run :
    let host : Host (StateM Unit) := {
      platform := OsFamily.windows.platform
      msvc := Fixed.Msvc.resolver { compiler := some ⟨19, 10⟩ }
      xcode := Fixed.xcodeResolver none }
    let operations : List (Operation Unit) := [
      .addDefine "A=1", .setupXcode (Fixed.xcodeResolver (some .cpp)), .setup host,
      .apply { parser := { rtti := some true } }, .setVerbose true]
    let start : Session Unit := ⟨Options.new OsFamily.unix.platform ⟨[]⟩, ()⟩
    let options := (Run.final Session.operate start operations).options
    (∀ operation ∈ operations, operation.LeavesCompatibility) ∧ options.toolSet = 191000000 ∧
      ∃ own, options.commandLine = options.arguments ++ own ∧
        (optionWords own).filter Section.compatibility.begins = ["-fms-compatibility-version=19.10"] := by
  intro host operations start options
  have leaves : ∀ operation ∈ operations, operation.LeavesCompatibility := by
    simp [operations, Operation.LeavesCompatibility]
  obtain ⟨-, -, -, toolSet, -, own, listed, flagged⟩ := compatibility_of_run .unix ⟨[]⟩ () operations leaves
  have latest : latestCompiler? (Run.moments Session.operate start operations) = some ⟨19, 10⟩ := rfl
  have nineteen : Decimal.render (19 : UInt32).toNat = "19" := Decimal.render_two_digits (by decide) (by decide)
  have ten : Decimal.render (10 : UInt32).toNat = "10" := Decimal.render_two_digits (by decide) (by decide)
  have flag : versionFlag (some ⟨19, 10⟩) = ["-fms-compatibility-version=19.10"] := by
    have encoded : (⟨19, 10⟩ : Msvc.Compiler).toolSet?.isSome = true ∧ (⟨19, 10⟩ : Msvc.Compiler) ≠ ⟨0, 0⟩ := by
      decide
    rw [versionFlag, if_pos encoded, Msvc.Compiler.render, nineteen, ten]
    rfl
  refine ⟨leaves, toolSet.trans ?_, own, listed, flagged.trans ?_⟩
  · decide
  · rw [latest, flag]

end FrontEnd
