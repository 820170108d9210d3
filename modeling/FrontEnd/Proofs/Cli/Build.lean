import FrontEnd.Cli.Run
import FrontEnd.Proofs.Config.Apply
import FrontEnd.Proofs.Config.Layers
import FrontEnd.Proofs.World.Directories
import FrontEnd.Proofs.Xcode.Locating
import Mathlib.Data.List.Infix

namespace FrontEnd.Cli

theorem SetupArgs.apply_eq (args : SetupArgs) (options : Options) :
    args.apply options = { options with
      language := args.language.getD options.language
      rtti := args.rtti || options.rtti
      target := args.target <|> options.target
      defines := options.defines ++ args.defines
      undefines := options.undefines ++ args.undefines
      includeDirs := options.includeDirs ++ args.includes } := by
  simp only [apply, Options.foldl_addDefine, Options.foldl_addUndefine, Options.foldl_addIncludeDir]

def SetupArgs.plain (args : SetupArgs) (config : Config) (executable : Path) : Options :=
  args.apply (config.apply (Options.new OsFamily.current.platform executable))

def SetupArgs.withMsvc (args : SetupArgs) (world : World) (options : Options) : Options :=
  match args.msvc with
  | some token =>
    options.withMsvc (Msvc.Generation.ofToken (some token)).compiler
      (Msvc.systemIncludes (.ofToken (some token)) world).1
  | none => options

def SetupArgs.developer (args : SetupArgs) (world : World) : Path :=
  args.developerDir.getD (Xcode.locate world).1

def SetupArgs.msvcPart (args : SetupArgs) (options : Options) : StateM Machine Options :=
  match args.msvc with
  | some token => options.setupMsvcChoice (some token) Msvc.resolver
  | none => pure options

def SetupArgs.hostPart (args : SetupArgs) (host : Host (StateM Machine)) (options : Options) :
    StateM Machine (Except RunError Options) := do
  let (xcode, options) ←
    if args.xcode && !host.platform.isMacOS then options.setupXcode host.xcode
    else pure (.ok (), options)
  match xcode with
  | .error error => return .error (.xcodeHeaders error)
  | .ok () =>
    match ← options.setup host with
    | (.error error, _) => return .error (.setup error)
    | (.ok (), options) => return .ok options

theorem setUp_eq_parts (args : SetupArgs) (config : Config) (executable : Path) :
    setUp args config executable =
      args.msvcPart (args.plain config executable) >>= args.hostPart (Host.current config.msvc.version) := by
  simp only [setUp, SetupArgs.msvcPart]
  cases args.msvc <;> rfl

theorem SetupArgs.msvcPart_run (args : SetupArgs) (options : Options) (machine : Machine) :
    ∃ left, (args.msvcPart options).run machine = (args.withMsvc machine.world options, left) ∧
      machine.world.Ran left.world ∧ left.developerDirectory = machine.developerDirectory := by
  simp only [msvcPart, withMsvc]
  cases args.msvc with
  | none => exact ⟨machine, rfl, .refl _, rfl⟩
  | some token =>
    let directories := Msvc.systemIncludes (.ofToken (some token)) machine.world
    exact ⟨{ machine with world := directories.2 }, rfl, Msvc.systemIncludes_ran _ _, rfl⟩

theorem SetupArgs.hostPart_run (args : SetupArgs) (visualStudio : Option String) (options : Options)
    (machine : Machine) :
    ((args.hostPart (Host.current visualStudio) options).run machine).1 =
      if args.xcode then
        match Xcode.folders machine.world (Xcode.developer machine) with
        | .error missing => .error (.xcodeHeaders missing)
        | .ok folders => .ok (options.withFolders folders).withLanguageFlags
      else .ok options.withLanguageFlags := by
  have setup (options : Options) (machine : Machine) :
      (options.setup (Host.current visualStudio)).run machine = ((.ok (), options.withLanguageFlags), machine) :=
    options.setup_run_neither machine rfl (.inl rfl)
  have unix : (Host.current visualStudio).platform.isMacOS = false := rfl
  cases asked : args.xcode with
  | false =>
    have skipped : (pure (.ok (), options) : StateM Machine (Except ToolchainError Unit × Options)).run machine =
      ((.ok (), options), machine) := rfl
    simp only [hostPart, asked, Bool.false_and, Bool.false_eq_true, if_false, run_bind_stateM, skipped, setup]
    rfl
  | true =>
    obtain ⟨left, found, -⟩ := Xcode.resolver_folders_run machine
    have run : (options.setupXcode (Host.current visualStudio).xcode).run machine = _ :=
      options.setupXcode_run Xcode.resolver machine
    rw [found] at run
    simp only [hostPart, asked, unix, Bool.not_false, Bool.and_self, if_true, run_bind_stateM, run]
    cases Xcode.folders machine.world (Xcode.developer machine) with
    | error missing => rfl
    | ok folders =>
      simp only [run_bind_stateM, setup]
      rfl

/-- The options that a command line asks for, field by field, if no header folder is missing. -/
def SetupArgs.described (args : SetupArgs) (config : Config) (world : World) : Options :=
  let language := args.language.getD (config.parser.language.getD .gnuCpp11)
  let rtti := args.rtti || config.parser.rtti.getD false
  { abi := if args.msvc.isSome then .microsoft else config.parser.abi.getD .itanium
    microsoftMode := args.msvc.isSome
    rtti
    language
    toolSet :=
      (args.msvc.bind fun token => (Msvc.Generation.ofToken (some token)).compiler.toolSet?).getD 0
    noBuiltinIncludes := args.msvc.isSome || args.xcode
    noStandardIncludes := args.msvc.isSome || args.xcode
    target := args.target <|> config.parser.target
    verbose := false
    arguments :=
      (if args.msvc.isSome then ["-fms-extensions", "-fms-compatibility", "-fdelayed-template-parsing"]
        else []) ++
      (if args.xcode then ["-stdlib=libc++"] else []) ++
      [language.languageFlag, language.standardFlag args.msvc.isSome] ++
      (if rtti then [] else ["-fno-rtti"])
    systemIncludeDirs :=
      (args.msvc.map fun token => (Msvc.systemIncludes (.ofToken (some token)) world).1).getD [] ++
      (if args.xcode then (Xcode.lookups world (args.developer world)).filterMap Except.toOption else [])
    includeDirs := config.parser.includeDirs ++ args.includes
    defines := config.parser.defines ++ args.defines
    undefines := args.undefines
    executable := world.executable }

theorem SetupArgs.parts_eq (args : SetupArgs) (config : Config) (world : World) :
    let options := args.withMsvc world (args.plain config world.executable)
    (if args.xcode then
      (options.withFolders
        ((Xcode.lookups world (args.developer world)).filterMap Except.toOption)).withLanguageFlags
    else options.withLanguageFlags) = args.described config world := by
  intro options
  have plain : args.plain config world.executable = { Options.new OsFamily.current.platform world.executable with
      abi := config.parser.abi.getD .itanium
      rtti := args.rtti || config.parser.rtti.getD false
      language := args.language.getD (config.parser.language.getD .gnuCpp11)
      target := args.target <|> config.parser.target
      includeDirs := config.parser.includeDirs ++ args.includes
      defines := config.parser.defines ++ args.defines
      undefines := args.undefines } := by
    simp [SetupArgs.plain, apply_eq, Config.apply_eq, Options.new, OsFamily.current, OsFamily.platform]
  have made : options = args.withMsvc world (args.plain config world.executable) := rfl
  rw [plain] at made
  simp only [made, described, withMsvc]
  cases args.msvc <;> cases args.xcode <;>
    simp [Options.withLanguageFlags_eq, Options.languageFlags, Options.withFolders, Options.withMsvc_eq,
      Options.compatibilityFlags, Options.new, OsFamily.current, OsFamily.platform]

variable {home : World → Option Path}

theorem buildOptions_eq (args : SetupArgs) (world : World) {project : Path}
    (known : (args.project <|> world.currentDirectory?) = some project) :
    (buildOptions home args world).1 =
      if args.xcode then
        match Xcode.folders world (args.developer world) with
        | .error missing => .error (.xcodeHeaders missing)
        | .ok _ => .ok (args.described (Config.layered (home world) world project) world)
      else .ok (args.described (Config.layered (home world) world project) world) := by
  let config := Config.loadFor home world project
  obtain ⟨left, run, ran, kept⟩ := args.msvcPart_run (args.plain config world.executable)
    { world, developerDirectory := args.developerDir }
  have developer : Xcode.developer left = args.developer world := by
    rw [Xcode.developer, kept, Xcode.locate_of_ran ran, SetupArgs.developer]
  have built : (buildOptions home args world).1 = ((setUp args config world.executable).run
      { world, developerDirectory := args.developerDir }).1 := by
    simp only [buildOptions, known]
    rfl
  have described := args.parts_eq config world
  rw [built, setUp_eq_parts, run_bind_stateM, run, SetupArgs.hostPart_run, developer,
    Xcode.folders_of_ran ran, ← Config.loadFor_eq_layered]
  cases asked : args.xcode with
  | false =>
    simp only [asked, Bool.false_eq_true, if_false] at described ⊢
    rw [described]
  | true =>
    simp only [asked, if_true] at described ⊢
    cases found : Xcode.folders world (args.developer world) with
    | error missing => rfl
    | ok folders =>
      rw [Xcode.filterMap_lookups found] at described
      exact congrArg Except.ok described

theorem buildOptions_fails_iff (args : SetupArgs) (world : World) {project : Path}
    (known : (args.project <|> world.currentDirectory?) = some project) :
    (∃ error, (buildOptions home args world).1 = .error error) ↔
      args.xcode = true ∧
        ∃ missing, .error missing ∈ Xcode.lookups world (args.developer world) := by
  rw [buildOptions_eq args world known]
  cases args.xcode with
  | false => simp
  | true =>
    rcases Xcode.folders_cases world (args.developer world) with
      ⟨missing, found, member⟩ | ⟨paths, found, all⟩
    · simp only [found, if_true]
      exact ⟨fun _ => ⟨trivial, missing, member⟩, fun _ => ⟨_, rfl⟩⟩
    · simp [found, all]

theorem buildOptions_described (args : SetupArgs) (world : World) {project : Path}
    (known : (args.project <|> world.currentDirectory?) = some project) {options : Options}
    (built : (buildOptions home args world).1 = .ok options) :
    options = args.described (Config.layered (home world) world project) world := by
  rw [buildOptions_eq args world known] at built
  split at built
  · split at built
    · cases built
    · exact (Except.ok.inj built).symm
  · exact (Except.ok.inj built).symm

theorem SetupArgs.developer_located {args : SetupArgs} (ungiven : args.developerDir = none) (world : World) :
    Xcode.Locates world (args.developer world) := by
  rw [Xcode.locates_iff, developer, ungiven, Option.getD_none]

theorem Request.run_outcome (home : World → Option Path) (request : Request) (world : World) :
    (request.run home world).1 =
      match (buildOptions home request.setup world).1.bind request.print with
      | .error error => .failed error.message
      | .ok text => { code := 0, output := text } := by
  unfold Request.run
  rcases buildOptions home request.setup world with ⟨error | options, left⟩
  · rfl
  · simp only [Except.bind]
    cases request.print options <;> rfl

theorem Request.outcome_cases (home : World → Option Path) (request : Request) (world : World) :
    let outcome := (request.run home world).1
    (outcome.code = 0 ∨ outcome.code = 1 ∧ outcome.output = "") ∧
      (outcome.code = 0 ↔ ∃ options, (buildOptions home request.setup world).1 = .ok options ∧
        request.print options = .ok outcome.output) := by
  intro outcome
  have left : outcome = _ := request.run_outcome home world
  cases built : (buildOptions home request.setup world).1 with
  | error error =>
    rw [built] at left
    simp only [Except.bind] at left
    simp [left, Outcome.failed]
  | ok options =>
    rw [built] at left
    simp only [Except.bind] at left
    cases printed : request.print options with
    | error error =>
      rw [printed] at left
      simp [left, Outcome.failed, printed]
    | ok text =>
      rw [printed] at left
      simp [left, printed]

/-- What a command line that asks for a run comes to in a known project: when its options are not
built, what they are if they are, and what is printed. -/
theorem setup_of_commandLine (home : World → Option Path) (args : SetupArgs) (world : World) {project : Path}
    (known : (args.project <|> world.currentDirectory?) = some project) :
    let built := (buildOptions home args world).1
    let lookups := Xcode.lookups world (args.developer world)
    ((∃ error, built = .error error) ↔ args.xcode = true ∧ ∃ missing, .error missing ∈ lookups) ∧
      (∀ options, built = .ok options →
        options = args.described (Config.layered (home world) world project) world) ∧
      (Config.NamedByEnvironment home → ∀ directory, world.env? "HOME" = some directory → directory ≠ [] →
        ∀ options, built = .ok options →
          options = args.described (Config.layered (some ⟨directory⟩) world project) world) ∧
      (args.developerDir = none → Xcode.Locates world (args.developer world)) ∧
      ∀ arguments request, read (world.env? developerVariable) arguments = .ok request →
        request.setup = args →
        let outcome := (run home world arguments).1
        (outcome.code = 0 ∨ outcome.code = 1 ∧ outcome.output = "") ∧
          (outcome.code = 0 ↔ ∃ options, built = .ok options ∧ request.print options = .ok outcome.output) ∧
          ∀ options, built = .ok options → request.verb = .args →
            outcome = { code := 0, output := String.join (options.commandLine.map (· ++ "\n")) } := by
  intro built lookups
  have described (options : Options) (made : built = .ok options) :
      options = args.described (Config.layered (home world) world project) world :=
    buildOptions_described args world known made
  refine ⟨buildOptions_fails_iff args world known, described, ?_,
    fun ungiven => SetupArgs.developer_located ungiven world, ?_⟩
  · intro named directory set filled options made
    rw [← named world directory set filled]
    exact described options made
  rintro arguments request asked rfl
  simp only [run, asked]
  obtain ⟨exits, success⟩ := request.outcome_cases home world
  refine ⟨exits, success, ?_⟩
  intro options made verb
  have printed : request.print options = .ok (String.join (options.commandLine.map (· ++ "\n"))) := by
    simp only [Request.print, verb]
  rw [request.run_outcome home world, show (buildOptions home request.setup world).1 = .ok options from made]
  simp only [Except.bind, printed]

/-- A user's and a project's file, in a developer prompt and with Xcode's command-line tools. -/
theorem setup_of_commandLine_with_both_files :
    let home (world : World) : Option Path := ((world.env? "HOME").filter (· ≠ [])).map Path.mk
    let names (location : List String) : Location := (location.map Bytes.ofText).reverse
    let directories := [["h"], ["h", ".cxxparse"], ["p"], ["p", ".cxxparse"], ["d"], ["d", "usr"], ["d", "usr", "lib"],
      ["d", "usr", "lib", "clang"], ["d", "usr", "lib", "clang", "15.0"],
      ["d", "usr", "lib", "clang", "15.0", "include"], ["d", "usr", "include"], ["d", "usr", "include", "c++"],
      ["d", "usr", "include", "c++", "v1"], ["d", "SDKs"], ["d", "SDKs", "MacOSX.sdk"],
      ["d", "SDKs", "MacOSX.sdk", "usr"], ["d", "SDKs", "MacOSX.sdk", "usr", "include"]]
    let user := "[parser]\nlanguage = \"c++98\"\ntarget = \"x86_64\"\n"
    let own := "[parser]\nlanguage = \"c++11\"\n"
    let world : World := {
      tree := {
        entries := directories.map (fun location => (names location, .directory)) ++
          [(names ["h", ".cxxparse", "config.toml"], .file (Bytes.ofText user) .forbidden),
            (names ["p", ".cxxparse", "config.toml"], .file (Bytes.ofText own) .forbidden)]
        nodup := by decide }
      environment := [("HOME", "/h"), ("INCLUDE", "/crt; /sdk")].map fun setting =>
        (.ofText setting.1, .ofText setting.2)
      directory := []
      executable := .ofText "/bin/cxxparse"
      calls := []
      attempts := [] }
    let args : SetupArgs := {
      msvc := some "latest", xcode := true, developerDir := some (.ofText "/d"), project := some (.ofText "/p") }
    (args.project <|> world.currentDirectory?) = some (Path.ofText "/p") ∧ Config.NamedByEnvironment home ∧
      world.env? "HOME" = some (Bytes.ofText "/h") ∧
      ∃ options, (buildOptions home args world).1 = .ok options ∧ options.language = .cpp11 ∧
        options.target = some "x86_64" ∧ options.toolSet = 191000000 ∧
        options.systemIncludeDirs = ["/crt", "/sdk", "/d/usr/lib/clang/15.0/include", "/d/usr/include/c++/v1",
          "/d/SDKs/MacOSX.sdk/usr/include"].map Path.ofText := by
  intro home names directories user own world args
  have known : (args.project <|> world.currentDirectory?) = some (Path.ofText "/p") := rfl
  have named : Config.NamedByEnvironment home := by
    intro somewhere directory set filled
    simp [home, set, filled]
  have set : world.env? "HOME" = some (Bytes.ofText "/h") := by decide
  have usersFile : Config.loaded world (.ofText "/h/.cxxparse/config.toml") =
      { parser := { language := some .cpp98, target := some "x86_64" } } := by
    have stands : world.find? (.ofText "/h/.cxxparse/config.toml") = some (.file (Bytes.ofText user) .forbidden) := by
      decide
    have written : user = Toml.renderSections
        [("parser", [("language", .text "c++98"), ("target", .text "x86_64")])] := by decide
    have settings : Config.parse? user = some { parser := { language := some .cpp98, target := some "x86_64" } } := by
      rw [written, Config.parse?_sections ⟨by decide, by decide, by decide, by decide⟩]
      rfl
    exact Config.loaded_of_text stands settings
  have projectsFile : Config.loaded world (.ofText "/p/.cxxparse/config.toml") =
      { parser := { language := some .cpp11 } } := by
    have stands : world.find? (.ofText "/p/.cxxparse/config.toml") = some (.file (Bytes.ofText own) .forbidden) := by
      decide
    have written : own = Toml.renderSections [("parser", [("language", .text "c++11")])] := by decide
    have settings : Config.parse? own = some { parser := { language := some .cpp11 } } := by
      rw [written, Config.parse?_sections ⟨by decide, by decide, by decide, by decide⟩]
      rfl
    exact Config.loaded_of_text stands settings
  have layers : Config.layered (some ⟨Bytes.ofText "/h"⟩) world (.ofText "/p") =
      { parser := { language := some .cpp11, target := some "x86_64" } } := by
    have usersPath : ((Path.mk (Bytes.ofText "/h")).child ".cxxparse").child "config.toml" =
        .ofText "/h/.cxxparse/config.toml" := by decide
    have projectsPath : ((Path.ofText "/p").child ".cxxparse").child "config.toml" =
        .ofText "/p/.cxxparse/config.toml" := by decide
    simp only [Config.layered, usersPath, projectsPath, usersFile, projectsFile]
    rfl
  have newest : world.newestVersioned? (.ofText "/d/usr/lib/clang") = some (.ofText "/d/usr/lib/clang/15.0") := by
    have found : world.goal (.ofText "/d/usr/lib/clang") =
        .ok (.found (names ["d", "usr", "lib", "clang"]) .directory) := by decide
    have listed : world.subdirectoryNames (.ofText "/d/usr/lib/clang") = [Bytes.ofText "15.0"] :=
      World.subdirectoryNames_eq found (by decide) (by decide)
    rw [World.newestVersioned?, listed]
    decide
  have builtin : Xcode.builtinIncludes world (.ofText "/d") = .ok (.ofText "/d/usr/lib/clang/15.0/include") := by
    have inside : Xcode.toolchainIn world (.ofText "/d") = .ok (.ofText "/d") := by decide
    have clang : (((Path.ofText "/d").child "usr").child "lib").child "clang" = .ofText "/d/usr/lib/clang" := by decide
    simp only [Xcode.builtinIncludes, inside, clang, newest]
    decide
  have cpp : Xcode.cppIncludes world (.ofText "/d") = .ok (.ofText "/d/usr/include/c++/v1") := by decide
  have sdk : Xcode.sdkIncludes world (.ofText "/d") = .ok (.ofText "/d/SDKs/MacOSX.sdk/usr/include") := by decide
  have lookups : Xcode.lookups world (args.developer world) = [.ok (.ofText "/d/usr/lib/clang/15.0/include"),
      .ok (.ofText "/d/usr/include/c++/v1"), .ok (.ofText "/d/SDKs/MacOSX.sdk/usr/include")] := by
    have developer : args.developer world = .ofText "/d" := rfl
    rw [developer, Xcode.lookups, builtin, cpp, sdk]
  obtain ⟨fails, -, described, -⟩ := setup_of_commandLine home args world known
  refine ⟨known, named, set, ?_⟩
  cases built : (buildOptions home args world).1 with
  | error error =>
    obtain ⟨-, missing, member⟩ := fails.mp ⟨error, built⟩
    simp [lookups] at member
  | ok options =>
    refine ⟨options, rfl, ?_⟩
    rw [described named _ set (by decide) options built, layers]
    refine ⟨rfl, rfl, by decide, ?_⟩
    simp only [SetupArgs.described, lookups]
    decide

end FrontEnd.Cli
