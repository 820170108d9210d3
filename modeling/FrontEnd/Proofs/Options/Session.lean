import FrontEnd.Options.Setup

namespace FrontEnd

variable {σ : Type}

theorem run_bind_stateM {α β : Type} (first : StateM σ α) (next : α → StateM σ β) (state : σ) :
    (first >>= next).run state = (next (first.run state).1).run (first.run state).2 := rfl

def XcodeResolver.folders {m : Type → Type} [Monad m] (resolver : XcodeResolver m) :
    ExceptT ToolchainError m (List Path) := do
  let builtin ← ExceptT.mk resolver.builtinIncludes
  let cpp ← ExceptT.mk resolver.cppIncludes
  let sdk ← ExceptT.mk resolver.sdkIncludes
  return [builtin, cpp, sdk]

namespace Options

theorem withMsvc_eq (options : Options) (compiler : Msvc.Compiler) (includes : List Path) :
    options.withMsvc compiler includes = { options with
      abi := .microsoft
      microsoftMode := true
      toolSet := compiler.toolSet?.getD 0
      noBuiltinIncludes := true
      noStandardIncludes := true
      arguments := options.arguments ++ compatibilityFlags
      systemIncludeDirs := options.systemIncludeDirs ++ includes } := by
  simp only [withMsvc, addArguments_eq, addSystemIncludeDirs_eq]

def withFolders (options : Options) (folders : List Path) : Options :=
  { options with
    noBuiltinIncludes := true
    noStandardIncludes := true
    arguments := options.arguments ++ ["-stdlib=libc++"]
    systemIncludeDirs := options.systemIncludeDirs ++ folders }

theorem withXcode_eq (options : Options) (builtin cpp sdk : Path) :
    options.withXcode builtin cpp sdk = options.withFolders [builtin, cpp, sdk] := by
  simp only [withXcode, addSystemIncludeDirs_eq, addArgument, withFolders]

theorem withLanguageFlags_eq (options : Options) :
    options.withLanguageFlags =
      { options with arguments := options.arguments ++ options.languageFlags } := by
  simp only [withLanguageFlags, addArguments_eq]

theorem setupXcode_run (options : Options) (resolver : XcodeResolver (StateM σ)) (surroundings : σ) :
    (options.setupXcode resolver).run surroundings =
      match resolver.folders.run.run surroundings with
      | (.error missing, left) => ((.error missing, options), left)
      | (.ok folders, left) => ((.ok (), options.withFolders folders), left) := by
  simp only [setupXcode, XcodeResolver.folders, ExceptT.run_bind, ExceptT.run_mk, run_bind_stateM]
  -- Each lookup that fails ends both sides at once.
  rcases resolver.builtinIncludes.run surroundings with ⟨builtin | builtin, second⟩
  · rfl
  simp only [run_bind_stateM]
  rcases resolver.cppIncludes.run second with ⟨cpp | cpp, third⟩
  · rfl
  simp only [run_bind_stateM]
  rcases resolver.sdkIncludes.run third with ⟨sdk | sdk, left⟩
  · rfl
  · simp only [withXcode_eq]
    rfl

theorem setup_run_macOS (options : Options) {host : Host (StateM σ)} (surroundings : σ)
    (macOS : host.platform.isMacOS = true) :
    (options.setup host).run surroundings =
      (options.withLanguageFlags.setupXcode host.xcode).run surroundings := by
  simp only [setup, macOS, if_true]

theorem setup_run_windows (options : Options) {host : Host (StateM σ)} (surroundings : σ)
    (macOS : host.platform.isMacOS = false) (windows : host.platform.isWindows = true)
    (wanted : options.noBuiltinIncludes = false) :
    (options.setup host).run surroundings =
      let found := (host.msvc.systemIncludes (.ofToken host.visualStudio)).run surroundings
      ((.ok (), options.withLanguageFlags.withMsvc
        (host.msvc.compiler (.ofToken host.visualStudio)) found.1), found.2) := by
  have flagged : options.withLanguageFlags.noBuiltinIncludes = false := by
    rw [withLanguageFlags_eq]
    exact wanted
  simp only [setup, macOS, windows, flagged, Bool.false_eq_true, if_false, Bool.not_false, Bool.and_self,
    if_true, setupMsvcChoice, setupMsvc, run_bind_stateM]
  rfl

theorem setup_run_neither (options : Options) {host : Host (StateM σ)} (surroundings : σ)
    (macOS : host.platform.isMacOS = false)
    (neither : host.platform.isWindows = false ∨ options.noBuiltinIncludes = true) :
    (options.setup host).run surroundings = ((.ok (), options.withLanguageFlags), surroundings) := by
  have skipped : (host.platform.isWindows && !options.withLanguageFlags.noBuiltinIncludes) = false := by
    rw [withLanguageFlags_eq]
    rcases neither with other | left <;> simp [*]
  simp only [setup, macOS, skipped, Bool.false_eq_true, if_false]
  rfl

end Options

structure Session (σ : Type) where
  options : Options
  surroundings : σ

namespace Session

def perform {ρ : Type} (session : Session σ) (action : Options → StateM σ (ρ × Options)) :
    ρ × Session σ :=
  match (action session.options).run session.surroundings with
  | ((answer, options), surroundings) => (answer, ⟨options, surroundings⟩)

def setup (host : Host (StateM σ)) (session : Session σ) : Except ToolchainError Unit × Session σ :=
  session.perform (·.setup host)

def xcodeFolders (session : Session σ) (host : Host (StateM σ)) : Except ToolchainError (List Path) :=
  (host.xcode.folders.run.run session.surroundings).1

def msvcIncludes (session : Session σ) (host : Host (StateM σ)) : List Path :=
  ((host.msvc.systemIncludes (.ofToken host.visualStudio)).run session.surroundings).1

def msvcCompiler (host : Host (StateM σ)) : Msvc.Compiler :=
  host.msvc.compiler (.ofToken host.visualStudio)

def completesXcode (session : Session σ) (host : Host (StateM σ)) : Bool :=
  host.platform.isMacOS && (session.xcodeFolders host).toOption.isSome

def takesMsvc (session : Session σ) (host : Host (StateM σ)) : Bool :=
  host.platform.isWindows && !host.platform.isMacOS && !session.options.noBuiltinIncludes

def setsUpHeaders (session : Session σ) (host : Host (StateM σ)) : Bool :=
  session.completesXcode host || session.takesMsvc host

def setupArguments (session : Session σ) (host : Host (StateM σ)) : List String :=
  [session.options.language.languageFlag,
    session.options.language.standardFlag session.options.microsoftMode] ++
  (if session.options.rtti then [] else ["-fno-rtti"]) ++
  (if session.completesXcode host then ["-stdlib=libc++"]
    else if session.takesMsvc host then
      ["-fms-extensions", "-fms-compatibility", "-fdelayed-template-parsing"]
    else [])

def setupDirectories (session : Session σ) (host : Host (StateM σ)) : List Path :=
  if host.platform.isMacOS then (session.xcodeFolders host).toOption.getD []
  else if session.takesMsvc host then session.msvcIncludes host
  else []

/-- What setting up for a host answers, and the options that it leaves. Only a missing folder of
Xcode's makes it fail. -/
theorem setup_eq (session : Session σ) (host : Host (StateM σ)) :
    (session.setup host).1 =
        (if host.platform.isMacOS then (session.xcodeFolders host).map fun _ => () else .ok ()) ∧
      (session.setup host).2.options = { session.options with
        abi := if session.takesMsvc host then .microsoft else session.options.abi
        microsoftMode := session.options.microsoftMode || session.takesMsvc host
        toolSet :=
          if session.takesMsvc host then (msvcCompiler host).toolSet?.getD 0 else session.options.toolSet
        noBuiltinIncludes := session.options.noBuiltinIncludes || session.setsUpHeaders host
        noStandardIncludes := session.options.noStandardIncludes || session.setsUpHeaders host
        arguments := session.options.arguments ++ session.setupArguments host
        systemIncludeDirs := session.options.systemIncludeDirs ++ session.setupDirectories host } := by
  obtain ⟨options, surroundings⟩ := session
  cases macOS : host.platform.isMacOS with
  | true =>
    have run := options.setup_run_macOS surroundings macOS
    rw [Options.setupXcode_run] at run
    have other : takesMsvc ⟨options, surroundings⟩ host = false := by simp [takesMsvc, macOS]
    cases found : host.xcode.folders.run.run surroundings with
    | mk answer left =>
      cases answer with
      | error missing =>
        have fails : completesXcode ⟨options, surroundings⟩ host = false := by
          simp [completesXcode, xcodeFolders, found, Except.toOption]
        simp only [found] at run
        simp [setup, perform, run, other, fails, setsUpHeaders, setupArguments, setupDirectories,
          xcodeFolders, found, macOS, Except.toOption, Except.map, Options.withLanguageFlags_eq,
          Options.languageFlags]
      | ok folders =>
        have completes : completesXcode ⟨options, surroundings⟩ host = true := by
          simp [completesXcode, xcodeFolders, found, macOS, Except.toOption]
        simp only [found] at run
        simp [setup, perform, run, other, completes, setsUpHeaders, setupArguments, setupDirectories,
          xcodeFolders, found, macOS, Except.toOption, Except.map, Options.withFolders,
          Options.withLanguageFlags_eq, Options.languageFlags]
  | false =>
    have fails : completesXcode ⟨options, surroundings⟩ host = false := by simp [completesXcode, macOS]
    cases taken : takesMsvc ⟨options, surroundings⟩ host with
    | true =>
      obtain ⟨windows, wanted⟩ : host.platform.isWindows = true ∧ options.noBuiltinIncludes = false := by
        simpa [takesMsvc, macOS] using taken
      have run := options.setup_run_windows surroundings macOS windows wanted
      simp [setup, perform, run, taken, fails, setsUpHeaders, setupArguments, setupDirectories,
        msvcIncludes, msvcCompiler, macOS, Options.withMsvc_eq, Options.compatibilityFlags,
        Options.withLanguageFlags_eq, Options.languageFlags]
    | false =>
      have neither : host.platform.isWindows = false ∨ options.noBuiltinIncludes = true := by
        cases windows : host.platform.isWindows with
        | false => exact .inl rfl
        | true => exact .inr (by simpa [takesMsvc, macOS, windows] using taken)
      have run := options.setup_run_neither surroundings macOS neither
      simp [setup, perform, run, taken, fails, setsUpHeaders, setupArguments, setupDirectories, macOS,
        Options.withLanguageFlags_eq, Options.languageFlags]

end Session

end FrontEnd
