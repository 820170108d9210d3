import FrontEnd.Options

namespace FrontEnd.Options

def compatibilityFlags : List String :=
  ["-fms-extensions", "-fms-compatibility", "-fdelayed-template-parsing"]

/-- Options for a version of Microsoft's compiler and the directories of its headers. The ABI
becomes Microsoft's on every platform. -/
def withMsvc (options : Options) (compiler : Msvc.Compiler) (includes : List Path) : Options :=
  ({ options with
      microsoftMode := true
      noBuiltinIncludes := true
      noStandardIncludes := true
      abi := .microsoft
      toolSet := compiler.toolSet?.getD 0 }.addArguments compatibilityFlags).addSystemIncludeDirs includes

def withXcode (options : Options) (builtin cpp sdk : Path) : Options :=
  { options.addSystemIncludeDirs [builtin, cpp, sdk] with
      noBuiltinIncludes := true
      noStandardIncludes := true }.addArgument "-stdlib=libc++"

def languageFlags (options : Options) : List String :=
  [options.language.languageFlag, options.language.standardFlag options.microsoftMode] ++
    (if options.rtti then [] else ["-fno-rtti"])

def withLanguageFlags (options : Options) : Options :=
  options.addArguments options.languageFlags

variable {m : Type → Type} [Monad m]

def setupMsvc (options : Options) (generation : Msvc.Generation) (resolver : MsvcResolver m) :
    m Options := do
  let includes ← resolver.systemIncludes generation
  return options.withMsvc (resolver.compiler generation) includes

def setupMsvcChoice (options : Options) (choice : Option String) (resolver : MsvcResolver m) :
    m Options :=
  options.setupMsvc (.ofToken choice) resolver

/-- Sets up for an Xcode installation. The first folder that is missing is the failure, no later
one is looked for, and the options stay as they were. -/
def setupXcode (options : Options) (resolver : XcodeResolver m) :
    m (Except ToolchainError Unit × Options) := do
  match ← resolver.builtinIncludes with
  | .error missing => return (.error missing, options)
  | .ok builtin =>
    match ← resolver.cppIncludes with
    | .error missing => return (.error missing, options)
    | .ok cpp =>
      match ← resolver.sdkIncludes with
      | .error missing => return (.error missing, options)
      | .ok sdk => return (.ok (), options.withXcode builtin cpp sdk)

def setup (options : Options) (host : Host m) : m (Except ToolchainError Unit × Options) := do
  let options := options.withLanguageFlags
  if host.platform.isMacOS then options.setupXcode host.xcode
  else if host.platform.isWindows && !options.noBuiltinIncludes then
    let options ← options.setupMsvcChoice host.visualStudio host.msvc
    return (.ok (), options)
  else return (.ok (), options)

end FrontEnd.Options
