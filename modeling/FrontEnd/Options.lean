import FrontEnd.Abi
import FrontEnd.Language
import FrontEnd.Toolchain

namespace FrontEnd

structure Options where
  abi : Abi
  microsoftMode : Bool
  rtti : Bool
  language : Language
  /-- The tool-set identifier of the compiler to stand in for; zero for none. -/
  toolSet : UInt32
  noBuiltinIncludes : Bool
  noStandardIncludes : Bool
  target : Option String
  verbose : Bool
  arguments : List String
  systemIncludeDirs : List Path
  includeDirs : List Path
  defines : List String
  undefines : List String
  executable : Path
deriving DecidableEq, Repr

namespace Options

def new (platform : Platform) (executable : Path) : Options where
  abi := if platform.isWindows then .microsoft else .itanium
  microsoftMode := !platform.isUnix
  rtti := false
  language := .gnuCpp11
  toolSet := 0
  noBuiltinIncludes := false
  noStandardIncludes := false
  target := none
  verbose := false
  arguments := []
  systemIncludeDirs := []
  includeDirs := []
  defines := []
  undefines := []
  executable

def isMicrosoftAbi (options : Options) : Bool :=
  options.abi == .microsoft

def isItaniumLikeAbi (options : Options) : Bool :=
  options.abi != .microsoft

def addArgument (options : Options) (argument : String) : Options :=
  { options with arguments := options.arguments ++ [argument] }

def addArguments (options : Options) (arguments : List String) : Options :=
  arguments.foldl addArgument options

/-- Appends a system include directory; it is searched after the earlier ones. -/
def addSystemIncludeDir (options : Options) (directory : Path) : Options :=
  { options with systemIncludeDirs := options.systemIncludeDirs ++ [directory] }

def addSystemIncludeDirs (options : Options) (directories : List Path) : Options :=
  directories.foldl addSystemIncludeDir options

def addIncludeDir (options : Options) (directory : Path) : Options :=
  { options with includeDirs := options.includeDirs ++ [directory] }

def addDefine (options : Options) (define : String) : Options :=
  { options with defines := options.defines ++ [define] }

def addUndefine (options : Options) (macroName : String) : Options :=
  { options with undefines := options.undefines ++ [macroName] }

theorem addArguments_eq (options : Options) (arguments : List String) :
    options.addArguments arguments = { options with arguments := options.arguments ++ arguments } := by
  induction arguments generalizing options with
  | nil => simp [addArguments]
  | cons argument arguments ih =>
    have rest := ih (options.addArgument argument)
    simp only [addArguments, List.foldl_cons] at rest ⊢
    rw [rest]
    simp [addArgument]

theorem addSystemIncludeDirs_eq (options : Options) (directories : List Path) :
    options.addSystemIncludeDirs directories =
      { options with systemIncludeDirs := options.systemIncludeDirs ++ directories } := by
  induction directories generalizing options with
  | nil => simp [addSystemIncludeDirs]
  | cons directory directories ih =>
    have rest := ih (options.addSystemIncludeDir directory)
    simp only [addSystemIncludeDirs, List.foldl_cons] at rest ⊢
    rw [rest]
    simp [addSystemIncludeDir]

end Options

end FrontEnd
