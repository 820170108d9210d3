import FrontEnd.Options

namespace FrontEnd

structure ParserDefaults where
  language : Option Language := none
  rtti : Option Bool := none
  /-- The ABI. It does not change the compatibility mode. -/
  abi : Option Abi := none
  target : Option String := none
  defines : List String := []
  includeDirs : List Path := []
deriving DecidableEq, Repr

structure MsvcDefaults where
  version : Option String := none
deriving DecidableEq, Repr

structure Config where
  parser : ParserDefaults := {}
  msvc : MsvcDefaults := {}
deriving DecidableEq, Repr

namespace Config

def empty : Config := {}

instance : Inhabited Config := ⟨empty⟩

def later {α : Type} (earlier override : Option α) : Option α :=
  if override.isSome then override else earlier

/-- A later list that is not empty wins over an earlier one. -/
def laterList {α : Type} (earlier override : List α) : List α :=
  if override.isEmpty then earlier else override

def merge (base override : Config) : Config where
  parser := {
    language := later base.parser.language override.parser.language
    rtti := later base.parser.rtti override.parser.rtti
    abi := later base.parser.abi override.parser.abi
    target := later base.parser.target override.parser.target
    defines := laterList base.parser.defines override.parser.defines
    includeDirs := laterList base.parser.includeDirs override.parser.includeDirs }
  msvc := { version := later base.msvc.version override.msvc.version }

def apply (config : Config) (options : Options) : Options :=
  let settled := { options with
    language := config.parser.language.getD options.language
    rtti := config.parser.rtti.getD options.rtti
    abi := config.parser.abi.getD options.abi
    target := later options.target config.parser.target }
  config.parser.includeDirs.foldl Options.addIncludeDir
    (config.parser.defines.foldl Options.addDefine settled)

def addIncludeDir (config : Config) (directory : Path) : Config :=
  { config with parser := { config.parser with includeDirs := config.parser.includeDirs ++ [directory] } }

end Config

end FrontEnd
