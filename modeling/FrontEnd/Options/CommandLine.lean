import FrontEnd.Options

namespace FrontEnd.Options

/-- The compiler whose version the front end is told, if it stands in for one. -/
def compatibility? (options : Options) : Option Msvc.Compiler :=
  if options.microsoftMode then Msvc.Compiler.ofToolSet? options.toolSet else none

def targetSection (options : Options) : List String :=
  match options.target with
  | some triple => ["-target", triple]
  | none => []

def compatibilitySection (options : Options) : List String :=
  match options.compatibility? with
  | some compiler => ["-fms-compatibility-version=" ++ compiler.render]
  | none => []

def flagSection (on : Bool) (flag : String) : List String :=
  if on then [flag] else []

def defineSection (options : Options) : List String :=
  options.defines.map ("-D" ++ ·)

def undefineSection (options : Options) : List String :=
  options.undefines.map ("-U" ++ ·)

def includeSection (options : Options) : List String :=
  options.includeDirs.map fun directory => "-I" ++ directory.display

def systemIncludeSection (options : Options) : List String :=
  options.systemIncludeDirs.flatMap fun directory => ["-isystem", directory.display]

def ownSections (options : Options) : List String :=
  options.targetSection ++ options.compatibilitySection ++
    flagSection options.noBuiltinIncludes "-nobuiltininc" ++
    flagSection options.noStandardIncludes "-nostdinc" ++
    options.defineSection ++ options.undefineSection ++ options.includeSection ++
    options.systemIncludeSection ++ flagSection options.verbose "-v"

def commandLine (options : Options) : List String :=
  options.arguments ++ options.ownSections

end FrontEnd.Options
