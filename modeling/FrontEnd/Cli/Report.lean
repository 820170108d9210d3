import FrontEnd.Options

namespace FrontEnd.Cli

def enabled (on : Bool) : String :=
  if on then "yes" else "no"

def toolSetText (identifier : UInt32) : String :=
  match Msvc.Compiler.ofToolSet? identifier with
  | some compiler => Decimal.render identifier.toNat ++ " (cl " ++ compiler.render ++ ")"
  | none => "none"

def reportLines (options : Options) : List String :=
  [ "Parser options:",
    "",
    "  ABI:            " ++ options.abi.name,
    "  Microsoft mode: " ++ enabled options.microsoftMode,
    "  Language:       " ++ options.language.name,
    "  RTTI:           " ++ enabled options.rtti,
    "  Tool set:       " ++ toolSetText options.toolSet,
    "  No builtins:    " ++ enabled options.noBuiltinIncludes,
    "  No std incs:    " ++ enabled options.noStandardIncludes ] ++
  (match options.target with
    | some triple => ["  Target:         " ++ triple]
    | none => []) ++
  [ "  Current dir:    " ++ options.executable.display,
    "",
    "Arguments:" ] ++
  options.arguments.map ("  " ++ ·) ++
  [ "",
    "System include directories:" ] ++
  (if options.systemIncludeDirs = [] then ["  (front-end defaults)"] else []) ++
  options.systemIncludeDirs.map fun directory => "  " ++ directory.display

end FrontEnd.Cli
