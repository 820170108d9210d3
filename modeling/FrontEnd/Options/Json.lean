import FrontEnd.Json.Printer
import FrontEnd.Options

namespace FrontEnd.Options

def pathJson? (path : Path) : Option Json :=
  path.text?.map .text

def fields (options : Options) (systemIncludeDirs includeDirs : List Json) (executable : Json) :
    List (String × Json) := [
  ("abi", .text options.abi.documentName),
  ("microsoft_mode", .boolean options.microsoftMode),
  ("enable_rtti", .boolean options.rtti),
  ("language_version", .text options.language.documentName),
  ("tool_set_to_use", .integer options.toolSet.toNat),
  ("no_builtin_includes", .boolean options.noBuiltinIncludes),
  ("no_standard_includes", .boolean options.noStandardIncludes),
  ("target_triple", (options.target.map Json.text).getD .null),
  ("verbose", .boolean options.verbose),
  ("arguments", .array (options.arguments.map .text)),
  ("system_include_dirs", .array systemIncludeDirs),
  ("include_dirs", .array includeDirs),
  ("defines", .array (options.defines.map .text)),
  ("undefines", .array (options.undefines.map .text)),
  ("current_dir", executable)]

def json? (options : Options) : Option Json := do
  let systemIncludeDirs ← options.systemIncludeDirs.mapM pathJson?
  let includeDirs ← options.includeDirs.mapM pathJson?
  let executable ← pathJson? options.executable
  return .object (options.fields systemIncludeDirs includeDirs executable)

end FrontEnd.Options
