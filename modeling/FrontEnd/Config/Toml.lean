import FrontEnd.Config
import FrontEnd.Config.Document
import FrontEnd.Toml.Document
import FrontEnd.Toml.Printer

namespace FrontEnd.Config

def pathTexts? (paths : List Path) : Option (List String) :=
  paths.mapM Path.text?

def setting {α : Type} (name : String) (make : α → Toml.Setting) (value : Option α) :
    List (String × Toml.Setting) :=
  match value with
  | some value => [(name, make value)]
  | none => []

/-- The sections of a configuration. There are none if a directory is not text. -/
def sections? (config : Config) : Option (List (String × List (String × Toml.Setting))) :=
  (pathTexts? config.parser.includeDirs).map fun includeDirs =>
    [("parser",
        setting "language" (fun language => .text language.documentName) config.parser.language ++
        setting "rtti" .boolean config.parser.rtti ++
        setting "abi" (fun abi => .text abi.documentName) config.parser.abi ++
        setting "target" .text config.parser.target ++
        [("defines", .texts config.parser.defines), ("include_dirs", .texts includeDirs)]),
      ("msvc", setting "version" .text config.msvc.version)]

def render? (config : Config) : Option String :=
  config.sections?.map Toml.renderSections

section Reading

variable {α : Type} [Document α]

def parserDefaults? (value : α) : Option ParserDefaults := do
  let fields ← record? 6 value
  let language ← fields.get? 0 "language" none (optional? (choice? Language.configured?))
  let rtti ← fields.get? 1 "rtti" none (optional? Document.boolean?)
  let abi ← fields.get? 2 "abi" none (optional? (choice? Abi.configured?))
  let target ← fields.get? 3 "target" none (optional? Document.text?)
  let defines ← fields.get? 4 "defines" [] (list? Document.text?)
  let includeDirs ← fields.get? 5 "include_dirs" [] (list? Document.text?)
  return { language, rtti, abi, target, defines, includeDirs := includeDirs.map Path.ofText }

def msvcDefaults? (value : α) : Option MsvcDefaults := do
  let fields ← record? 1 value
  let version ← fields.get? 0 "version" none (optional? Document.text?)
  return { version }

def ofDocument? (value : α) : Option Config := do
  let fields ← record? 2 value
  let parser ← fields.get? 0 "parser" {} parserDefaults?
  let msvc ← fields.get? 1 "msvc" {} msvcDefaults?
  return { parser, msvc }

end Reading

def parse? (text : String) : Option Config :=
  (Toml.parse? text).bind fun entries => ofDocument? (Toml.Value.table .header entries)

end FrontEnd.Config
