namespace FrontEnd.Cli

inductive Verb where
  | args
  | report
deriving DecidableEq, Repr

def Verb.name : Verb → String
  | args => "args"
  | report => "show"

def Verb.ofName? (name : String) : Option Verb :=
  [Verb.args, Verb.report].find? fun verb => name == verb.name

inductive Switch where
  | verbose
  | help
  | version
  | language
  | rtti
  | msvc
  | xcode
  | developerDir
  | target
  | define
  | undefine
  | includeDir
  | project
  | json
deriving DecidableEq, Repr

namespace Switch

def long? : Switch → Option String
  | verbose => some "verbose"
  | help => some "help"
  | version => some "version"
  | language => some "lang"
  | rtti => some "rtti"
  | msvc => some "msvc"
  | xcode => some "xcode"
  | developerDir => some "developer-dir"
  | target => some "target"
  | define => none
  | undefine => none
  | includeDir => none
  | project => some "project"
  | json => some "json"

def short? : Switch → Option Char
  | verbose => some 'v'
  | help => some 'h'
  | version => some 'V'
  | define => some 'D'
  | undefine => some 'U'
  | includeDir => some 'I'
  | _ => none

def valueName? : Switch → Option String
  | language => some "VERSION"
  | msvc => some "VERSION"
  | developerDir => some "DIR"
  | target => some "TARGET"
  | define => some "MACRO"
  | undefine => some "MACRO"
  | includeDir => some "DIR"
  | project => some "DIR"
  | _ => none

def takesValue (switch : Switch) : Bool :=
  switch.valueName?.isSome

def repeatable : Switch → Bool
  | define | undefine | includeDir => true
  | _ => false

def display (switch : Switch) : String :=
  let spelled :=
    match switch.long?, switch.short? with
    | some long, _ => "--" ++ long
    | none, some short => "-" ++ short.toString
    | none, none => ""
  match switch.valueName? with
  | some value => spelled ++ " <" ++ value ++ ">"
  | none => spelled

def beforeVerb : List Switch :=
  [verbose, help, version]

def afterVerb (verb : Verb) : List Switch :=
  [language, rtti, msvc, xcode, developerDir, target, define, undefine, includeDir, project] ++
    (if verb = .report then [json] else []) ++ [verbose, help]

def ofLong? (known : List Switch) (spelling : String) : Option Switch :=
  known.find? fun switch => switch.long? == some spelling

def ofShort? (known : List Switch) (letter : Char) : Option Switch :=
  known.find? fun switch => switch.short? == some letter

end Switch

end FrontEnd.Cli
