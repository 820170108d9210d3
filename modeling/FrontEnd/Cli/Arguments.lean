import FrontEnd.Cli.Switch
import FrontEnd.Language
import FrontEnd.Path
import FrontEnd.Text.Control

namespace FrontEnd.Cli

inductive UsageError where
  | unexpectedArgument (argument : String)
  | unexpectedValue (value : String) (switch : Switch)
  | valueMissing (switch : Switch)
  | repeated (switch : Switch)
  | invalidValue (value : String) (switch : Switch) (reason : String)
  | invalidText
  | unknownVerb (name : String)
  | verbMissing
deriving DecidableEq, Repr

def quoted (style : Style) (text : String) : String :=
  "'" ++ style.apply text ++ "'"

/-- What is said about a mistake on a terminal. The reason why a value is refused can repeat the
value, but in no style. -/
def UsageError.message : UsageError → String
  | unexpectedArgument argument => "unexpected argument " ++ quoted .invalid argument ++ " found"
  | unexpectedValue value switch =>
    "unexpected value " ++ quoted .invalid value ++ " for " ++ quoted .literal switch.display ++
      " found; no more were expected"
  | valueMissing switch =>
    "a value is required for " ++ quoted .invalid switch.display ++ " but none was supplied"
  | repeated switch =>
    "the argument " ++ quoted .invalid switch.display ++ " cannot be used multiple times"
  | invalidValue value switch reason =>
    "invalid value " ++ quoted .invalid value ++ " for " ++ quoted .literal switch.display ++ ": " ++ reason
  | invalidText => "invalid UTF-8 was detected in one or more arguments"
  | unknownVerb name => "unrecognized subcommand " ++ quoted .invalid name
  | verbMissing => quoted .invalid "cxxparse" ++ " requires a subcommand but one was not provided"

inductive Stop where
  | usage (error : UsageError)
  | help
  | nothingAsked
  | version
deriving DecidableEq, Repr

structure SetupArgs where
  language : Option Language := none
  rtti : Bool := false
  msvc : Option String := none
  xcode : Bool := false
  developerDir : Option Path := none
  target : Option String := none
  defines : List String := []
  undefines : List String := []
  includes : List Path := []
  project : Option Path := none
deriving DecidableEq, Repr

structure Request where
  verb : Verb
  setup : SetupArgs
  json : Bool
  verbose : Bool
deriving DecidableEq, Repr

structure Given where
  setup : SetupArgs := {}
  switches : List Switch := []

def textValue (value : Bytes) : Except Stop String :=
  match value.text? with
  | some text => .ok text
  | none => .error (.usage .invalidText)

def pathValue (switch : Switch) (value : Bytes) : Except Stop Path :=
  if value = [] then .error (.usage (.valueMissing switch)) else .ok ⟨value⟩

def languageValue (value : Bytes) : Except Stop Language :=
  match textValue value with
  | .error stop => .error stop
  | .ok text =>
    match Language.parse text with
    | .ok language => .ok language
    | .error unknown => .error (.usage (.invalidValue text .language unknown.message))

def SetupArgs.take (setup : SetupArgs) (switch : Switch) (value : Bytes) : Except Stop SetupArgs :=
  match switch with
  | .verbose | .json => .ok setup
  | .help => .error .help
  | .version => .error .version
  | .rtti => .ok { setup with rtti := true }
  | .xcode => .ok { setup with xcode := true }
  | .language => (languageValue value).map fun language => { setup with language := some language }
  | .msvc => (textValue value).map fun token => { setup with msvc := some token }
  | .target => (textValue value).map fun triple => { setup with target := some triple }
  | .define => (textValue value).map fun define => { setup with defines := setup.defines ++ [define] }
  | .undefine => (textValue value).map fun name => { setup with undefines := setup.undefines ++ [name] }
  | .includeDir =>
    (pathValue .includeDir value).map fun path => { setup with includes := setup.includes ++ [path] }
  | .developerDir =>
    (pathValue .developerDir value).map fun path => { setup with developerDir := some path }
  | .project => (pathValue .project value).map fun path => { setup with project := some path }

def Given.take (given : Given) (switch : Switch) (value : Option Bytes) : Except Stop Given :=
  if switch.takesValue ∧ value = none then .error (.usage (.valueMissing switch))
  else if !switch.repeatable ∧ switch ∈ given.switches then .error (.usage (.repeated switch))
  else
    (given.setup.take switch (value.getD [])).map fun setup =>
      { setup, switches := given.switches ++ [switch] }

structure Reader where
  known : List Switch
  given : Given := {}
  /-- A switch whose value stands in an argument of its own, with the value once it is there. -/
  waiting : Option (Switch × Option Bytes) := none
  switchesEnded : Bool := false

namespace Reader

def settle (reader : Reader) : Except Stop Reader :=
  match reader.waiting with
  | none => .ok reader
  | some (switch, value) =>
    (reader.given.take switch value).map fun given => { reader with given, waiting := none }

def complete (reader : Reader) (switch : Switch) (value : Option Bytes) : Except Stop Reader :=
  match reader.settle with
  | .error stop => .error stop
  | .ok reader => (reader.given.take switch value).map fun given => { reader with given }

def valued (reader : Reader) (switch : Switch) (attached : Option Bytes) : Except Stop Reader :=
  match attached with
  | some value => reader.complete switch (some value)
  | none => reader.settle.map fun reader => { reader with waiting := some (switch, none) }

def long (reader : Reader) (spelled : Bytes) : Except Stop Reader :=
  let name : Bytes := spelled.takeWhile (· ≠ 0x3D)
  let attached : Option Bytes := (spelled.dropWhile (· ≠ 0x3D)).tail?
  match name.text?.bind (Switch.ofLong? reader.known) with
  | none => .error (.usage (.unexpectedArgument ("--" ++ name.lossy)))
  | some switch =>
    if switch.takesValue then reader.valued switch attached
    else
      match attached with
      | some value => .error (.usage (.unexpectedValue value.lossy switch))
      | none => reader.complete switch none

/-- A letter that is no switch, as messages show it. Bytes that are no letter are shown with all
that follows them. -/
def unknownLetter (letters : Bytes) : String :=
  match Bytes.lossyFrom none letters with
  | [] => ""
  | c :: rest =>
    if c = Bytes.replacement ∧ letters.take 3 ≠ Bytes.ofText "\ufffd" then String.ofList (c :: rest)
    else c.toString

def short (reader : Reader) : Bytes → Except Stop Reader
  | [] => .ok reader
  | byte :: rest =>
    match if byte < 0x80 then Switch.ofShort? reader.known (Char.ofNat byte.toNat) else none with
    | none => .error (.usage (.unexpectedArgument ("-" ++ unknownLetter (byte :: rest))))
    | some switch =>
      if switch.takesValue then
        match rest with
        | [] => reader.valued switch none
        | first :: others => reader.valued switch (some (if first = 0x3D then others else first :: others))
      else
        match reader.complete switch none with
        | .error stop => .error stop
        | .ok reader => reader.short rest

def argument (reader : Reader) (argument : Bytes) : Except Stop Reader :=
  let unexpected := Except.error (.usage (.unexpectedArgument argument.lossy))
  if reader.switchesEnded then unexpected
  else
    match argument with
    | [0x2D, 0x2D] => .ok { reader with switchesEnded := true }
    | 0x2D :: 0x2D :: spelled => reader.long spelled
    | 0x2D :: byte :: letters => reader.short (byte :: letters)
    | value =>
      match reader.waiting with
      | some (switch, none) => .ok { reader with waiting := some (switch, some value) }
      | _ => unexpected

end Reader

def developerVariable : String := "DEVELOPER_DIR"

def readSetup (verb : Verb) (developerDir : Option Bytes) (arguments : List Bytes) : Except Stop Given := do
  let reader ← arguments.foldlM Reader.argument { known := Switch.afterVerb verb }
  let reader ← reader.settle
  match developerDir with
  | some directory =>
    if Switch.developerDir ∈ reader.given.switches then return reader.given
    else reader.given.take .developerDir (some directory)
  | none => return reader.given

def readHelp : List Bytes → Stop
  | [] => .help
  | [name] =>
    if name.text? = some "help" ∨ (name.text?.bind Verb.ofName?).isSome then .help
    else .usage (.unknownVerb name.lossy)
  | name :: next :: _ =>
    if name.text? = some "help" ∨ (name.text?.bind Verb.ofName?).isSome then
      .usage (.unknownVerb next.lossy)
    else .usage (.unknownVerb name.lossy)

def readVerb (developerDir : Option Bytes) : Reader → List Bytes → Except Stop Request
  | reader, [] => .error (if reader.given.switches = [] then .nothingAsked else .usage .verbMissing)
  | reader, argument :: rest =>
    let verb := argument.text?.bind Verb.ofName?
    let named := argument.text? = some "help" ∨ verb.isSome
    if reader.switchesEnded then
      .error (.usage (if named then .unexpectedArgument argument.lossy else .unknownVerb argument.lossy))
    else
      match verb with
      | some verb =>
        (readSetup verb developerDir rest).map fun given =>
          { verb
            setup := given.setup
            json := .json ∈ given.switches
            verbose := .verbose ∈ reader.given.switches ++ given.switches }
      | none =>
        if named then .error (readHelp rest)
        else
          match argument with
          | [0x2D, 0x2D] => readVerb developerDir { reader with switchesEnded := true } rest
          | 0x2D :: 0x2D :: spelled =>
            (reader.long spelled).bind fun reader => readVerb developerDir reader rest
          | 0x2D :: byte :: letters =>
            (reader.short (byte :: letters)).bind fun reader => readVerb developerDir reader rest
          | name => .error (.usage (.unknownVerb name.lossy))

def read (developerDir : Option Bytes) (arguments : List Bytes) : Except Stop Request :=
  readVerb developerDir { known := Switch.beforeVerb } arguments

end FrontEnd.Cli
