import FrontEnd.Cli.Arguments
import FrontEnd.Cli.Report
import FrontEnd.Config.Store
import FrontEnd.Msvc.Headers
import FrontEnd.Options.CommandLine
import FrontEnd.Options.Json
import FrontEnd.Options.Setup
import FrontEnd.Text.Control
import FrontEnd.Xcode.Headers

namespace FrontEnd

def Host.current (visualStudio : Option String) : Host (StateM Machine) where
  platform := OsFamily.current.platform
  msvc := Msvc.resolver
  xcode := Xcode.resolver
  visualStudio

namespace Cli

inductive RunError where
  | noCurrentDirectory
  | xcodeHeaders (error : ToolchainError)
  | setup (error : ToolchainError)
  | notText
deriving DecidableEq, Repr

def RunError.message : RunError → String
  | noCurrentDirectory => "failed to get current directory: No such file or directory (os error 2)"
  | xcodeHeaders error => "failed to set up Xcode headers: " ++ error.message
  | setup error => "failed to set up parser options: " ++ error.message
  | notText => "failed to serialize parser options: path contains invalid UTF-8 characters"

/-- Options with the settings of the command line. What is given there wins over what the options
hold, and lists go on where the options' lists end. -/
def SetupArgs.apply (args : SetupArgs) (options : Options) : Options :=
  let settled := { options with
    language := args.language.getD options.language
    rtti := args.rtti || options.rtti
    target := args.target <|> options.target }
  let defined := args.defines.foldl Options.addDefine settled
  let undefined := args.undefines.foldl Options.addUndefine defined
  args.includes.foldl Options.addIncludeDir undefined

def setUp (args : SetupArgs) (config : Config) (executable : Path) :
    StateM Machine (Except RunError Options) := do
  let host := Host.current config.msvc.version
  let options := args.apply (config.apply (Options.new host.platform executable))
  let options ←
    match args.msvc with
    | some token => options.setupMsvcChoice (some token) host.msvc
    | none => pure options
  let (xcode, options) ←
    if args.xcode && !host.platform.isMacOS then options.setupXcode host.xcode
    else pure (.ok (), options)
  match xcode with
  | .error error => return .error (.xcodeHeaders error)
  | .ok () =>
    match ← options.setup host with
    | (.error error, _) => return .error (.setup error)
    | (.ok (), options) => return .ok options

def buildOptions (home : World → Option Path) (args : SetupArgs) (world : World) :
    Except RunError Options × World :=
  match args.project <|> world.currentDirectory? with
  | none => (.error .noCurrentDirectory, world)
  | some project =>
    let config := Config.loadFor home world project
    match (setUp args config world.executable).run { world, developerDirectory := args.developerDir } with
    | (built, machine) => (built, machine.world)

def Request.print (request : Request) (options : Options) : Except RunError String :=
  match request.verb, request.json with
  | .args, _ => .ok (String.join (options.commandLine.map (· ++ "\n")))
  | .report, false => .ok (String.join ((reportLines options).map (· ++ "\n")))
  | .report, true =>
    match options.json? with
    | some json => .ok (json.pretty ++ "\n")
    | none => .error .notText

structure Outcome where
  code : Nat
  output : String := ""
  errors : String := ""
deriving DecidableEq, Repr

def Outcome.failed (message : String) : Outcome :=
  { code := 1, errors := "error: " ++ message ++ "\n" }

def versionLine : String := "cxxparse 0.1.0\n"

def helpText : String :=
  "Usage: cxxparse [OPTIONS] <COMMAND>\n\n" ++
  "Commands:\n" ++
  "  args  Print the front-end command line, one argument per line\n" ++
  "  show  Show the computed parser options\n" ++
  "  help  Print this message or the help of the given subcommand(s)\n\n" ++
  "Options:\n" ++
  "  -v, --verbose  Enable verbose output\n" ++
  "  -h, --help     Print help\n" ++
  "  -V, --version  Print version\n"

def UsageError.report (error : UsageError) : String :=
  Style.failure.apply "error:" ++ " " ++ error.message ++ "\n\n" ++
    "For more information, try " ++ quoted .literal "--help" ++ ".\n"

/-- Whether messages keep their styles. There may be no terminal to print on, so the environment has
to ask for them. -/
def keepsStyles (world : World) : Bool :=
  let force := (world.env? "CLICOLOR_FORCE").getD []
  force ≠ [] && force ≠ Bytes.ofText "0" && (world.env? "NO_COLOR").getD [] = []

/-- What comes of a command line that asks for nothing to be run. A message that loses its styles
loses all terminal control with them, and that in a value that it quotes too. -/
def Stop.outcome (styled : Bool) : Stop → Outcome
  | usage error => { code := 2, errors := if styled then error.report else Control.strip error.report }
  | help => { code := 0, output := helpText }
  | nothingAsked => { code := 2, errors := helpText }
  | version => { code := 0, output := versionLine }

def Request.run (home : World → Option Path) (request : Request) (world : World) : Outcome × World :=
  match buildOptions home request.setup world with
  | (.error error, left) => (.failed error.message, left)
  | (.ok options, left) =>
    match request.print options with
    | .error error => (.failed error.message, left)
    | .ok text => ({ code := 0, output := text }, left)

def run (home : World → Option Path) (world : World) (arguments : List Bytes) : Outcome × World :=
  match read (world.env? developerVariable) arguments with
  | .error stop => (stop.outcome (keepsStyles world), world)
  | .ok request => request.run home world

end Cli

end FrontEnd
