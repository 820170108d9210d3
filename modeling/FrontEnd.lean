import FrontEnd.Main
import FrontEnd.Toolchain.Fixed
import FrontEnd.Json.Reader
import FrontEnd.Proofs.Cli.Build
import FrontEnd.Proofs.Options.Compatibility
import FrontEnd.Proofs.Options.SetupRuns
import FrontEnd.Proofs.Options.Growth
import FrontEnd.Proofs.Options.Interleaving
import FrontEnd.Proofs.Options.Standard
import FrontEnd.Proofs.Config.RoundTrip
import FrontEnd.Proofs.Msvc.ToolSet
import FrontEnd.Proofs.Config.Layers
import FrontEnd.Proofs.Xcode.Layout
import FrontEnd.Proofs.Xcode.Locating
import FrontEnd.Proofs.World.Directories
import FrontEnd.Proofs.Version.Dotted
import FrontEnd.Proofs.Version.Newest
import FrontEnd.Proofs.Msvc.IncludeList
import FrontEnd.Proofs.Msvc.Headers
import FrontEnd.Proofs.Config.Stacks
import FrontEnd.Proofs.Msvc.Prompt
import FrontEnd.Proofs.World.Making
import FrontEnd.Proofs.World.Storing
import FrontEnd.Proofs.Vocabulary
import FrontEnd.Proofs.Msvc.Locator
import FrontEnd.Proofs.Cli.Report
