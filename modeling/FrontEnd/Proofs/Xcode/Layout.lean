import FrontEnd.Proofs.Toolchain.Machine
import FrontEnd.Proofs.World.Directories

namespace FrontEnd.Xcode

def toolchains (developer : Path) : Path :=
  developer.child "Toolchains"

variable {world : World} {developer : Path}

end FrontEnd.Xcode
