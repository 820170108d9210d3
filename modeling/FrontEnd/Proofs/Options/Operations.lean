import FrontEnd.Config
import FrontEnd.Proofs.Options.Session

namespace FrontEnd

inductive Operation (σ : Type) where
  | addArgument (argument : String)
  | addDefine (define : String)
  | addUndefine (macroName : String)
  | addIncludeDir (directory : Path)
  | addSystemIncludeDir (directory : Path)
  | setupMsvc (generation : Msvc.Generation) (resolver : MsvcResolver (StateM σ))
  | setupMsvcChoice (choice : Option String) (resolver : MsvcResolver (StateM σ))
  | setupXcode (resolver : XcodeResolver (StateM σ))
  | setup (host : Host (StateM σ))
  | apply (config : Config)
  | setAbi (abi : Abi)
  | setMicrosoftMode (on : Bool)
  | setRtti (on : Bool)
  | setLanguage (language : Language)
  | setToolSet (identifier : UInt32)
  | setNoBuiltinIncludes (on : Bool)
  | setNoStandardIncludes (on : Bool)
  | setTarget (target : Option String)
  | setVerbose (on : Bool)

namespace Operation

variable {σ : Type}

def run (options : Options) : Operation σ → StateM σ (Except ToolchainError Unit × Options)
  | addArgument argument => return (.ok (), options.addArgument argument)
  | addDefine define => return (.ok (), options.addDefine define)
  | addUndefine macroName => return (.ok (), options.addUndefine macroName)
  | addIncludeDir directory => return (.ok (), options.addIncludeDir directory)
  | addSystemIncludeDir directory => return (.ok (), options.addSystemIncludeDir directory)
  | setupMsvc generation resolver => return (.ok (), ← options.setupMsvc generation resolver)
  | setupMsvcChoice choice resolver => return (.ok (), ← options.setupMsvcChoice choice resolver)
  | setupXcode resolver => options.setupXcode resolver
  | setup host => options.setup host
  | apply config => return (.ok (), config.apply options)
  | setAbi abi => return (.ok (), { options with abi })
  | setMicrosoftMode on => return (.ok (), { options with microsoftMode := on })
  | setRtti on => return (.ok (), { options with rtti := on })
  | setLanguage language => return (.ok (), { options with language })
  | setToolSet identifier => return (.ok (), { options with toolSet := identifier })
  | setNoBuiltinIncludes on => return (.ok (), { options with noBuiltinIncludes := on })
  | setNoStandardIncludes on => return (.ok (), { options with noStandardIncludes := on })
  | setTarget target => return (.ok (), { options with target })
  | setVerbose on => return (.ok (), { options with verbose := on })

end Operation

namespace Session

variable {σ : Type}

def operate (operation : Operation σ) (session : Session σ) : Except ToolchainError Unit × Session σ :=
  session.perform (operation.run ·)

theorem operate_apply_options (session : Session σ) (config : Config) :
    (session.operate (.apply config)).2.options = config.apply session.options := rfl

theorem operate_setupMsvc_options (session : Session σ) (generation : Msvc.Generation)
    (resolver : MsvcResolver (StateM σ)) :
    (session.operate (.setupMsvc generation resolver)).2.options =
      session.options.withMsvc (resolver.compiler generation)
        ((resolver.systemIncludes generation).run session.surroundings).1 := rfl

theorem operate_setupMsvcChoice (session : Session σ) (choice : Option String)
    (resolver : MsvcResolver (StateM σ)) :
    session.operate (.setupMsvcChoice choice resolver) =
      session.operate (.setupMsvc (.ofToken choice) resolver) := rfl

theorem operate_setupXcode_options (session : Session σ) (resolver : XcodeResolver (StateM σ)) :
    (session.operate (.setupXcode resolver)).2.options =
      match (resolver.folders.run.run session.surroundings).1 with
      | .error _ => session.options
      | .ok folders => session.options.withFolders folders := by
  have run := session.options.setupXcode_run resolver session.surroundings
  simp only [operate, perform, Operation.run]
  rw [run]
  rcases resolver.folders.run.run session.surroundings with ⟨missing | folders, left⟩ <;> rfl

end Session

end FrontEnd
