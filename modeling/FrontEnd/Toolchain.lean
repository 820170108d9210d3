import FrontEnd.Msvc.Compiler
import FrontEnd.Path

namespace FrontEnd

structure Platform where
  isUnix : Bool
  isMacOS : Bool
  isWindows : Bool
deriving DecidableEq, Repr

inductive OsFamily where
  | unix
  | macOS
  | windows
deriving DecidableEq, Repr

namespace OsFamily

def name : OsFamily → String
  | unix => "unix"
  | macOS => "macos"
  | windows => "windows"

def platform : OsFamily → Platform
  | unix => ⟨true, false, false⟩
  | macOS => ⟨true, true, false⟩
  | windows => ⟨false, false, true⟩

def current : OsFamily := unix

end OsFamily

inductive XcodeFolder where
  | builtin
  | cpp
  | sdk
  | sdkHeaders
deriving DecidableEq, Repr

def XcodeFolder.label : XcodeFolder → String
  | builtin => "builtin includes"
  | cpp => "C++ includes"
  | sdk => "SDK"
  | sdkHeaders => "SDK includes"

inductive ToolchainError where
  | folderNotFound (folder : XcodeFolder) (path : Path)
  | xcodeNotFound (developerDirectory : Path)
deriving DecidableEq, Repr

def ToolchainError.message : ToolchainError → String
  | folderNotFound folder path =>
    "could not find the Xcode " ++ folder.label ++ " folder at `" ++ path.display ++ "`"
  | xcodeNotFound directory =>
    "could not find an Xcode installation: developer directory `" ++ directory.display ++
      "` does not exist"

structure MsvcResolver (m : Type → Type) where
  compiler : Msvc.Generation → Msvc.Compiler
  /-- The system include directories of a generation, in lookup order. -/
  systemIncludes : Msvc.Generation → m (List Path)

structure XcodeResolver (m : Type → Type) where
  builtinIncludes : m (Except ToolchainError Path)
  cppIncludes : m (Except ToolchainError Path)
  sdkIncludes : m (Except ToolchainError Path)

structure Host (m : Type → Type) where
  platform : Platform
  msvc : MsvcResolver m
  xcode : XcodeResolver m
  visualStudio : Option String := none

end FrontEnd
