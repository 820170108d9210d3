import FrontEnd.Toolchain

namespace FrontEnd.Fixed

/-- Includes and compiler that stand in for what a resolver would find; each one left out is
answered for the generation that is asked for. -/
structure Msvc where
  includes : Option (List Path) := none
  compiler : Option Msvc.Compiler := none

def includes (generation : Msvc.Generation) : List Path :=
  ["ucrt", "um", "msvc/include"].map fun folder =>
    Path.ofText ("C:/" ++ generation.token ++ "/" ++ folder)

def Msvc.resolver {m : Type → Type} [Monad m] (data : Msvc) : MsvcResolver m where
  compiler generation := data.compiler.getD generation.compiler
  systemIncludes generation := pure (data.includes.getD (Fixed.includes generation))

def builtin : Path := Path.ofText "/xcode/usr/lib/clang/15.0.0/include"

def cpp : Path := Path.ofText "/xcode/usr/include/c++/v1"

def sdk : Path := Path.ofText "/xcode/SDKs/MacOSX.sdk/usr/include"

def lookUp (missing : Option XcodeFolder) (folder : XcodeFolder) (path : Path) :
    Except ToolchainError Path :=
  if missing = some folder then .error (.folderNotFound folder path) else .ok path

def xcodeResolver {m : Type → Type} [Monad m] (missing : Option XcodeFolder) : XcodeResolver m where
  builtinIncludes := pure (lookUp missing .builtin builtin)
  cppIncludes := pure (lookUp missing .cpp cpp)
  sdkIncludes := pure (lookUp missing .sdkHeaders sdk)

end FrontEnd.Fixed
