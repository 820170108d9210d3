import FrontEnd.Proofs.Options.Session
import FrontEnd.Toolchain.Fixed

namespace FrontEnd

variable {σ : Type}

def isStandardFlag (argument : String) : Bool :=
  "-std=".toList.isPrefixOf argument.toList

namespace Language

def isRaised (language : Language) : Bool :=
  language == cpp11 || language == gnuCpp11

theorem isStandardFlag_standardFlag (language : Language) (microsoftMode : Bool) :
    isStandardFlag (language.standardFlag microsoftMode) = true := by
  cases language <;> cases microsoftMode <;> decide

theorem standardFlag_eq_iff (language : Language) (first second : Bool) :
    language.standardFlag first = language.standardFlag second ↔
      first = second ∨ language.isRaised = false := by
  cases language <;> cases first <;> cases second <;> decide

end Language

namespace Session

def addedArguments (session : Session σ) (host : Host (StateM σ)) : List String :=
  (session.setup host).2.options.arguments.drop session.options.arguments.length

theorem addedArguments_eq (session : Session σ) (host : Host (StateM σ)) :
    session.addedArguments host = session.setupArguments host := by
  rw [addedArguments, (session.setup_eq host).2, List.drop_left]

theorem filter_isStandardFlag_addedArguments (session : Session σ) (host : Host (StateM σ)) :
    (session.addedArguments host).filter isStandardFlag =
      [session.options.language.standardFlag session.options.microsoftMode] := by
  have chosen := session.options.language.isStandardFlag_standardFlag session.options.microsoftMode
  have language : isStandardFlag session.options.language.languageFlag = false := by
    cases session.options.language <;> decide
  have rtti : (if session.options.rtti then [] else ["-fno-rtti"]).filter isStandardFlag = [] := by
    cases session.options.rtti <;> decide
  have headers : (if session.completesXcode host then ["-stdlib=libc++"]
      else if session.takesMsvc host then
        ["-fms-extensions", "-fms-compatibility", "-fdelayed-template-parsing"]
      else []).filter isStandardFlag = [] := by
    cases session.completesXcode host <;> cases session.takesMsvc host <;> decide
  rw [addedArguments_eq, setupArguments, List.filter_append, List.filter_append, rtti, headers]
  simp [chosen, language]

/-- A setup passes one standard, that of the mode it finds. It is the standard of the mode it leaves
unless it turns Microsoft's mode on for a language whose standard that mode raises. -/
theorem standardFlag_of_setup (session : Session σ) (host : Host (StateM σ)) :
    let after := (session.setup host).2.options
    (session.addedArguments host).filter isStandardFlag =
        [session.options.language.standardFlag session.options.microsoftMode] ∧
      after.language = session.options.language ∧
      ((session.addedArguments host).filter isStandardFlag =
          [after.language.standardFlag after.microsoftMode] ↔
        ¬ (session.takesMsvc host = true ∧ session.options.microsoftMode = false ∧
          session.options.language.isRaised = true)) := by
  intro after
  have mode : after.microsoftMode = (session.options.microsoftMode || session.takesMsvc host) := by
    simp only [after, (session.setup_eq host).2]
  have language : after.language = session.options.language := by
    simp only [after, (session.setup_eq host).2]
  refine ⟨session.filter_isStandardFlag_addedArguments host, language, ?_⟩
  rw [filter_isStandardFlag_addedArguments, List.singleton_inj, language, mode,
    Language.standardFlag_eq_iff]
  cases session.takesMsvc host <;> cases session.options.microsoftMode <;> simp

/-- Options made on Unix and set up for Windows: the mode is Microsoft's, the standard is not. -/
theorem standardFlag_behind_mode :
    let session : Session Unit := ⟨Options.new OsFamily.unix.platform ⟨[]⟩, ()⟩
    let host : Host (StateM Unit) := {
      platform := OsFamily.windows.platform
      msvc := Fixed.Msvc.resolver {}
      xcode := Fixed.xcodeResolver none }
    let after := (session.setup host).2.options
    (session.setup host).1 = .ok () ∧ session.takesMsvc host = true ∧
      (session.addedArguments host).filter isStandardFlag = ["-std=gnu++11"] ∧
      after.language.standardFlag after.microsoftMode = "-std=gnu++14" := by
  intro session host after
  exact ⟨rfl, by decide, by decide, by decide⟩

end Session

end FrontEnd
