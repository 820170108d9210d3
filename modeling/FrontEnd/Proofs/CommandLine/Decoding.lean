import FrontEnd.Proofs.CommandLine.Sections

namespace FrontEnd.Options

open CommandLine

def sectionValues (options : Options) : Section → List String
  | .target => options.target.toList
  | .compatibility => options.compatibility?.toList.map Msvc.Compiler.render
  | .noBuiltinIncludes => if options.noBuiltinIncludes then [""] else []
  | .noStandardIncludes => if options.noStandardIncludes then [""] else []
  | .define => options.defines
  | .undefine => options.undefines
  | .includeDir => options.includeDirs.map Path.display
  | .systemIncludeDir => options.systemIncludeDirs.map Path.display
  | .verbose => if options.verbose then [""] else []

theorem targetSection_eq (options : Options) :
    options.targetSection = Section.target.write (options.sectionValues .target) := by
  cases triple : options.target <;>
    simp [targetSection, Section.write, Section.paired, Section.mark, sectionValues, triple]

theorem compatibilitySection_eq (options : Options) :
    options.compatibilitySection = Section.compatibility.write (options.sectionValues .compatibility) := by
  cases compiler : options.compatibility? <;>
    simp [compatibilitySection, Section.write, Section.paired, Section.mark, sectionValues, compiler]

theorem flagSection_eq (kind : Section) (attached : kind.paired = false) (on : Bool) :
    flagSection on kind.mark = kind.write (if on then [""] else []) := by
  cases on <;> simp [flagSection, Section.write, attached]

theorem systemIncludeSection_eq (options : Options) :
    options.systemIncludeSection =
      Section.systemIncludeDir.write (options.sectionValues .systemIncludeDir) := by
  simp [systemIncludeSection, Section.write, Section.paired, Section.mark, sectionValues,
    List.flatMap_map]

theorem includeSection_eq (options : Options) :
    options.includeSection = Section.includeDir.write (options.sectionValues .includeDir) := by
  simp [includeSection, Section.write, Section.paired, Section.mark, sectionValues,
    Function.comp_def]

theorem ownSections_eq (options : Options) :
    options.ownSections = Section.all.flatMap fun kind => kind.write (options.sectionValues kind) := by
  have builtin := flagSection_eq .noBuiltinIncludes rfl options.noBuiltinIncludes
  have standard := flagSection_eq .noStandardIncludes rfl options.noStandardIncludes
  have verbose := flagSection_eq .verbose rfl options.verbose
  have defines : options.defineSection = Section.define.write (options.sectionValues .define) := rfl
  have undefines : options.undefineSection = Section.undefine.write (options.sectionValues .undefine) := rfl
  simp only [Section.mark] at builtin standard verbose
  simp only [ownSections, targetSection_eq, compatibilitySection_eq, includeSection_eq,
    systemIncludeSection_eq, builtin, standard, verbose, defines, undefines]
  simp [Section.all, sectionValues]

theorem readAll_ownSections (options : Options) :
    Section.readAll Section.all options.ownSections = Section.all.map options.sectionValues := by
  rw [ownSections_eq, Section.readAll_write Section.nodup_all]

/-- The values of a section as they are read from the command line, after its arguments. -/
def shown (options : Options) (kind : Section) : List String :=
  let own := options.commandLine.drop options.arguments.length
  ((Section.all.zip (Section.readAll Section.all own)).lookup kind).getD []

theorem shown_eq (options : Options) (kind : Section) : options.shown kind = options.sectionValues kind := by
  have own : options.commandLine.drop options.arguments.length = options.ownSections := List.drop_left
  rw [shown, own, readAll_ownSections]
  cases kind <;> rfl

theorem filter_begins_ownSections (options : Options) (kind : Section) :
    (optionWords options.ownSections).filter kind.begins = kind.options (options.sectionValues kind) := by
  have one : Section.all.filter (· = kind) = [kind] := by cases kind <;> decide
  rw [ownSections_eq, filter_begins_optionWords, one, List.flatMap_singleton]

theorem filter_compatibility_ownSections (options : Options) :
    (optionWords options.ownSections).filter Section.compatibility.begins =
      options.compatibilitySection := by
  rw [filter_begins_ownSections, compatibilitySection_eq]
  rfl

theorem ownSections_inj {first second : Options} :
    first.ownSections = second.ownSections ↔ first.sectionValues = second.sectionValues := by
  constructor
  · intro same
    have read := congrArg (Section.readAll Section.all) same
    rw [readAll_ownSections, readAll_ownSections, List.map_inj_left] at read
    funext kind
    exact read kind kind.mem_all
  · intro same
    rw [ownSections_eq, ownSections_eq, same]

/-- The version that the front end is told, in digits: that of the tool set, in Microsoft mode and
when there is a tool set. -/
def shownVersion? (options : Options) : Option (UInt32 × UInt32) :=
  if options.microsoftMode = true ∧ options.toolSet ≠ 0 then
    some (options.toolSet / 10000000, options.toolSet % 10000000 / 100000)
  else none

theorem compatibility?_eq (options : Options) :
    options.compatibility? = options.shownVersion?.map fun (major, minor) => ⟨major, minor⟩ := by
  cases mode : options.microsoftMode <;> by_cases unset : options.toolSet = 0 <;>
    simp [compatibility?, shownVersion?, Msvc.Compiler.ofToolSet?, mode, unset]

theorem renderedVersion_inj {first second : Options} :
    first.sectionValues .compatibility = second.sectionValues .compatibility ↔
      first.shownVersion? = second.shownVersion? := by
  simp only [sectionValues, compatibility?_eq]
  cases first.shownVersion? with
  | none => cases second.shownVersion? <;> simp
  | some version =>
    cases second.shownVersion? with
    | none => simp
    | some other =>
      constructor
      · intro same
        have rendered : (⟨version.1, version.2⟩ : Msvc.Compiler).render =
            (⟨other.1, other.2⟩ : Msvc.Compiler).render := by simpa using same
        have equal := Msvc.Compiler.render_injective rendered
        simp only [Msvc.Compiler.mk.injEq] at equal
        rw [Prod.ext equal.1 equal.2]
      · intro same
        rw [same]

theorem flagValues_inj {first second : Bool} :
    (if first then [""] else []) = (if second then [""] else []) ↔ first = second := by
  cases first <;> cases second <;> simp

/-- Two sets of options with the same arguments have the same command line exactly when they agree
on everything that the command line shows. -/
theorem commandLine_eq_iff {first second : Options} (arguments : first.arguments = second.arguments) :
    first.commandLine = second.commandLine ↔
      first.target = second.target ∧
      first.shownVersion? = second.shownVersion? ∧
      first.noBuiltinIncludes = second.noBuiltinIncludes ∧
      first.noStandardIncludes = second.noStandardIncludes ∧
      first.defines = second.defines ∧
      first.undefines = second.undefines ∧
      first.includeDirs.map Path.display = second.includeDirs.map Path.display ∧
      first.systemIncludeDirs.map Path.display = second.systemIncludeDirs.map Path.display ∧
      first.verbose = second.verbose := by
  rw [commandLine, commandLine, arguments, List.append_cancel_left_eq, ownSections_inj]
  constructor
  · intro same
    have value := congrFun same
    refine ⟨?_, renderedVersion_inj.mp (value .compatibility), flagValues_inj.mp (value .noBuiltinIncludes),
      flagValues_inj.mp (value .noStandardIncludes), value .define, value .undefine, value .includeDir,
      value .systemIncludeDir, flagValues_inj.mp (value .verbose)⟩
    simpa [sectionValues] using congrArg List.head? (value .target)
  · rintro ⟨target, version, builtin, standard, defines, undefines, includeDirs, systemDirs, verbose⟩
    funext kind
    cases kind with
    | target => exact congrArg Option.toList target
    | compatibility => exact renderedVersion_inj.mpr version
    | noBuiltinIncludes => exact flagValues_inj.mpr builtin
    | noStandardIncludes => exact flagValues_inj.mpr standard
    | define => exact defines
    | undefine => exact undefines
    | includeDir => exact includeDirs
    | systemIncludeDir => exact systemDirs
    | verbose => exact flagValues_inj.mpr verbose

/-- Directories that are spelled like flags are not taken for flags. -/
theorem commandLine_of_flag_like_directories :
    let plain := Options.new OsFamily.unix.platform ⟨[]⟩
    let first := { plain with systemIncludeDirs := [Path.ofText "-isystem", Path.ofText "-v"] }
    let second := { plain with systemIncludeDirs := [Path.ofText "-isystem"], verbose := true }
    first.arguments = second.arguments ∧ first.commandLine ≠ second.commandLine := by
  intro plain first second
  have arguments : first.arguments = second.arguments := rfl
  refine ⟨arguments, fun same => ?_⟩
  obtain ⟨-, -, -, -, -, -, -, -, verbose⟩ := (commandLine_eq_iff arguments).mp same
  cases verbose

end FrontEnd.Options
