import FrontEnd.Proofs.Msvc.Locator
import FrontEnd.Proofs.Msvc.Prompt
import FrontEnd.Proofs.Path
import FrontEnd.Proofs.Toolchain.Machine
import FrontEnd.Proofs.Version.Newest
import Mathlib.Data.List.Nodup

namespace FrontEnd.Msvc

def early : List Generation :=
  [.vs2012, .vs2013, .vs2015]

def late : List Generation :=
  [.vs2017, .latest]

def besideTools (tools : String) : Path :=
  ((((Path.ofText tools).child "..").child "..").child "VC").child "include"

def toolsUnder (installation : Path) : Path :=
  ((installation.child "VC").child "Tools").child "MSVC"

def NewestIn (world : World) (directory version : Path) : Prop :=
  ∃ name, Version.Newest (world.HasSubdirectory directory) name ∧ version = directory.join ⟨name⟩

/-- Where the compiler's own headers are, if they are there. -/
inductive CompilerPlace (world : World) (generation : Generation) : Path → Prop
  | besideTools {major : Nat} {tools : String} (old : generation ∈ early)
      (numbered : generation.productMajor = some major)
      (named : world.envText? ("VS" ++ Decimal.render major ++ "0COMNTOOLS") = some tools) :
      CompilerPlace world generation (besideTools tools)
  | installed {installation version : Path} (new : generation ∈ late)
      (located : Locates world generation installation)
      (newest : NewestIn world (toolsUnder installation) version) :
      CompilerPlace world generation (version.child "include")

def kits (world : World) : Path :=
  ((world.envText? "WindowsSdkDir").map Path.ofText).getD (((programs world).child "Windows Kits").child "10")

def sdkHeaders (version : Path) : List Path :=
  [version.child "ucrt", version.child "shared", version.child "um", version.child "winrt"]

def sdkVersion? (world : World) : Option Path :=
  world.newestVersioned? ((kits world).child "Include")

def sdkPlaces (world : World) : List Path :=
  (sdkVersion? world).toList.flatMap sdkHeaders

def compilerPlace? (world : World) (generation : Generation) : Option Path :=
  match generation with
  | .vs2012 | .vs2013 | .vs2015 => generation.productMajor.bind fun major =>
      (world.envText? ("VS" ++ Decimal.render major ++ "0COMNTOOLS")).map besideTools
  | .vs2017 | .latest => (installation? world generation).1.bind fun installation =>
      (world.newestVersioned? (toolsUnder installation)).map (·.child "include")

def places (world : World) (generation : Generation) : List Path :=
  sdkPlaces world ++ (compilerPlace? world generation).toList

/-- What is found without a prompt: the directories among the SDK's headers and the compiler's. -/
structure Searched (world : World) (generation : Generation) (found : List Path) : Prop where
  parts : ∃ version compiler : Option Path,
    (∀ path, version = some path ↔ NewestIn world ((kits world).child "Include") path) ∧
    (∀ path, compiler = some path ↔ CompilerPlace world generation path) ∧
    found = (version.toList.flatMap sdkHeaders ++ compiler.toList).filter world.isDirectory
  standing : ∀ path ∈ found, world.isDirectory path = true
  distinct : (found.map Path.components).Nodup
  few : found.length ≤ 5

/-- One world has all the pieces that another has, in the same places. -/
structure Completes (fuller world : World) (generation : Generation) : Prop where
  sdk : ∀ path, NewestIn world ((kits world).child "Include") path →
    NewestIn fuller ((kits fuller).child "Include") path
  compiler : ∀ path, CompilerPlace world generation path → CompilerPlace fuller generation path
  directories : ∀ path, world.isDirectory path = true → fuller.isDirectory path = true

variable {world : World} {generation : Generation} {path : Path}

theorem newestVersioned?_iff {directory version : Path} :
    world.newestVersioned? directory = some version ↔ NewestIn world directory version :=
  World.newestVersioned?_eq_some_iff

theorem kits_eq (world : World) : kits world = sdkRoot world := by
  rw [kits, sdkRoot]
  cases world.envText? "WindowsSdkDir" <;> rfl

theorem compilerPlace?_eq_some_iff :
    compilerPlace? world generation = some path ↔ CompilerPlace world generation path := by
  constructor
  · intro found
    cases generation with
    | vs2012 | vs2013 | vs2015 =>
      simp only [compilerPlace?, Option.bind_eq_some_iff, Option.map_eq_some_iff] at found
      obtain ⟨major, numbered, tools, named, rfl⟩ := found
      exact .besideTools (by decide) numbered named
    | vs2017 | latest =>
      simp only [compilerPlace?, Option.bind_eq_some_iff, Option.map_eq_some_iff] at found
      obtain ⟨installation, located, version, newest, rfl⟩ := found
      exact .installed (by decide) ((installation?_eq_some_iff (by decide)).mp located)
        (newestVersioned?_iff.mp newest)
  · intro place
    cases place with
    | besideTools old numbered named =>
      cases generation with
      | vs2012 | vs2013 | vs2015 =>
        simp only [compilerPlace?, numbered, named, Option.bind_some, Option.map_some]
      | vs2017 | latest => exact absurd old (by decide)
    | installed new located newest =>
      have located := (installation?_eq_some_iff new).mpr located
      have newest := newestVersioned?_iff.mpr newest
      cases generation with
      | vs2012 | vs2013 | vs2015 => exact absurd new (by decide)
      | vs2017 | latest =>
        simp only [compilerPlace?, located, newest, Option.bind_some, Option.map_some]

theorem includeBesideTools?_eq (world : World) (name : String) :
    includeBesideTools? world name =
      ((world.envText? name).map besideTools).filter world.isDirectory := by
  unfold includeBesideTools?
  cases world.envText? name <;> rfl

theorem includeUnder?_eq (world : World) (installation : Path) :
    includeUnder? world installation =
      ((world.newestVersioned? (toolsUnder installation)).map (·.child "include")).filter
        world.isDirectory := by
  rw [includeUnder?, toolsUnder]
  cases world.newestVersioned? (((installation.child "VC").child "Tools").child "MSVC") <;> rfl

theorem includeUnder?_of_ran {left : World} (ran : world.Ran left) (installation : Path) :
    includeUnder? left installation = includeUnder? world installation := by
  obtain ⟨_, _, rfl⟩ := ran
  rfl

theorem toolsVariable_eq :
    "VS" ++ Decimal.render 11 ++ "0COMNTOOLS" = "VS110COMNTOOLS" ∧
      "VS" ++ Decimal.render 12 ++ "0COMNTOOLS" = "VS120COMNTOOLS" ∧
      "VS" ++ Decimal.render 14 ++ "0COMNTOOLS" = "VS140COMNTOOLS" := by
  refine ⟨?_, ?_, ?_⟩ <;> rw [Decimal.render_two_digits (by decide) (by decide)] <;> rfl

theorem compilerInclude?_eq (world : World) (generation : Generation) :
    (compilerInclude? world generation).1 =
      (compilerPlace? world generation).filter world.isDirectory := by
  obtain ⟨eleven, twelve, fourteen⟩ := toolsVariable_eq
  have ran := installation?_ran world generation
  unfold compilerInclude?
  cases generation with
  | vs2012 | vs2013 | vs2015 =>
    simp only [includeBesideTools?_eq, compilerPlace?, Generation.productMajor, Option.bind_some,
      eleven, twelve, fourteen]
  | vs2017 | latest =>
    simp only [compilerPlace?]
    split
    · rename_i left missing
      rw [missing]
      rfl
    · rename_i installation left found
      rw [found] at ran ⊢
      simp only [includeUnder?_of_ran ran, includeUnder?_eq, Option.bind_some]

theorem sdkIncludes_eq (world : World) :
    sdkIncludesUnder world (sdkRoot world) = (sdkPlaces world).filter world.isDirectory := by
  rw [sdkIncludesUnder, sdkPlaces, sdkVersion?, kits_eq]
  cases world.newestVersioned? ((sdkRoot world).child "Include") with
  | none => rfl
  | some version => simp [sdkFolders, sdkHeaders]

theorem systemIncludes_of_unprompted (unprompted : ∀ value, ¬ Prompted world generation value) :
    systemIncludes generation world =
      ((places world generation).filter world.isDirectory, (compilerInclude? world generation).2) := by
  rw [systemIncludes, promptIncludes?_of_unprompted unprompted, places, List.filter_append,
    ← sdkIncludes_eq]
  have found := compilerInclude?_eq world generation
  generalize compilerInclude? world generation = answer at found ⊢
  obtain ⟨compiler, left⟩ := answer
  obtain rfl : compiler = (compilerPlace? world generation).filter world.isDirectory := found
  rw [← Option.toList_filter]

theorem compilerInclude?_of_early (old : generation ∈ early) :
    (compilerInclude? world generation).2 = world := by
  cases generation with
  | vs2012 | vs2013 | vs2015 => rfl
  | vs2017 | latest => exact absurd old (by decide)

theorem installation?_attempts {program : Path} (new : generation ∈ late) (located : LocatorAt world program) :
    (installation? world generation).2.attempts = world.attempts ++ [⟨program, query generation⟩] := by
  rw [← locatorArguments_eq new, installation?, locator?_eq_some_iff.mpr located]
  have tried := world.attempts_runForText ⟨program, locatorArguments generation⟩
  simp only
  split <;> rename_i answered <;> rw [answered] at tried <;> exact tried

theorem compilerInclude?_left (new : generation ∈ late) :
    (compilerInclude? world generation).2 = (installation? world generation).2 := by
  unfold compilerInclude?
  cases generation with
  | vs2012 | vs2013 | vs2015 => exact absurd new (by decide)
  | vs2017 | latest =>
    simp only
    split <;> rename_i answered <;> rw [answered]

theorem compilerInclude?_attempts {program : Path} (new : generation ∈ late)
    (located : LocatorAt world program) :
    (compilerInclude? world generation).2.attempts = world.attempts ++ [⟨program, query generation⟩] := by
  rw [compilerInclude?_left new, installation?_attempts new located]

theorem compilerInclude?_of_unlocated (new : generation ∈ late)
    (unlocated : ∀ program, ¬ LocatorAt world program) : (compilerInclude? world generation).2 = world := by
  have missing : locator? world = none :=
    Option.eq_none_iff_forall_ne_some.mpr fun program located =>
      unlocated program (locator?_eq_some_iff.mp located)
  rw [compilerInclude?_left new, installation?_of_unlocated generation missing]

theorem CompilerPlace.last_component (place : CompilerPlace world generation path) :
    path.components.getLast? = some (Bytes.ofText "include") := by
  cases place with
  | besideTools => exact Path.getLast?_components_join (by decide) (by decide) (by decide)
  | installed => exact Path.getLast?_components_join (by decide) (by decide) (by decide)

theorem sdk_last_components_sublist (world : World) :
    ((sdkPlaces world).map (·.components.getLast?)).Sublist
      (sdkFolders.map fun name => some (Bytes.ofText name)) := by
  unfold sdkPlaces
  cases sdkVersion? world with
  | none => exact List.nil_sublist _
  | some version =>
    have plain : ∀ name ∈ sdkFolders, Path.separator ∉ Bytes.ofText name ∧
        Bytes.ofText name ≠ [] ∧ Bytes.ofText name ≠ Path.here := by decide
    have last : ∀ name ∈ sdkFolders,
        (version.child name).components.getLast? = some (Bytes.ofText name) := by
      intro name member
      obtain ⟨single, named, notHere⟩ := plain name member
      exact Path.getLast?_components_join single named notHere
    rw [← List.map_congr_left last]
    simp [sdkFolders, sdkHeaders]

theorem last_components_sublist (world : World) (generation : Generation) :
    ((places world generation).map (·.components.getLast?)).Sublist
      ((sdkFolders ++ ["include"]).map fun name => some (Bytes.ofText name)) := by
  have compiler : ((compilerPlace? world generation).toList.map (·.components.getLast?)).Sublist
      [some (Bytes.ofText "include")] := by
    cases found : compilerPlace? world generation with
    | none => exact List.nil_sublist _
    | some place =>
      have last := (compilerPlace?_eq_some_iff.mp found).last_component
      simp [last]
  rw [places, List.map_append, List.map_append]
  exact (sdk_last_components_sublist world).append compiler

theorem systemIncludes_of_prompted {value : String} (prompted : Prompted world generation value)
    (tree : Tree) (directory : Location) :
    systemIncludes generation { world with tree, directory } =
      ((filled value).map Path.ofText, { world with tree, directory }) := by
  have elsewhere : Prompted { world with tree, directory } generation value :=
    ⟨prompted.set, prompted.lists, prompted.serves⟩
  rw [systemIncludes, promptIncludes?_of_prompted elsewhere, includeDirs_eq, entries_eq_filled]

theorem searched (world : World) (generation : Generation) :
    Searched world generation ((places world generation).filter world.isDirectory) := by
  have part : ((places world generation).filter world.isDirectory).Sublist (places world generation) :=
    List.filter_sublist
  have names := (part.map (·.components.getLast?)).trans (last_components_sublist world generation)
  refine ⟨⟨sdkVersion? world, compilerPlace? world generation, fun path => newestVersioned?_iff,
    fun path => compilerPlace?_eq_some_iff, rfl⟩, ?_, ?_, ?_⟩
  -- The five names that the places may end in are distinct, which settles the last two fields.
  · intro path member
    exact (List.mem_filter.mp member).2
  · have distinct := names.nodup (by decide)
    apply List.Nodup.of_map List.getLast?
    rw [List.map_map]
    exact distinct
  · have few := names.length_le
    rwa [List.length_map] at few

theorem Completes.found_sublist {fuller : World} (completes : Completes fuller world generation) :
    ((places world generation).filter world.isDirectory).Sublist
      ((places fuller generation).filter fuller.isDirectory) := by
  have compiler : (compilerPlace? world generation).toList.Sublist
      (compilerPlace? fuller generation).toList := by
    cases found : compilerPlace? world generation with
    | none => exact List.nil_sublist _
    | some place =>
      have again := completes.compiler place (compilerPlace?_eq_some_iff.mp found)
      rw [compilerPlace?_eq_some_iff.mpr again]
  have sdk : (sdkPlaces world).Sublist (sdkPlaces fuller) := by
    cases found : sdkVersion? world with
    | none =>
      rw [sdkPlaces, found]
      exact List.nil_sublist _
    | some version =>
      have again : sdkVersion? fuller = some version :=
        newestVersioned?_iff.mpr (completes.sdk version (newestVersioned?_iff.mp found))
      rw [sdkPlaces, found, sdkPlaces, again]
  have all : (places world generation).Sublist (places fuller generation) := sdk.append compiler
  exact (List.monotone_filter_right _ completes.directories).trans (all.filter _)

/-- A developer prompt's directories are taken as they are, whatever stands in the file system.
Without one, what stands of the places is found, a missing piece takes nothing else away, and a
program is run only to locate the later generations. -/
theorem systemIncludes_exact (world : World) (generation : Generation) :
    (∀ value, Prompted world generation value → ∀ tree directory,
      systemIncludes generation { world with tree, directory } =
        ((filled value).map Path.ofText, { world with tree, directory })) ∧
    ((∀ value, ¬ Prompted world generation value) →
      let answer := systemIncludes generation world
      Searched world generation answer.1 ∧
        (∀ fuller, Completes fuller world generation →
          (∀ value, ¬ Prompted fuller generation value) →
          answer.1.Sublist (systemIncludes generation fuller).1) ∧
        (generation ∈ early → answer.2 = world) ∧
        (generation ∈ late →
          (∀ program, LocatorAt world program →
            answer.2.attempts = world.attempts ++ [{ program, arguments := query generation }]) ∧
          ((∀ program, ¬ LocatorAt world program) → answer.2 = world))) := by
  refine ⟨fun value => systemIncludes_of_prompted, ?_⟩
  intro unprompted answer
  have searching : answer = _ := systemIncludes_of_unprompted unprompted
  refine ⟨?_, ?_, ?_, ?_⟩
  · rw [searching]
    exact searched world generation
  · intro fuller completes alsoUnprompted
    rw [searching, systemIncludes_of_unprompted alsoUnprompted]
    exact completes.found_sublist
  · intro old
    rw [searching]
    exact compilerInclude?_of_early old
  · intro new
    rw [searching]
    exact ⟨fun program => compilerInclude?_attempts new, compilerInclude?_of_unlocated new⟩

/-- A prompt decides for its own generation only. Another one's headers are searched, those of a later
generation with the locator, and they are fewer without the variable that names its tools. -/
theorem systemIncludes_of_other_prompt :
    let names (location : List String) : Location := (location.map Bytes.ofText).reverse
    let settings : List (Name × Bytes) := [("INCLUDE", "C:\\um; ;C:\\um"), ("VisualStudioVersion", "14.0"),
      ("WindowsSdkDir", "/sdk"), ("PATH", "/none:/b")].map fun setting =>
        (.ofText setting.1, .ofText setting.2)
    let directories := [["sdk"], ["sdk", "Include"], ["sdk", "Include", "9.0"], ["sdk", "Include", "10.0"],
      ["sdk", "Include", "10.0", "um"], ["sdk", "Include", "10.0", "ucrt"], ["old"], ["old", "VC"],
      ["old", "VC", "include"], ["old", "Common7"], ["old", "Common7", "Tools"], ["new"], ["new", "VC"],
      ["new", "VC", "Tools"], ["new", "VC", "Tools", "MSVC"], ["new", "VC", "Tools", "MSVC", "14.16"],
      ["new", "VC", "Tools", "MSVC", "14.16", "include"], ["b"]]
    let locator : Entry := .file [] (.program ⟨Bytes.ofText "\r\n/new \r\n/other\r\n", [], .exited 0⟩)
    let poorer : World := {
      tree := {
        entries := directories.map (fun location => (names location, .directory)) ++
          [(names ["b", "vswhere"], locator)]
        nodup := by decide }
      environment := settings
      directory := []
      executable := ⟨[]⟩
      calls := []
      attempts := [] }
    let tools : Name × Bytes := (.ofText "VS110COMNTOOLS", .ofText "/old/Common7/Tools")
    let world := { poorer with environment := settings ++ [tools] }
    Prompted world .vs2015 "C:\\um; ;C:\\um" ∧
      systemIncludes .vs2015 world = ([.ofText "C:\\um", .ofText "C:\\um"], world) ∧
      (∀ value, ¬ Prompted world .vs2012 value) ∧
      systemIncludes .vs2012 world = (["/sdk/Include/10.0/ucrt", "/sdk/Include/10.0/um",
        "/old/Common7/Tools/../../VC/include"].map Path.ofText, world) ∧
      Completes world poorer .vs2012 ∧ (∀ value, ¬ Prompted poorer .vs2012 value) ∧
      (systemIncludes .vs2012 poorer).1.Sublist (systemIncludes .vs2012 world).1 ∧
      (∀ value, ¬ Prompted world .vs2017 value) ∧ LocatorAt world (.ofText "/b/vswhere") ∧
      (systemIncludes .vs2017 world).1 = ["/sdk/Include/10.0/ucrt", "/sdk/Include/10.0/um",
        "/new/VC/Tools/MSVC/14.16/include"].map Path.ofText ∧
      (systemIncludes .vs2017 world).2.attempts = [{
        program := .ofText "/b/vswhere"
        arguments := ["-version", "[15.0,16.0)", "-requires", "Microsoft.VisualStudio.Component.VC.Tools.x86.x64",
          "-property", "installationPath", "-format", "value"] }] := by
  intro names settings directories locator poorer tools world
  have fourteen : Begins "14.0" 14 := (promptMajor?_eq_some_iff.mp (by decide)).1
  have version : world.envText? "VisualStudioVersion" = some "14.0" := by decide
  have prompted : Prompted world .vs2015 "C:\\um; ;C:\\um" := by
    refine ⟨by decide, ⟨"C:\\um".toList, by decide, by decide⟩, ?_⟩
    rintro major ⟨⟩
    exact ⟨"14.0", version, fourteen⟩
  have other (somewhere : World) (same : somewhere.envText? "VisualStudioVersion" = some "14.0")
      (generation : Generation) {major : Nat} (numbered : generation.productMajor = some major)
      (different : major ≠ 14) (value : String) : ¬ Prompted somewhere generation value := by
    intro served
    obtain ⟨text, set, begins⟩ := served.serves major numbered
    rw [same, Option.some.injEq] at set
    exact different (begins.unique (set ▸ fourteen))
  have unprompted := other world version .vs2012 rfl (by decide)
  have alsoUnprompted := other poorer (by decide) .vs2012 rfl (by decide)
  have laterUnprompted := other world version .vs2017 rfl (by decide)
  have newest : NewestIn poorer (.ofText "/sdk/Include") (.ofText "/sdk/Include/10.0") := by
    have found : poorer.goal (.ofText "/sdk/Include") =
        .ok (.found (names ["sdk", "Include"]) .directory) := by decide
    have listed : poorer.subdirectoryNames (.ofText "/sdk/Include") = ["10.0", "9.0"].map Bytes.ofText :=
      World.subdirectoryNames_eq found (by decide) (by decide)
    rw [← newestVersioned?_iff, World.newestVersioned?, listed]
    decide
  have sdk (somewhere : World) (root : kits somewhere = .ofText "/sdk")
      (same : somewhere.HasSubdirectory = poorer.HasSubdirectory) :
      NewestIn somewhere ((kits somewhere).child "Include") (.ofText "/sdk/Include/10.0") := by
    have inside : (Path.ofText "/sdk").child "Include" = .ofText "/sdk/Include" := by decide
    rw [root, inside, NewestIn, same]
    exact newest
  have beside : CompilerPlace world .vs2012 (besideTools "/old/Common7/Tools") :=
    .besideTools (by decide) rfl (by rw [toolsVariable_eq.1]; decide)
  have locatorAt : LocatorAt world (.ofText "/b/vswhere") := locator?_eq_some_iff.mp (by decide)
  have under : CompilerPlace world .vs2017 (.ofText "/new/VC/Tools/MSVC/14.16/include") := by
    have first : FirstLine (Bytes.ofText "\r\n/new \r\n/other\r\n") "/new" := firstLine_iff.mpr (by decide)
    have located : Locates world .vs2017 (.ofText "/new") :=
      ⟨_, ⟨some 0, _, []⟩, "/new", locatorAt, rfl, rfl, first, rfl⟩
    have found : world.goal (.ofText "/new/VC/Tools/MSVC") =
        .ok (.found (names ["new", "VC", "Tools", "MSVC"]) .directory) := by decide
    have listed : world.subdirectoryNames (.ofText "/new/VC/Tools/MSVC") = [Bytes.ofText "14.16"] :=
      World.subdirectoryNames_eq found (by decide) (by decide)
    have tools : toolsUnder (.ofText "/new") = .ofText "/new/VC/Tools/MSVC" := by decide
    have last : NewestIn world (toolsUnder (.ofText "/new")) (.ofText "/new/VC/Tools/MSVC/14.16") := by
      rw [← newestVersioned?_iff, tools, World.newestVersioned?, listed]
      decide
    exact .installed (by decide) located last
  have completes : Completes world poorer .vs2012 := by
    refine ⟨?_, ?_, fun _ stands => stands⟩
    · intro path newer
      exact newer
    · intro path place
      cases place with
      | besideTools _ numbered named =>
        cases numbered
        rw [toolsVariable_eq.1] at named
        have unset : poorer.envText? "VS110COMNTOOLS" = none := by decide
        rw [unset] at named
        cases named
      | installed new => exact absurd new (by decide)
  obtain ⟨taken, -⟩ := systemIncludes_exact world .vs2015
  obtain ⟨-, search⟩ := systemIncludes_exact world .vs2012
  obtain ⟨⟨⟨release, compiler, isRelease, isPlace, parts⟩, -, -, -⟩, -, unchanged, -⟩ := search unprompted
  obtain ⟨-, poorerSearch⟩ := systemIncludes_exact poorer .vs2012
  obtain ⟨-, grows, -, -⟩ := poorerSearch alsoUnprompted
  obtain ⟨-, laterSearch⟩ := systemIncludes_exact world .vs2017
  obtain ⟨⟨⟨laterRelease, laterCompiler, isLaterRelease, isLaterPlace, laterParts⟩, -, -, -⟩, -, -, asks⟩ :=
    laterSearch laterUnprompted
  obtain ⟨tried, -⟩ := asks (by decide)
  have listed : (filled "C:\\um; ;C:\\um").map Path.ofText = [.ofText "C:\\um", .ofText "C:\\um"] := by decide
  refine ⟨prompted, ?_, unprompted, Prod.ext ?_ (unchanged (by decide)), completes, alsoUnprompted,
    grows world completes unprompted, laterUnprompted, locatorAt, ?_, tried _ locatorAt⟩
  · rw [← listed]
    exact taken _ prompted world.tree world.directory
  · rw [parts, (isRelease _).mpr (sdk world (by decide) rfl), (isPlace _).mpr beside]
    decide
  · rw [laterParts, (isLaterRelease _).mpr (sdk world (by decide) rfl), (isLaterPlace _).mpr under]
    decide

end FrontEnd.Msvc
