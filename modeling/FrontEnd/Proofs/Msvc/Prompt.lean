import FrontEnd.Proofs.Msvc.IncludeList
import FrontEnd.Proofs.Text.Numeral
import FrontEnd.Proofs.World.Environment

namespace FrontEnd.Msvc

def Lists (value : String) : Prop :=
  ∃ entry ∈ value.toList.splitOn ';', ¬ Text.Blank entry

inductive Front : List Char → List Char → Prop
  | whole {text : List Char} (plain : '.' ∉ text) : Front text text
  | pointed {front : List Char} (plain : '.' ∉ front) (rest : List Char) : Front (front ++ '.' :: rest) front

/-- A product version whose first number is the major version. -/
def Begins (version : String) (major : Nat) : Prop :=
  ∃ front, Front version.toList front ∧ Decimal.Numeral front major

/-- A developer prompt that serves the generation and lists at least one directory. -/
structure Prompted (world : World) (generation : Generation) (value : String) : Prop where
  set : world.envText? "INCLUDE" = some value
  lists : Lists value
  serves : ∀ major, generation.productMajor = some major →
    ∃ version, world.envText? "VisualStudioVersion" = some version ∧ Begins version major

variable {world : World} {generation : Generation}

theorem includeDirs_ne_nil_iff {value : String} : includeDirs value ≠ [] ↔ Lists value := by
  rw [includeDirs, ne_eq, List.map_eq_nil_iff, splitIncludes, List.filter_eq_nil_iff]
  simp [Lists, Text.trim_eq_nil_iff]

theorem front_iff {text front : List Char} : Front text front ↔ text.takeWhile (· ≠ '.') = front := by
  have passed {part : List Char} (plain : '.' ∉ part) : ∀ c ∈ part, decide (c ≠ '.') = true :=
    fun c member => decide_eq_true fun point => plain (point ▸ member)
  constructor
  · intro cut
    cases cut with
    | whole plain => exact List.takeWhile_eq_self_iff.mpr (passed plain)
    | pointed plain rest => rw [List.takeWhile_append_of_pos (passed plain)]; simp
  · rintro rfl
    by_cases pointed : '.' ∈ text
    · obtain ⟨front, rest, split, plain⟩ := List.eq_append_cons_of_mem pointed
      rw [split, List.takeWhile_append_of_pos (passed plain)]
      simpa using Front.pointed plain rest
    · rw [List.takeWhile_eq_self_iff.mpr (passed pointed)]
      exact .whole pointed

theorem promptMajor?_eq_some_iff {version : String} {major : Nat} :
    promptMajor? version = some major ↔ Begins version major ∧ major < UInt32.size := by
  rw [promptMajor?, Decimal.read?_eq_some_iff]
  simp [Begins, front_iff]

theorem productMajor_lt {major : Nat} (numbered : generation.productMajor = some major) :
    major < UInt32.size := by
  cases generation <;> cases numbered <;> decide

theorem productMajor_inj {first second : Generation} {major : Nat}
    (one : first.productMajor = some major) (other : second.productMajor = some major) :
    first = second := by
  cases first <;> cases one <;> cases second <;> cases other <;> rfl

theorem Begins.unique {version : String} {first second : Nat} (one : Begins version first)
    (other : Begins version second) : first = second := by
  obtain ⟨front, cut, numeral⟩ := one
  obtain ⟨same, alsoCut, otherNumeral⟩ := other
  rw [front_iff] at cut alsoCut
  rw [← alsoCut, cut] at otherNumeral
  exact numeral.unique otherNumeral

theorem promptServes_iff {version : Option String} :
    promptServes generation version = true ↔ ∀ major, generation.productMajor = some major →
      ∃ text, version = some text ∧ Begins text major := by
  unfold promptServes
  cases numbered : generation.productMajor with
  | none => simp
  | some major =>
    simp only [beq_iff_eq, Option.bind_eq_some_iff, promptMajor?_eq_some_iff, productMajor_lt numbered,
      and_true, Option.some.injEq, forall_eq']

theorem numbered_of_ne_latest (other : generation ≠ .latest) :
    ∃ major, generation.productMajor = some major := by
  cases generation with
  | vs2012 | vs2013 | vs2015 | vs2017 => exact ⟨_, rfl⟩
  | latest => exact absurd rfl other

theorem eq_of_promptServes {first second : Generation} {version : Option String}
    (numbered : first ≠ .latest) (alsoNumbered : second ≠ .latest)
    (one : promptServes first version = true) (other : promptServes second version = true) :
    first = second := by
  obtain ⟨major, product⟩ := numbered_of_ne_latest numbered
  obtain ⟨otherMajor, otherProduct⟩ := numbered_of_ne_latest alsoNumbered
  obtain ⟨text, given, begins⟩ := promptServes_iff.mp one major product
  obtain ⟨same, alsoGiven, alsoBegins⟩ := promptServes_iff.mp other otherMajor otherProduct
  rw [given, Option.some.injEq] at alsoGiven
  subst alsoGiven
  rw [begins.unique alsoBegins] at product
  exact productMajor_inj product otherProduct

theorem promptIncludes?_of_prompted {value : String} (prompted : Prompted world generation value) :
    promptIncludes? world generation = some (includeDirs value) := by
  rw [promptIncludes?, prompted.set]
  simp only [promptServes_iff.mpr prompted.serves, if_true]
  cases listed : includeDirs value with
  | nil => exact absurd listed (includeDirs_ne_nil_iff.mpr prompted.lists)
  | cons first rest => rfl

theorem promptIncludes?_of_unprompted (unprompted : ∀ value, ¬ Prompted world generation value) :
    promptIncludes? world generation = none := by
  unfold promptIncludes?
  split
  · rfl
  · rename_i value set
    split
    · rename_i serves
      split
      · rfl
      · rename_i filled
        exact absurd ⟨set, includeDirs_ne_nil_iff.mp filled, promptServes_iff.mp serves⟩ (unprompted value)
    · rfl

theorem promptIncludes?_eq_some_iff {directories : List Path} :
    promptIncludes? world generation = some directories ↔
      ∃ value, Prompted world generation value ∧ directories = includeDirs value := by
  constructor
  · intro taken
    by_cases prompted : ∃ value, Prompted world generation value
    · obtain ⟨value, prompted⟩ := prompted
      rw [promptIncludes?_of_prompted prompted, Option.some.injEq] at taken
      exact ⟨value, prompted, taken.symm⟩
    · rw [promptIncludes?_of_unprompted (not_exists.mp prompted)] at taken
      cases taken
  · rintro ⟨value, prompted, rfl⟩
    exact promptIncludes?_of_prompted prompted

theorem isSome_promptIncludes?_iff :
    (promptIncludes? world generation).isSome = true ↔
      (∃ value, world.envText? "INCLUDE" = some value ∧ Lists value) ∧
        promptServes generation (world.envText? "VisualStudioVersion") = true := by
  simp only [Option.isSome_iff_exists, promptIncludes?_eq_some_iff]
  constructor
  · rintro ⟨_, value, prompted, -⟩
    exact ⟨⟨value, prompted.set, prompted.lists⟩, promptServes_iff.mpr prompted.serves⟩
  · rintro ⟨⟨value, set, lists⟩, serves⟩
    exact ⟨_, value, ⟨set, lists, promptServes_iff.mp serves⟩, rfl⟩

theorem compilerInclude?_of_differs {first second : World}
    (differs : World.DiffersIn "INCLUDE" first second) (generation : Generation) :
    compilerInclude? second generation = ((compilerInclude? first generation).1,
      { (compilerInclude? first generation).2 with environment := second.environment }) := by
  have files : programFiles second = programFiles first := by
    rw [programFiles, differs.envText? (by decide), programFiles]
  have found : locator? second = locator? first := by
    have holds : second.holds = first.holds := by
      rw [differs.rest]
      rfl
    simp only [locator?, files, holds, differs.findExecutable? (by decide) (by decide)]
  have installed : installation? second generation = ((installation? first generation).1,
      { (installation? first generation).2 with environment := second.environment }) := by
    unfold installation?
    rw [found]
    cases locator? first with
    | none => simp only [← differs.rest]
    | some program =>
      simp only [differs.runForText (by decide)]
      rcases first.runForText ⟨program, locatorArguments generation⟩ with ⟨failed | output, left⟩
      · rfl
      · rfl
  have beside (name : String) (other : name ≠ "INCLUDE") :
      includeBesideTools? second name = includeBesideTools? first name := by
    simp only [includeBesideTools?, differs.envText? other, differs.isDirectory]
  unfold compilerInclude?
  cases generation with
  | vs2012 | vs2013 | vs2015 => simp (disch := decide) only [beside, ← differs.rest]
  | vs2017 | latest =>
    simp only [installed]
    rcases installation? first _ with ⟨_ | installation, left⟩
    · rfl
    · rfl

theorem systemIncludes_of_differs {first second : World}
    (differs : World.DiffersIn "INCLUDE" first second)
    (unprompted : ∀ value, ¬ Prompted first generation value)
    (alsoUnprompted : ∀ value, ¬ Prompted second generation value) :
    systemIncludes generation second = ((systemIncludes generation first).1,
      { (systemIncludes generation first).2 with environment := second.environment }) := by
  have sdk : sdkIncludesUnder second (sdkRoot second) = sdkIncludesUnder first (sdkRoot first) := by
    have root : sdkRoot second = sdkRoot first := by
      rw [sdkRoot, programFiles, differs.envText? (by decide), differs.envText? (by decide), sdkRoot,
        programFiles]
    rw [root, sdkIncludesUnder, differs.newestVersioned?, differs.isDirectory, sdkIncludesUnder]
  have compiler := compilerInclude?_of_differs differs generation
  rw [systemIncludes, promptIncludes?_of_unprompted alsoUnprompted, systemIncludes,
    promptIncludes?_of_unprompted unprompted]
  simp only [sdk, compiler]

/-- Which environments hold a developer prompt for a generation. A prompt gives every generation that
it serves the same list, and to list nothing is to be no prompt. -/
theorem promptIncludes?_exact (world : World) :
    ((promptIncludes? world .latest).isSome = true ↔
      ∃ value, world.envText? "INCLUDE" = some value ∧ Lists value) ∧
    (∀ generation major, generation.productMajor = some major →
      ((promptIncludes? world generation).isSome = true ↔
        (∃ value, world.envText? "INCLUDE" = some value ∧ Lists value) ∧
          ∃ version, world.envText? "VisualStudioVersion" = some version ∧ Begins version major)) ∧
    (∀ first second directories others, promptIncludes? world first = some directories →
      promptIncludes? world second = some others → directories = others) ∧
    (∀ first second, first ≠ .latest → second ≠ .latest → (promptIncludes? world first).isSome = true →
      (promptIncludes? world second).isSome = true → first = second) ∧
    ∀ blank generation, ¬ Lists blank →
      let set := world.setEnv "INCLUDE" (some (Bytes.ofText blank))
      let unset := world.setEnv "INCLUDE" none
      promptIncludes? set generation = none ∧ promptIncludes? unset generation = none ∧
        systemIncludes generation set = ((systemIncludes generation unset).1,
          { (systemIncludes generation unset).2 with environment := set.environment }) := by
  refine ⟨?_, ?_, ?_, ?_, ?_⟩
  · rw [isSome_promptIncludes?_iff]
    exact and_iff_left rfl
  · intro generation major numbered
    rw [isSome_promptIncludes?_iff, promptServes_iff]
    simp only [numbered, Option.some.injEq, forall_eq']
  · intro first second directories others one other
    obtain ⟨value, prompted, rfl⟩ := promptIncludes?_eq_some_iff.mp one
    obtain ⟨same, alsoPrompted, rfl⟩ := promptIncludes?_eq_some_iff.mp other
    have equal := prompted.set.symm.trans alsoPrompted.set
    rw [Option.some.injEq] at equal
    rw [equal]
  · intro first second numbered alsoNumbered one other
    rw [isSome_promptIncludes?_iff] at one other
    exact eq_of_promptServes numbered alsoNumbered one.2 other.2
  · intro blank generation empty set unset
    have unprompted : ∀ value, ¬ Prompted unset generation value := by
      intro value prompted
      have given := prompted.set
      rw [World.envText?_setEnv] at given
      cases given
    have alsoUnprompted : ∀ value, ¬ Prompted set generation value := by
      intro value prompted
      have given := prompted.set
      rw [World.envText?_setEnv, Option.bind_some, Bytes.text?_ofText, Option.some.injEq] at given
      exact empty (given ▸ prompted.lists)
    exact ⟨promptIncludes?_of_unprompted alsoUnprompted, promptIncludes?_of_unprompted unprompted,
      systemIncludes_of_differs (World.differsIn_setEnv world "INCLUDE" _ _) unprompted alsoUnprompted⟩

/-- A sign and leading zeros do not keep a version from its generation, and it has no other. A list
of blank entries leaves the headers to be searched. -/
theorem promptIncludes?_of_padded_version :
    let world : World := {
      tree := .empty
      environment := [("INCLUDE", " ;C:\\um"), ("VisualStudioVersion", "+0014.0"),
        ("PATH", "/bin")].map fun setting => (.ofText setting.1, .ofText setting.2)
      directory := []
      executable := ⟨[]⟩
      calls := []
      attempts := [] }
    let blank := world.setEnv "INCLUDE" (some (Bytes.ofText " ; "))
    Generation.productMajor .vs2015 = some 14 ∧ Begins "+0014.0" 14 ∧
      (∃ directories, promptIncludes? world .vs2015 = some directories ∧
        promptIncludes? world .latest = some directories) ∧
      promptIncludes? world .vs2013 = none ∧ ¬ Lists " ; " ∧
      systemIncludes .latest blank =
        ((systemIncludes .latest (world.setEnv "INCLUDE" none)).1,
          { (systemIncludes .latest (world.setEnv "INCLUDE" none)).2 with
            environment := blank.environment }) := by
  intro world blank
  obtain ⟨latest, numbered, same, exclusive, unlisted⟩ := promptIncludes?_exact world
  have lists : ∃ value, world.envText? "INCLUDE" = some value ∧ Lists value :=
    ⟨" ;C:\\um", by decide, "C:\\um".toList, by decide, by decide⟩
  have begins : Begins "+0014.0" 14 := by
    have cut : "+0014.0".toList = "+0014".toList ++ '.' :: "0".toList := by decide
    refine ⟨"+0014".toList, ?_, .signed ⟨by decide, List.all_eq_true.mp rfl, by decide⟩⟩
    rw [cut]
    exact .pointed (by decide) _
  have nothing : ¬ Lists " ; " := by
    rintro ⟨entry, member, filled⟩
    revert entry
    decide
  have served := (numbered .vs2015 14 rfl).mpr ⟨lists, "+0014.0", by decide, begins⟩
  have alone : promptIncludes? world .vs2013 = none := by
    cases taken : promptIncludes? world .vs2013 with
    | none => rfl
    | some others =>
      have sameGeneration := exclusive .vs2015 .vs2013 (by decide) (by decide) served (by simp [taken])
      cases sameGeneration
  obtain ⟨directories, taken⟩ := Option.isSome_iff_exists.mp served
  obtain ⟨others, alsoTaken⟩ := Option.isSome_iff_exists.mp (latest.mpr lists)
  obtain ⟨-, -, searched⟩ := unlisted " ; " .latest nothing
  exact ⟨rfl, begins, ⟨directories, taken, same _ _ _ _ taken alsoTaken ▸ alsoTaken⟩, alone, nothing, searched⟩

end FrontEnd.Msvc
