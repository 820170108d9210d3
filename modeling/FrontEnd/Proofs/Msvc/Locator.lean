import FrontEnd.Msvc.Headers
import FrontEnd.Proofs.Text.Decimal
import FrontEnd.Proofs.Text.Lines
import FrontEnd.Proofs.Text.Trimming
import FrontEnd.Proofs.World.Environment
import FrontEnd.Proofs.World.Following
import FrontEnd.Text.Reader

namespace FrontEnd.Msvc

open Text (Blank trim trimStart trimEnd)

def firstFilled? (text : List Char) : Option (List Char) :=
  ((text.splitOn '\n').find? fun line => !decide (Blank line)).map trim

/-- The first line of an output that is more than white space, without the white space around it. -/
def FirstLine (output : Bytes) (line : String) : Prop :=
  ∃ before filled behind, output.lossy.toList.splitOn '\n' = before ++ filled :: behind ∧
    (∀ blank ∈ before, Blank blank) ∧ ¬ Blank filled ∧ line.toList = trim filled

/-- Outputs that differ in blank lines before the first one that is not blank, in how lines end, and in what
follows that first line. -/
inductive SameFirstLine : Bytes → Bytes → Prop
  | blankLine {line : Bytes} (blank : Blank line.lossy.toList) (output : Bytes) :
      SameFirstLine output (line ++ 0x0A :: output)
  | ending (before behind : Bytes) :
      SameFirstLine (before ++ 0x0A :: behind) (before ++ 0x0D :: 0x0A :: behind)
  | behind {output : Bytes} (filled : ¬ Blank output.lossy.toList) (more : Bytes) :
      SameFirstLine output (output ++ 0x0A :: more)
  | refl (output : Bytes) : SameFirstLine output output
  | symm {first second : Bytes} (same : SameFirstLine first second) : SameFirstLine second first
  | trans {first second third : Bytes} (early : SameFirstLine first second)
      (late : SameFirstLine second third) : SameFirstLine first third

theorem firstFilled?_append (first second : List Char) :
    firstFilled? (first ++ '\n' :: second) = (firstFilled? first).or (firstFilled? second) := by
  rw [firstFilled?, List.splitOn_append_cons_self, List.find?_append, Option.map_or]
  rfl

theorem firstFilled?_line {line : List Char} (whole : '\n' ∉ line) :
    firstFilled? line = if Blank line then none else some (trim line) := by
  rw [firstFilled?, List.splitOn_eq_singleton whole]
  by_cases blank : Blank line
  · simp [blank]
  · simp [blank]

theorem firstInstallation?_trimEnd (text : List Char) :
    firstInstallation? (trimEnd text) = firstInstallation? text := by
  have same : trim ((trimEnd text).takeWhile (· ≠ '\n')) = trim (text.takeWhile (· ≠ '\n')) := by
    obtain ⟨space, blank, split⟩ := Text.trimEnd_append text
    conv_rhs => rw [split]
    rw [List.takeWhile_append]
    split
    · rename_i through
      -- No line ends before the white space, so the first line takes in some of that.
      have shorter : Blank (space.takeWhile (· ≠ '\n')) :=
        fun c member => blank c ((List.takeWhile_sublist _).mem member)
      have whole := (List.takeWhile_prefix (· ≠ '\n')).eq_of_length through
      rw [whole, Text.trim_append_blank shorter]
    · rfl
  rw [firstInstallation?, firstInstallation?, same]

theorem firstInstallation?_line {line : List Char} (whole : '\n' ∉ line) (rest : List Char)
    (ended : ∀ c ∈ rest.head?, c = '\n') :
    firstInstallation? (line ++ rest) = if Blank line then none else some (trim line) := by
  have passed : ∀ c ∈ line, decide (c ≠ '\n') = true := fun c member =>
    decide_eq_true fun newline => whole (newline ▸ member)
  have boundary : ∀ c ∈ rest.head?, decide (c ≠ '\n') = false := fun c first =>
    decide_eq_false (not_not_intro (ended c first))
  rw [firstInstallation?, Text.takeWhile_run passed boundary]
  by_cases blank : Blank line
  · rw [if_pos blank, Text.trim_eq_nil blank]
  · rw [if_neg blank]
    split
    · rename_i empty
      exact absurd (Text.trim_eq_nil_iff.mp empty) blank
    · rfl

theorem firstInstallation?_trim (text : List Char) : firstInstallation? (trim text) = firstFilled? text := by
  rw [trim, firstInstallation?_trimEnd]
  have kept {line : List Char} (whole : '\n' ∉ line) : '\n' ∉ trimStart line :=
    fun member => whole ((List.dropWhile_sublist _).mem member)
  have blank_iff (line : List Char) : Blank (trimStart line) ↔ Blank line := by
    rw [← Text.trim_eq_nil_iff, Text.trim_trimStart, Text.trim_eq_nil_iff]
  induction text using Text.pieces_induction '\n' with
  | last line whole =>
    have only := firstInstallation?_line (kept whole) [] (by simp)
    rw [List.append_nil] at only
    simp only [only, firstFilled?_line whole, blank_iff, Text.trim_trimStart]
  | more line rest whole ih =>
    rw [firstFilled?_append, firstFilled?_line whole]
    by_cases blank : Blank line
    · have skipped : trimStart (line ++ '\n' :: rest) = trimStart rest :=
        List.dropWhile_append_of_pos blank
      rw [skipped, ih, if_pos blank, Option.none_or]
    · have filled : trimStart line ≠ [] := fun empty => blank (List.dropWhile_eq_nil_iff.mp empty)
      have reached : trimStart (line ++ '\n' :: rest) = trimStart line ++ '\n' :: rest := by
        rw [trimStart, List.dropWhile_append, if_neg (by simpa [trimStart] using filled)]
        rfl
      rw [reached, firstInstallation?_line (kept whole) _ (by simp)]
      simp only [blank_iff, if_neg blank, Text.trim_trimStart, Option.some_or]

theorem blank_append {first second : List Char} : Blank (first ++ second) ↔ Blank first ∧ Blank second := by
  simp only [Blank, List.mem_append, or_imp, forall_and]

theorem firstFilled?_eq_none_iff {text : List Char} : firstFilled? text = none ↔ Blank text := by
  induction text using Text.pieces_induction '\n' with
  | last line whole => simp [firstFilled?_line whole]
  | more line rest whole ih =>
    have newline : Blank ['\n'] := by decide
    rw [firstFilled?_append, firstFilled?_line whole, Option.or_eq_none_iff, ih, ← List.singleton_append,
      blank_append, blank_append]
    simp [newline]

theorem firstLine_iff {output : Bytes} {line : String} :
    FirstLine output line ↔ firstFilled? output.lossy.toList = some line.toList := by
  rw [firstFilled?, Option.map_eq_some_iff]
  simp only [List.find?_eq_some_iff_append]
  constructor
  · rintro ⟨before, filled, behind, split, blank, some, named⟩
    refine ⟨filled, ⟨by simpa using some, before, behind, split, ?_⟩, named.symm⟩
    simpa using blank
  · rintro ⟨filled, ⟨some, before, behind, split, blank⟩, named⟩
    exact ⟨before, filled, behind, split, by simpa using blank, by simpa using some, named.symm⟩

theorem SameFirstLine.firstFilled?_eq {first second : Bytes} (same : SameFirstLine first second) :
    firstFilled? second.lossy.toList = firstFilled? first.lossy.toList := by
  have feed (before behind : Bytes) : (before ++ 0x0A :: behind).lossy.toList =
      before.lossy.toList ++ '\n' :: behind.lossy.toList := Bytes.toList_lossy_append (by decide) before behind
  induction same with
  | blankLine blank output => rw [feed, firstFilled?_append, firstFilled?_eq_none_iff.mpr blank, Option.none_or]
  | ending before behind =>
    have returned : (before ++ [0x0D]).lossy.toList = before.lossy.toList ++ ['\r'] :=
      Bytes.toList_lossy_append (by decide) before []
    have space : Blank ['\r'] := by decide
    rw [← List.singleton_append, ← List.append_assoc, feed, feed, firstFilled?_append, firstFilled?_append, returned,
      ← firstInstallation?_trim, Text.trim_append_blank space, firstInstallation?_trim]
  | @behind output filled more =>
    rw [feed, firstFilled?_append]
    cases found : firstFilled? output.lossy.toList with
    | none => exact absurd (firstFilled?_eq_none_iff.mp found) filled
    | some line => rfl
  | refl output => rfl
  | symm _ ih => exact ih.symm
  | trans _ _ early late => rw [late, early]

theorem installation?_of_unlocated {world : World} (generation : Generation) (missing : locator? world = none) :
    installation? world generation = (none, world) := by
  rw [installation?, missing]

theorem installation?_of_failed {world : World} {generation : Generation} {program : Path}
    (located : locator? world = some program)
    (failed : ∀ output, (world.run ⟨program, locatorArguments generation⟩).1 = .ok output →
      output.code ≠ some 0) : (installation? world generation).1 = none := by
  rw [installation?, located]
  simp only [World.runForText]
  rcases ran : world.run ⟨program, locatorArguments generation⟩ with ⟨cause | output, left⟩
  · rfl
  · have refused : output.success = false := by
      rw [ran] at failed
      simpa [Output.success] using failed output rfl
    simp [refused]

theorem installation?_of_success {world : World} {generation : Generation} {program : Path}
    (located : locator? world = some program) {output : Output}
    (ran : (world.run ⟨program, locatorArguments generation⟩).1 = .ok output) (code : output.code = some 0) :
    (installation? world generation).1 =
      (firstFilled? output.stdout.lossy.toList).map fun line => Path.ofText (String.ofList line) := by
  have success : output.success = true := by rw [Output.success, code]; rfl
  have whole : world.run ⟨program, locatorArguments generation⟩ = (.ok output, _) := Prod.ext ran rfl
  rw [installation?, located]
  simp only [World.runForText]
  rw [whole]
  simp only [success, if_true, String.toList_ofList, firstInstallation?_trim]

theorem FirstLine.trimmed {output : Bytes} {line : String} (first : FirstLine output line) :
    line ≠ "" ∧ Text.Trimmed line.toList := by
  obtain ⟨before, filled, behind, split, blank, some, named⟩ := first
  rw [named]
  refine ⟨?_, Text.trimmed_trim filled⟩
  rintro rfl
  exact some (Text.trim_eq_nil_iff.mp named.symm)

theorem installation?_eq_some_iff_of_success {world : World} {generation : Generation} {program path : Path}
    (located : locator? world = some program) {output : Output}
    (ran : (world.run ⟨program, locatorArguments generation⟩).1 = .ok output) (code : output.code = some 0) :
    (installation? world generation).1 = some path ↔
      ∃ line, FirstLine output.stdout line ∧ path = Path.ofText line := by
  rw [installation?_of_success located ran code, Option.map_eq_some_iff]
  constructor
  · rintro ⟨line, first, rfl⟩
    exact ⟨String.ofList line, firstLine_iff.mpr (by rw [first, String.toList_ofList]), rfl⟩
  · rintro ⟨line, first, rfl⟩
    exact ⟨line.toList, firstLine_iff.mp first, by rw [String.ofList_toList]⟩

/-- The locator's answer is the first line of what it printed that is more than white space, without the white
space around it, if the locator could be started and ended with code zero. No other part of the output matters. -/
theorem installation?_exact (world : World) (generation : Generation) :
    let found := (installation? world generation).1
    (locator? world = none → found = none) ∧
    ∀ program, locator? world = some program →
      let ran := (world.run ⟨program, locatorArguments generation⟩).1
      (∀ output, ran = .ok output → output.code = some 0 →
        (∀ path, found = some path ↔ ∃ line, FirstLine output.stdout line ∧ path = Path.ofText line) ∧
        (found = none ↔ ∀ line ∈ output.stdout.lossy.toList.splitOn '\n', Blank line) ∧
        (∀ line, FirstLine output.stdout line → line ≠ "" ∧ Text.Trimmed line.toList) ∧
        ∀ other otherGeneration otherProgram otherOutput, locator? other = some otherProgram →
          (other.run ⟨otherProgram, locatorArguments otherGeneration⟩).1 = .ok otherOutput →
          otherOutput.code = some 0 → SameFirstLine output.stdout otherOutput.stdout →
            (installation? other otherGeneration).1 = found) ∧
      (∀ output, ran = .ok output → output.code ≠ some 0 → found = none) ∧
      ∀ cause, ran = .error cause → found = none := by
  intro found
  constructor
  · intro missing
    exact congrArg Prod.fst (installation?_of_unlocated generation missing)
  intro program located ran
  refine ⟨?_, ?_, ?_⟩
  · intro output succeeded code
    have answer : found = _ := installation?_of_success located succeeded code
    refine ⟨fun path => installation?_eq_some_iff_of_success located succeeded code, ?_,
      fun line first => first.trimmed, ?_⟩
    · rw [answer, firstFilled?, Option.map_map, Option.map_eq_none_iff, List.find?_eq_none]
      simp
    · intro other otherGeneration otherProgram otherOutput alsoLocated alsoSucceeded alsoCode same
      rw [answer, installation?_of_success alsoLocated alsoSucceeded alsoCode, same.firstFilled?_eq]
  · intro output ended code
    refine installation?_of_failed located ?_
    intro other same
    rw [show (world.run _).1 = .ok output from ended, Except.ok.injEq] at same
    exact same ▸ code
  · intro cause notStarted
    refine installation?_of_failed located ?_
    intro output succeeded
    rw [show (world.run _).1 = .error cause from notStarted] at succeeded
    cases succeeded

/-- A blank line in front, an ideographic space around the line, and a second installation behind it. -/
theorem installation?_of_padded_output :
    let bin : Location := [Bytes.ofText "b"]
    let world (output : Bytes) (ending : Ending) : World := {
      tree := {
        entries := [(bin, .directory),
          (Bytes.ofText "vswhere" :: bin, .file [] (.program ⟨output, [], ending⟩))]
        nodup := show [bin, Bytes.ofText "vswhere" :: bin].Nodup by decide }
      environment := [(Bytes.ofText "PATH", Bytes.ofText "/b")]
      directory := []
      executable := ⟨[]⟩
      calls := []
      attempts := [] }
    let line := Bytes.ofText "\u3000C:\\VS "
    let padded := Bytes.ofText " \r\n\u3000C:\\VS \r\nD:\\VS\n"
    SameFirstLine line padded ∧
      (installation? (world line (.exited 0)) .latest).1 = some (.ofText "C:\\VS") ∧
      (installation? (world padded (.exited 0)) .latest).1 = some (.ofText "C:\\VS") ∧
      (installation? (world padded (.exited 1)) .latest).1 = none ∧
      (installation? (world padded .killed) .latest).1 = none := by
  intro bin world line padded
  let program := Path.ofText "/b/vswhere"
  have located (output : Bytes) (ending : Ending) : locator? (world output ending) = some program := rfl
  have ran (output : Bytes) (ending : Ending) :
      ((world output ending).run ⟨program, locatorArguments .latest⟩).1 =
        .ok (Program.result ⟨output, [], ending⟩) := rfl
  have same : SameFirstLine line padded := by
    have filled : ¬ Blank line.lossy.toList := by decide
    have more := SameFirstLine.behind filled (Bytes.ofText "D:\\VS\n")
    have returned := SameFirstLine.ending line (Bytes.ofText "D:\\VS\n")
    have blank : Blank (Bytes.lossy (Bytes.ofText " \r")).toList := by decide
    exact (more.trans returned).trans (.blankLine blank _)
  have first : FirstLine line "C:\\VS" := firstLine_iff.mpr (by decide)
  obtain ⟨-, plain⟩ := installation?_exact (world line (.exited 0)) .latest
  obtain ⟨succeeded, -, -⟩ := plain program (located _ _)
  obtain ⟨answer, -, -, independent⟩ := succeeded _ (ran _ _) rfl
  obtain ⟨-, refused⟩ := installation?_exact (world padded (.exited 1)) .latest
  obtain ⟨-, ended, -⟩ := refused program (located _ _)
  obtain ⟨-, stopped⟩ := installation?_exact (world padded .killed) .latest
  obtain ⟨-, killed, -⟩ := stopped program (located _ _)
  have found := (answer _).mpr ⟨_, first, rfl⟩
  refine ⟨same, found, ?_, ended _ (ran _ _) (by decide), killed _ (ran _ _) (by decide)⟩
  rw [independent _ _ _ _ (located _ _) (ran padded (.exited 0)) rfl same]
  exact found

def programs (world : World) : Path :=
  .ofText ((world.envText? "ProgramFiles(x86)").getD "C:\\Program Files (x86)")

def installedLocator (world : World) : Path :=
  (((programs world).child "Microsoft Visual Studio").child "Installer").child "vswhere.exe"

/-- The locator is where its installer puts it, else on the search path. -/
inductive LocatorAt (world : World) : Path → Prop
  | installed (stands : world.find? (installedLocator world) ≠ none) :
      LocatorAt world (installedLocator world)
  | searched {program : Path} (missing : world.find? (installedLocator world) = none)
      (first : world.FirstOnPath (.ofText "vswhere") program) : LocatorAt world program

def query (generation : Generation) : List String :=
  (if generation = .vs2017 then ["-version", "[15.0,16.0)"] else ["-latest"]) ++
    ["-requires", "Microsoft.VisualStudio.Component.VC.Tools.x86.x64", "-property", "installationPath",
      "-format", "value"]

def Locates (world : World) (generation : Generation) (installation : Path) : Prop :=
  ∃ program output line, LocatorAt world program ∧
    (world.run { program, arguments := query generation }).1 = .ok output ∧ output.code = some 0 ∧
    FirstLine output.stdout line ∧ installation = .ofText line

theorem locator?_eq_some_iff {world : World} {program : Path} :
    locator? world = some program ↔ LocatorAt world program := by
  have place : locator? world = if world.holds (installedLocator world) then some (installedLocator world)
      else world.findExecutable? (Path.ofText "vswhere") := rfl
  have single : (Path.ofText "vswhere").isCompound = false := by decide
  rw [place]
  cases stands : world.find? (installedLocator world) with
  | none =>
    rw [World.holds_eq_false_iff.mpr stands, if_neg (by decide), World.findExecutable?_eq_some_iff single]
    constructor
    · exact .searched stands
    · rintro (there | ⟨-, first⟩)
      · exact absurd stands there
      · exact first
  | some entry =>
    have there : world.holds (installedLocator world) = true := by rw [World.holds, stands]; rfl
    rw [there, if_pos rfl, Option.some.injEq]
    constructor
    · rintro rfl
      exact .installed (by simp [stands])
    · rintro (_ | ⟨missing, -⟩)
      · rfl
      · simp [stands] at missing

theorem locatorArguments_eq {generation : Generation} (new : generation ∈ [.vs2017, .latest]) :
    locatorArguments generation = query generation := by
  have fifteen : Decimal.render 15 = "15" := Decimal.render_two_digits (by decide) (by decide)
  have sixteen : Decimal.render 16 = "16" := Decimal.render_two_digits (by decide) (by decide)
  simp only [List.mem_cons, List.not_mem_nil, or_false] at new
  rcases new with rfl | rfl
  · simp [locatorArguments, query, Generation.productMajor, fifteen, sixteen]
  · rfl

theorem installation?_eq_some_iff {world : World} {generation : Generation}
    (new : generation ∈ [.vs2017, .latest]) {installation : Path} :
    (installation? world generation).1 = some installation ↔ Locates world generation installation := by
  unfold Locates
  simp only [← locatorArguments_eq new, ← locator?_eq_some_iff]
  constructor
  · intro printed
    cases located : locator? world with
    | none =>
      rw [installation?_of_unlocated generation located] at printed
      cases printed
    | some program =>
      by_cases succeeded : ∃ output, (world.run ⟨program, locatorArguments generation⟩).1 = .ok output ∧
          output.code = some 0
      · obtain ⟨output, ran, code⟩ := succeeded
        obtain ⟨line, first, same⟩ := (installation?_eq_some_iff_of_success located ran code).mp printed
        exact ⟨program, output, line, rfl, ran, code, first, same⟩
      · have failed := installation?_of_failed located fun output ran code => succeeded ⟨output, ran, code⟩
        rw [failed] at printed
        cases printed
  · rintro ⟨program, output, line, located, ran, code, first, same⟩
    exact (installation?_eq_some_iff_of_success located ran code).mpr ⟨line, first, same⟩

end FrontEnd.Msvc
