import FrontEnd.World.Process

namespace FrontEnd.World

structure DiffersIn (name : String) (first second : World) : Prop where
  rest : second = { first with environment := second.environment }
  elsewhere : ∀ other, other ≠ name → second.env? other = first.env? other

theorem firstStartable_congr {first second : World}
    (same : ∀ path, second.startable path = first.startable path) (failure : IoError)
    (candidates : List Path) :
    second.firstStartable failure candidates = first.firstStartable failure candidates := by
  induction candidates generalizing failure with
  | nil => rfl
  | cons candidate rest ih => simp only [firstStartable, same, ih]

theorem lookup_filter_ne (settings : List (Name × Bytes)) (name other : Name) :
    (settings.filter fun setting => setting.1 ≠ name).lookup other =
      if other = name then none else settings.lookup other := by
  induction settings with
  | nil => simp
  | cons setting settings ih =>
    obtain ⟨key, value⟩ := setting
    by_cases kept : key = name
    · subst kept
      simp only [List.filter_cons, ne_eq, not_true, decide_false, Bool.false_eq_true, if_false] at ih ⊢
      rw [ih]
      split
      · rfl
      · rename_i different
        rw [List.lookup_cons, beq_false_of_ne different]
    · simp only [List.filter_cons, ne_eq, kept, not_false_iff, decide_true, if_true, List.lookup_cons] at ih ⊢
      rw [ih]
      by_cases same : other = key
      · subst same
        simp [kept]
      · simp [beq_false_of_ne same]

theorem env?_setEnv (world : World) (name other : String) (value : Option Bytes) :
    (world.setEnv name value).env? other = if other = name then value else world.env? other := by
  have names : Bytes.ofText other = Bytes.ofText name ↔ other = name :=
    ⟨Bytes.ofText_injective, congrArg Bytes.ofText⟩
  rw [env?, setEnv, List.lookup_append, lookup_filter_ne]
  by_cases same : other = name
  · subst same
    cases value <;> simp
  · have different := mt names.mp same
    have passed := beq_false_of_ne different
    cases value <;> simp [same, different, passed, env?, List.lookup_cons]

theorem envText?_setEnv (world : World) (name : String) (value : Option Bytes) :
    (world.setEnv name value).envText? name = value.bind Bytes.text? := by
  rw [envText?, env?_setEnv, if_pos rfl]

theorem differsIn_setEnv (world : World) (name : String) (value other : Option Bytes) :
    DiffersIn name (world.setEnv name value) (world.setEnv name other) := by
  refine ⟨rfl, ?_⟩
  intro variableName different
  rw [env?_setEnv, env?_setEnv, if_neg different, if_neg different]

namespace DiffersIn

variable {name : String} {first second : World}

theorem envText? (differs : DiffersIn name first second) {other : String} (different : other ≠ name) :
    second.envText? other = first.envText? other := by
  rw [World.envText?, World.envText?, differs.elsewhere other different]

theorem goal (differs : DiffersIn name first second) : second.goal = first.goal := by
  rw [differs.rest]
  rfl

theorem isDirectory (differs : DiffersIn name first second) :
    second.isDirectory = first.isDirectory := by
  rw [differs.rest]
  rfl

theorem newestVersioned? (differs : DiffersIn name first second) :
    second.newestVersioned? = first.newestVersioned? := by
  rw [differs.rest]
  rfl

theorem startable (differs : DiffersIn name first second) (path : Path) :
    second.startable path = first.startable path := by
  rw [World.startable, differs.goal, World.startable]

theorem lookUp (differs : DiffersIn name first second) (unsearched : "PATH" ≠ name) (program : Path) :
    second.lookUp program = first.lookUp program := by
  have directories : second.searchDirectories = first.searchDirectories := by
    rw [searchDirectories, differs.elsewhere "PATH" unsearched, searchDirectories]
  simp only [World.lookUp, differs.startable, directories, firstStartable_congr differs.startable]

theorem run (differs : DiffersIn name first second) (unsearched : "PATH" ≠ name) (command : Command) :
    second.run command = ((first.run command).1,
      { (first.run command).2 with environment := second.environment }) := by
  have found := differs.lookUp unsearched command.program
  have rest := differs.rest
  generalize second.environment = settings at rest ⊢
  simp only [World.run, found]
  subst rest
  split
  · rfl
  · split <;> rfl

theorem runForText (differs : DiffersIn name first second) (unsearched : "PATH" ≠ name)
    (command : Command) :
    second.runForText command = ((first.runForText command).1,
      { (first.runForText command).2 with environment := second.environment }) := by
  unfold World.runForText
  rw [differs.run unsearched]
  rcases first.run command with ⟨cause | output, left⟩
  · rfl
  · simp only
    split <;> rfl

theorem findExecutable? (differs : DiffersIn name first second) (unsearched : "PATH" ≠ name)
    (homeless : "HOME" ≠ name) (program : Path) :
    second.findExecutable? program = first.findExecutable? program := by
  have standing : second.currentDirectory? = first.currentDirectory? := by
    rw [differs.rest]
    rfl
  have executable : second.isExecutable = first.isExecutable := by
    rw [differs.rest]
    rfl
  have absolute : second.absolute = first.absolute := by
    rw [differs.rest]
    rfl
  have searched (directory : Path) : second.searchDirectory directory = first.searchDirectory directory := by
    simp only [searchDirectory, absolute, differs.elsewhere "HOME" homeless]
  simp only [World.findExecutable?, standing, executable, absolute, searched,
    differs.elsewhere "PATH" unsearched]

end DiffersIn

def Executable (world : World) (path : Path) : Prop :=
  ∃ content execution, world.find? path = some (.file content execution) ∧ execution ≠ .forbidden

/-- The executable file with a name in the first directory of the search path that has one. -/
def FirstOnPath (world : World) (name found : Path) : Prop :=
  ∃ value before directory behind, world.env? "PATH" = some value ∧
    value.splitOn 0x3A = before ++ directory :: behind ∧
    found = (world.searchDirectory ⟨directory⟩).join name ∧ world.Executable found ∧
    ∀ other ∈ before, ¬ world.Executable ((world.searchDirectory ⟨other⟩).join name)

theorem isExecutable_iff {world : World} {path : Path} :
    world.isExecutable path = true ↔ world.Executable path := by
  unfold isExecutable Executable
  rcases world.find? path with _ | _ | ⟨content, execution⟩ | _
  · simp
  · simp
  · simp only [bne_iff_ne, Option.some.injEq, Entry.file.injEq]
    constructor
    · intro allowed
      exact ⟨content, execution, ⟨rfl, rfl⟩, allowed⟩
    · rintro ⟨_, _, ⟨rfl, rfl⟩, allowed⟩
      exact allowed
  · simp

theorem findExecutable?_eq_some_iff {world : World} {name found : Path} (single : name.isCompound = false) :
    world.findExecutable? name = some found ↔ world.FirstOnPath name found := by
  unfold findExecutable?
  rw [single, if_neg (by simp)]
  cases set : world.env? "PATH" with
  | none => simp [FirstOnPath, set]
  | some value =>
    rw [Option.bind_some, searchPath, List.map_map, List.find?_map, Option.map_eq_some_iff]
    simp only [List.find?_eq_some_iff_append, Function.comp_apply, Bool.not_eq_true']
    constructor
    · rintro ⟨directory, ⟨executable, before, behind, listed, passed⟩, rfl⟩
      refine ⟨value, before, directory, behind, set, listed, rfl, isExecutable_iff.mp executable, ?_⟩
      intro other member there
      have refused := passed other member
      rw [isExecutable_iff.mpr there] at refused
      cases refused
    · rintro ⟨same, before, directory, behind, alsoSet, listed, rfl, executable, passed⟩
      rw [set, Option.some.injEq] at alsoSet
      subst alsoSet
      refine ⟨directory, ⟨isExecutable_iff.mpr executable, before, behind, listed, ?_⟩, rfl⟩
      intro other member
      exact Bool.eq_false_iff.mpr fun there => passed other member (isExecutable_iff.mp there)

end FrontEnd.World
