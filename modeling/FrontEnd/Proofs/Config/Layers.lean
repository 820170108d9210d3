import FrontEnd.Config.Store
import FrontEnd.Proofs.Config.Rejection
import FrontEnd.Proofs.Toml.Document
import FrontEnd.Proofs.World.Following

namespace FrontEnd.Config

theorem parse?_eq_none_iff (text : String) :
    parse? text = none ↔ Toml.parse? text = none ∨
      ∃ entries, Toml.parse? text = some entries ∧ Spoiled (Toml.Value.table .header entries) := by
  rw [parse?]
  cases Toml.parse? text with
  | none => simp
  | some entries => simp [ofDocument?_eq_none_iff]

theorem parse?_sections {sections : List (String × List (String × Toml.Setting))}
    (printable : Toml.Printable sections) :
    parse? (Toml.renderSections sections) =
      ofDocument? (Toml.Value.table .header (sections.map Toml.sectionEntry)) := by
  rw [parse?, Toml.parse?_renderSections printable, Option.bind_some]

variable {world : World} {path : Path}

theorem load_eq_ok_iff {config : Config} :
    load world path = .ok config ↔
      ∃ text, world.readText path = .ok text ∧ parse? text = some config := by
  unfold load
  cases world.readText path with
  | error error => simp
  | ok text =>
    cases parsed : parse? text with
    | none => simp [parsed]
    | some other => simp [parsed]

theorem load_of_text {text : String} {execution : Execution}
    (stands : world.find? path = some (.file (Bytes.ofText text) execution)) :
    load world path = (parse? text).elim (.error (.malformed path)) .ok := by
  have read := World.readText_eq_ok_iff.mpr ⟨_, execution, stands, Bytes.text?_ofText text⟩
  cases parsed : parse? text with
  | none => simp [load, read, parsed]
  | some config => simp [load, read, parsed]

/-- What keeps a file from being a configuration. Nothing stands at the end of a dangling link. -/
inductive Unloadable (world : World) (path : Path) : Prop
  | missing (nothing : world.find? path = none)
  | directory (stands : world.find? path = some .directory)
  | notText {content : Bytes} {execution : Execution}
      (stands : world.find? path = some (.file content execution)) (other : content.text? = none)
  | notToml {content : Bytes} {execution : Execution} {text : String}
      (stands : world.find? path = some (.file content execution))
      (decoded : content.text? = some text) (malformed : Toml.parse? text = none)
  | spoiled {content : Bytes} {execution : Execution} {text : String} {entries : Toml.Entries}
      (stands : world.find? path = some (.file content execution))
      (decoded : content.text? = some text) (parsed : Toml.parse? text = some entries)
      (spoiled : Spoiled (Toml.Value.table .header entries))

theorem Unloadable.load_ne_ok (unloadable : Unloadable world path) (config : Config) :
    load world path ≠ .ok config := by
  intro loaded
  obtain ⟨text, read, parsed⟩ := load_eq_ok_iff.mp loaded
  obtain ⟨content, execution, found, decoded⟩ := World.readText_eq_ok_iff.mp read
  have sound : ¬ parse? text = none := by simp [parsed]
  rw [parse?_eq_none_iff, not_or] at sound
  cases unloadable with
  | missing nothing => simp [found] at nothing
  | directory stands => simp [found] at stands
  | notText stands other =>
    simp only [found, Option.some.injEq, Entry.file.injEq] at stands
    rw [stands.1, other] at decoded
    cases decoded
  | notToml stands other malformed =>
    simp only [found, Option.some.injEq, Entry.file.injEq] at stands
    rw [stands.1, other, Option.some.injEq] at decoded
    exact sound.1 (decoded ▸ malformed)
  | spoiled stands other document spoiled =>
    simp only [found, Option.some.injEq, Entry.file.injEq] at stands
    rw [stands.1, other, Option.some.injEq] at decoded
    exact sound.2 ⟨_, decoded ▸ document, spoiled⟩

theorem unloadable_iff : Unloadable world path ↔ ∃ error, load world path = .error error := by
  constructor
  · intro unloadable
    cases loaded : load world path with
    | error error => exact ⟨error, rfl⟩
    | ok config => exact absurd loaded (unloadable.load_ne_ok config)
  · rintro ⟨error, failed⟩
    cases stands : world.find? path with
    | none => exact .missing stands
    | some entry =>
      cases entry with
      | directory => exact .directory stands
      | link target => exact absurd trivial (World.find?_not_link stands)
      | file content execution =>
        cases decoded : content.text? with
        | none => exact .notText stands decoded
        | some text =>
          have read := World.readText_eq_ok_iff.mpr ⟨content, execution, stands, decoded⟩
          have refused : parse? text = none := by
            cases parsed : parse? text with
            | none => rfl
            | some config =>
              have loaded := load_eq_ok_iff.mpr ⟨text, read, parsed⟩
              rw [failed] at loaded
              cases loaded
          rcases (parse?_eq_none_iff text).mp refused with malformed | ⟨entries, document, spoiled⟩
          · exact .notToml stands decoded malformed
          · exact .spoiled stands decoded document spoiled

def loaded (world : World) (path : Path) : Config :=
  match load world path with
  | .ok config => config
  | .error _ => empty

theorem loaded_of_text {text : String} {execution : Execution} {config : Config}
    (stands : world.find? path = some (.file (Bytes.ofText text) execution)) (parsed : parse? text = some config) :
    loaded world path = config := by
  rw [loaded, load_of_text stands, parsed, Option.elim_some]

theorem loaded_of_unloadable (unloadable : Unloadable world path) : loaded world path = empty := by
  obtain ⟨error, failed⟩ := unloadable_iff.mp unloadable
  rw [loaded, failed]

theorem loaded_of_absent (absent : world.holds path = false) : loaded world path = empty :=
  loaded_of_unloadable (.missing (World.holds_eq_false_iff.mp absent))

theorem loadOrEmpty_eq_loaded : loadOrEmpty world path = loaded world path := by
  cases held : world.holds path with
  | true =>
    rw [loadOrEmpty, held]
    rfl
  | false =>
    rw [loaded_of_absent held, loadOrEmpty, held]
    rfl

theorem loadLayers_eq_merge (world : World) (user project : Path) :
    loadLayers world user project = (loaded world user).merge (loaded world project) := by
  have base : (if world.holds user then empty.merge (loadOrEmpty world user) else empty) =
      loaded world user := by
    cases held : world.holds user with
    | true => simp [loadOrEmpty_eq_loaded]
    | false => simp [loaded_of_absent held]
  simp only [loadLayers, base]
  cases held : world.holds project with
  | true => simp [loadOrEmpty_eq_loaded]
  | false => simp [loaded_of_absent held]

/-- The project's configuration over the user's, each in its file below the directory it is for. -/
def layered (home : Option Path) (world : World) (project : Path) : Config :=
  let own := loaded world ((project.child ".cxxparse").child "config.toml")
  match home with
  | some directory => (loaded world ((directory.child ".cxxparse").child "config.toml")).merge own
  | none => own

/-- Whether the home directory is the one that the environment names, if it names any. -/
def NamedByEnvironment (home : World → Option Path) : Prop :=
  ∀ world directory, world.env? "HOME" = some directory → directory ≠ [] →
    home world = some ⟨directory⟩

theorem loadFor_eq_layered (home : World → Option Path) (world : World) (project : Path) :
    loadFor home world project = layered (home world) world project := by
  rw [loadFor, loadLayers_eq_merge]
  cases home world with
  | some directory => rfl
  | none =>
    have nowhere : world.holds ⟨[]⟩ = false := rfl
    rw [Option.map_none, Option.getD_none, loaded_of_absent nowhere, empty_merge]
    rfl

def Sets (world : World) (path : Path) (field : Field) (value : field.Value) : Prop :=
  ∃ config, load world path = .ok config ∧ config.get? field = some value

theorem get?_loaded_eq_some_iff (field : Field) (value : field.Value) :
    (loaded world path).get? field = some value ↔ Sets world path field value := by
  rw [loaded, Sets]
  cases load world path with
  | error error => simp
  | ok config => simp

theorem get?_loadLayers_eq_some_iff (world : World) (user project : Path) (field : Field)
    (value : field.Value) :
    (loadLayers world user project).get? field = some value ↔
      Sets world project field value ∨
        (∀ other, ¬ Sets world project field other) ∧ Sets world user field value := by
  simp only [← get?_loaded_eq_some_iff, loadLayers_eq_merge, get?_merge]
  cases (loaded world project).get? field with
  | none => simp
  | some other => simp

/-- The layers of two files. Each file counts as the configuration in it or as the empty one, and it
is the empty one for everything that can be wrong with a file. -/
theorem loadLayers_exact (world : World) (user project : Path) :
    let layers := loadLayers world user project
    layers = (loaded world user).merge (loaded world project) ∧
      (∀ path, Unloadable world path ↔ ∃ error, load world path = .error error) ∧
      (Unloadable world project → layers = loaded world user ∧
        ∀ absent, world.holds absent = false → layers = loadLayers world user absent) ∧
      (Unloadable world user → layers = loaded world project ∧
        ∀ absent, world.holds absent = false → layers = loadLayers world absent project) ∧
      (∀ field value, layers.get? field = some value ↔
        Sets world project field value ∨
          (∀ other, ¬ Sets world project field other) ∧ Sets world user field value) ∧
      ∀ absent, world.holds absent = false →
        loadLayers world project project = loadLayers world absent project := by
  intro layers
  have merged : layers = (loaded world user).merge (loaded world project) :=
    loadLayers_eq_merge world user project
  refine ⟨merged, fun _ => unloadable_iff, ?_, ?_, get?_loadLayers_eq_some_iff world user project, ?_⟩
  · intro unloadable
    have alone : layers = loaded world user := by
      rw [merged, loaded_of_unloadable unloadable, merge_empty]
    refine ⟨alone, ?_⟩
    intro absent missing
    rw [loadLayers_eq_merge, loaded_of_absent missing, merge_empty, alone]
  · intro unloadable
    have alone : layers = loaded world project := by
      rw [merged, loaded_of_unloadable unloadable, empty_merge]
    refine ⟨alone, ?_⟩
    intro absent missing
    rw [loadLayers_eq_merge, loaded_of_absent missing, empty_merge, alone]
  · intro absent missing
    rw [loadLayers_eq_merge, loadLayers_eq_merge, loaded_of_absent missing, merge_self, empty_merge]

/-- A project's file with a language that there is not, beside a good setting. -/
theorem loadLayers_exact_of_unknown_language :
    let user := "[parser]\nrtti = true\n"
    let project := "[parser]\nlanguage = \"c++17\"\nrtti = false\n"
    let world : World := {
      tree := {
        entries := [([Bytes.ofText "u"], .file (Bytes.ofText user) .forbidden),
          ([Bytes.ofText "p"], .file (Bytes.ofText project) .forbidden)]
        nodup := by decide }
      environment := []
      directory := []
      executable := ⟨[]⟩
      calls := []
      attempts := [] }
    let layers := loadLayers world (.ofText "/u") (.ofText "/p")
    Unloadable world (.ofText "/p") ∧ world.holds (.ofText "/none") = false ∧
      layers = { parser := { rtti := some true } } ∧
      layers = loadLayers world (.ofText "/u") (.ofText "/none") := by
  intro user project world layers
  obtain ⟨-, -, alone, -⟩ := loadLayers_exact world (.ofText "/u") (.ofText "/p")
  have userStands : world.find? (.ofText "/u") = some (.file (Bytes.ofText user) .forbidden) := by decide
  have projectStands : world.find? (.ofText "/p") = some (.file (Bytes.ofText project) .forbidden) := by
    decide
  have absent : world.holds (.ofText "/none") = false := by decide
  have settings : parse? user = some { parser := { rtti := some true } } := by
    have written : user = Toml.renderSections [("parser", [("rtti", .boolean true)])] := by decide
    rw [written, parse?_sections ⟨by decide, by decide, by decide, by decide⟩]
    rfl
  have unknown : parse? project = none := by
    have written : project = Toml.renderSections
        [("parser", [("language", .text "c++17"), ("rtti", .boolean false)])] := by decide
    rw [written, parse?_sections ⟨by decide, by decide, by decide, by decide⟩]
    rfl
  have unloadable : Unloadable world (.ofText "/p") := by
    rw [unloadable_iff, load_of_text projectStands, unknown]
    exact ⟨_, rfl⟩
  obtain ⟨same, others⟩ := alone unloadable
  exact ⟨unloadable, absent, same.trans (loaded_of_text userStands settings), others _ absent⟩

end FrontEnd.Config
