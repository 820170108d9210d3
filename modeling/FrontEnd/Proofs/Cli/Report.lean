import FrontEnd.Proofs.Cli.Build
import FrontEnd.Proofs.Options.Json

namespace FrontEnd.Cli

variable {home : World → Option Path}

theorem Request.print_json_iff {request : Request} (verb : request.verb = .report) (asked : request.json = true)
    {options : Options} {text : String} :
    request.print options = .ok text ↔ ∃ json, options.json? = some json ∧ json.pretty ++ "\n" = text := by
  rw [print, verb, asked]
  cases options.json? <;> simp

theorem Request.run_of_print {request : Request} {world : World} {options : Options} {text : String}
    (built : (buildOptions home request.setup world).1 = .ok options) (printed : request.print options = .ok text) :
    (request.run home world).1 = { code := 0, output := text } := by
  rw [request.run_outcome home world, built]
  simp only [Except.bind, printed]

theorem Request.run_args {request : Request} (verb : request.verb = .args) {world : World} {options : Options}
    (built : (buildOptions home request.setup world).1 = .ok options) :
    (request.run home world).1 = { code := 0, output := String.join (options.commandLine.map (· ++ "\n")) } := by
  apply run_of_print built
  simp only [print, verb]

theorem Request.run_json {request : Request} (verb : request.verb = .report) (asked : request.json = true)
    {world : World} {options : Options} {json : Json} (built : (buildOptions home request.setup world).1 = .ok options)
    (form : options.json? = some json) :
    (request.run home world).1 = { code := 0, output := json.pretty ++ "\n" } := by
  apply run_of_print built
  exact (print_json_iff verb asked).mpr ⟨json, form, rfl⟩

theorem Request.run_json_iff (home : World → Option Path) {request : Request} (verb : request.verb = .report)
    (asked : request.json = true) (world : World) :
    (request.run home world).1.code = 0 ↔
      ∃ options json, (buildOptions home request.setup world).1 = .ok options ∧ options.json? = some json := by
  constructor
  · intro success
    obtain ⟨options, built, printed⟩ := (request.outcome_cases home world).2.mp success
    obtain ⟨json, form, -⟩ := (print_json_iff verb asked).mp printed
    exact ⟨options, json, built, form⟩
  · intro shown
    obtain ⟨options, json, built, form⟩ := shown
    rw [run_json verb asked built form]

/-- Options have a JSON form unless a path of theirs is not text, and its text says what they are. So a
run that shows them in JSON says which arguments a run with the same settings lists. -/
theorem json_report_exact :
    (∀ options : Options,
      (options.json? = none ↔
        ∃ path ∈ options.executable :: options.includeDirs ++ options.systemIncludeDirs, path.text? = none) ∧
      ∀ json, options.json? = some json →
        (∃ fields, Json.parse? json.pretty = some (.object fields) ∧ fields.map (·.1) = Options.fieldNames) ∧
        (Json.parse? json.pretty).bind Options.ofJson? = some options ∧
        ∀ other form, Options.json? other = some form → form.pretty = json.pretty → other = options) ∧
    ∀ (home : World → Option Path) (world : World) (shown listed : Request), shown.verb = .report →
      shown.json = true → listed.verb = .args → listed.setup = shown.setup →
      let outcome := (shown.run home world).1
      (outcome.code = 0 ↔
        ∃ options json, (buildOptions home shown.setup world).1 = .ok options ∧ options.json? = some json) ∧
      (outcome.code = 0 → ∃ options, (buildOptions home shown.setup world).1 = .ok options ∧
        (Json.parse? outcome.output).bind Options.ofJson? = some options ∧
        (listed.run home world).1 = { code := 0, output := String.join (options.commandLine.map (· ++ "\n")) }) := by
  have parsed {options : Options} {json : Json} (form : options.json? = some json) :
      (Json.parse? json.pretty).bind Options.ofJson? = some options := by
    rw [(Options.plain_json? form).parse?_pretty]
    exact Options.ofJson?_json? form
  refine ⟨fun options => ⟨Options.json?_eq_none_iff, ?_⟩, ?_⟩
  · intro json form
    refine ⟨?_, parsed form, ?_⟩
    · obtain ⟨fields, rfl, names⟩ := Options.exists_fields form
      exact ⟨fields, (Options.plain_json? form).parse?_pretty, names⟩
    · intro other otherForm otherShown same
      have others := parsed otherShown
      rw [same, parsed form] at others
      exact (Option.some.inj others).symm
  · intro home world shown listed report asked args same outcome
    have success := Request.run_json_iff home report asked world
    refine ⟨success, fun exits => ?_⟩
    obtain ⟨options, json, built, form⟩ := success.mp exits
    have printed : outcome = { code := 0, output := json.pretty ++ "\n" } :=
      Request.run_json report asked built form
    refine ⟨options, built, ?_, Request.run_args args (same ▸ built)⟩
    rw [printed, (Options.plain_json? form).parse?_pretty_newline]
    exact Options.ofJson?_json? form

/-- Settings with quotes, backslashes, control characters and letters of other scripts, in a project
without files. -/
theorem json_report_exact_of_escapes :
    let home (world : World) : Option Path := ((world.env? "HOME").filter (· ≠ [])).map Path.mk
    let world : World := {
      tree := .empty
      environment := [("HOME", "/h"), ("INCLUDE", "/crt; /sdk")].map fun setting =>
        (.ofText setting.1, .ofText setting.2)
      directory := []
      executable := Path.ofText "/bin/cxxparse"
      calls := []
      attempts := [] }
    let args : SetupArgs := {
      msvc := some "latest"
      defines := ["A=\"\\\x01\x7f\n\"", "Ωμέγα"]
      project := some (Path.ofText "/p") }
    let shown : Request := { verb := .report, setup := args, json := true, verbose := false }
    let listed : Request := { verb := .args, setup := args, json := false, verbose := true }
    (shown.run home world).1.code = 0 ∧
      ∃ options, (Json.parse? (shown.run home world).1.output).bind Options.ofJson? = some options ∧
        options.defines = args.defines ∧
        (listed.run home world).1 = { code := 0, output := String.join (options.commandLine.map (· ++ "\n")) } := by
  intro home world args shown listed
  obtain ⟨forms, runs⟩ := json_report_exact
  obtain ⟨success, reads⟩ := runs home world shown listed rfl rfl rfl rfl
  have known : (args.project <|> world.currentDirectory?) = some (Path.ofText "/p") := rfl
  have built : (buildOptions home args world).1 = _ := buildOptions_eq args world known
  rw [if_neg (by decide)] at built
  generalize made : args.described (Config.layered (home world) world (Path.ofText "/p")) world = options at built
  have paths : options.executable :: options.includeDirs ++ options.systemIncludeDirs =
      [Path.ofText "/bin/cxxparse", Path.ofText "/crt", Path.ofText "/sdk"] := by
    rw [← made]
    decide
  have textual : options.json? ≠ none := by
    intro absent
    obtain ⟨path, member, unread⟩ := (forms options).1.mp absent
    rw [paths] at member
    simp only [List.mem_cons, List.not_mem_nil, or_false] at member
    rcases member with rfl | rfl | rfl <;> simp at unread
  obtain ⟨json, form⟩ := Option.ne_none_iff_exists'.mp textual
  have exits := success.mpr ⟨options, json, built, form⟩
  obtain ⟨other, rebuilt, read, prints⟩ := reads exits
  have same : options = other := Except.ok.inj (built.symm.trans rebuilt)
  refine ⟨exits, other, read, ?_, prints⟩
  rw [← same, ← made]
  decide

end FrontEnd.Cli
