import FrontEnd.Options.Json
import FrontEnd.Proofs.Config.RoundTrip
import FrontEnd.Proofs.Json.RoundTrip

namespace FrontEnd

namespace Json

def asText? : Json → Option String
  | text value => some value
  | _ => none

def asPath? (json : Json) : Option Path :=
  json.asText?.map Path.ofText

def asBoolean? : Json → Option Bool
  | boolean value => some value
  | _ => none

def asWord? : Json → Option UInt32
  | integer value => if 0 ≤ value ∧ value < UInt32.size then some (.ofNat value.toNat) else none
  | _ => none

section

variable {α : Type} (read : Json → Option α)

def asList? : Json → Option (List α)
  | array items => items.mapM read
  | _ => none

def asOptional? : Json → Option (Option α)
  | null => some none
  | json => (read json).map some

def asName? (named? : String → Option α) (json : Json) : Option α :=
  json.asText?.bind named?

def field? (json : Json) (name : String) : Option α :=
  match json with
  | object fields => (fields.lookup name).bind read
  | _ => none

end

theorem field?_bind {α β : Type} {read : Json → Option α} {fields : List (String × Json)} {name : String}
    {value : Json} {result : α} {more : α → Option β} {whole : β}
    (found : fields.lookup name = some value) (reads : read value = some result)
    (rest : more result = some whole) : (field? read (.object fields) name >>= more) = some whole := by
  have first : field? read (.object fields) name = some result := by
    rw [field?, found]
    exact reads
  rw [first]
  exact rest

theorem asWord?_toNat (word : UInt32) : asWord? (.integer word.toNat) = some word := by
  have small : word.toNat < UInt32.size := word.toNat_lt
  have range : 0 ≤ (word.toNat : Int) ∧ (word.toNat : Int) < UInt32.size := by omega
  rw [asWord?, if_pos range, Int.toNat_natCast, UInt32.ofNat_toNat]

theorem asList?_map {α β : Type} {read : Json → Option α} {form : β → Json} {value : β → α}
    (reads : ∀ item, read (form item) = some (value item)) (items : List β) :
    asList? read (.array (items.map form)) = some (items.map value) := by
  have composed : read ∘ form = fun item => some (value item) := funext reads
  rw [asList?, List.mapM_map, composed]
  exact List.mapM_pure

theorem asList?_texts (texts : List String) : asList? asText? (.array (texts.map .text)) = some texts := by
  have read : ∀ text, asText? (.text text) = some (id text) := fun _ => rfl
  rw [asList?_map read, List.map_id]

theorem asList?_paths {paths : List Path} {texts : List String} (written : Config.pathTexts? paths = some texts) :
    asList? asPath? (.array (texts.map .text)) = some paths := by
  have read : ∀ text, asPath? (.text text) = some (Path.ofText text) := fun _ => rfl
  rw [asList?_map read, Config.pathTexts?_eq_some written]

theorem asOptional?_text (value : Option String) :
    asOptional? asText? ((value.map Json.text).getD .null) = some value := by
  cases value <;> rfl

end Json

namespace Options

open Json (asText? asPath? asBoolean? asWord? asName? asList? asOptional?
  field?_bind asWord?_toNat asList?_texts asList?_paths asOptional?_text)

def ofJson? (json : Json) : Option Options := do
  let abi ← json.field? (asName? Abi.configured?) "abi"
  let microsoftMode ← json.field? asBoolean? "microsoft_mode"
  let rtti ← json.field? asBoolean? "enable_rtti"
  let language ← json.field? (asName? Language.configured?) "language_version"
  let toolSet ← json.field? asWord? "tool_set_to_use"
  let noBuiltinIncludes ← json.field? asBoolean? "no_builtin_includes"
  let noStandardIncludes ← json.field? asBoolean? "no_standard_includes"
  let target ← json.field? (asOptional? asText?) "target_triple"
  let verbose ← json.field? asBoolean? "verbose"
  let arguments ← json.field? (asList? asText?) "arguments"
  let systemIncludeDirs ← json.field? (asList? asPath?) "system_include_dirs"
  let includeDirs ← json.field? (asList? asPath?) "include_dirs"
  let defines ← json.field? (asList? asText?) "defines"
  let undefines ← json.field? (asList? asText?) "undefines"
  let executable ← json.field? asPath? "current_dir"
  return { abi, microsoftMode, rtti, language, toolSet, noBuiltinIncludes, noStandardIncludes, target,
           verbose, arguments, systemIncludeDirs, includeDirs, defines, undefines, executable }

theorem mapM_pathJson? (paths : List Path) :
    paths.mapM pathJson? = (Config.pathTexts? paths).map (·.map Json.text) := by
  rw [Config.pathTexts?]
  induction paths with
  | nil => rfl
  | cons path paths ih =>
    rw [List.mapM_cons, List.mapM_cons, ih, pathJson?]
    cases path.text? with
    | none => rfl
    | some text => cases paths.mapM Path.text? <;> rfl

theorem json?_eq_some_iff {options : Options} {json : Json} :
    options.json? = some json ↔
      ∃ systemIncludeDirs includeDirs executable,
        Config.pathTexts? options.systemIncludeDirs = some systemIncludeDirs ∧
        Config.pathTexts? options.includeDirs = some includeDirs ∧
        options.executable.text? = some executable ∧
        json = .object
          (options.fields (systemIncludeDirs.map .text) (includeDirs.map .text) (.text executable)) := by
  rw [json?, mapM_pathJson?, mapM_pathJson?, pathJson?]
  cases Config.pathTexts? options.systemIncludeDirs <;>
    cases Config.pathTexts? options.includeDirs <;>
    cases options.executable.text? <;>
    simp [eq_comm]

theorem json?_eq_none_iff {options : Options} :
    options.json? = none ↔
      ∃ path ∈ options.executable :: options.includeDirs ++ options.systemIncludeDirs, path.text? = none := by
  have cases : options.json? = none ↔ options.executable.text? = none ∨
      Config.pathTexts? options.includeDirs = none ∨ Config.pathTexts? options.systemIncludeDirs = none := by
    rw [json?, mapM_pathJson?, mapM_pathJson?, pathJson?]
    cases Config.pathTexts? options.systemIncludeDirs <;>
      cases Config.pathTexts? options.includeDirs <;>
      cases options.executable.text? <;> simp
  rw [cases, Config.pathTexts?_eq_none, Config.pathTexts?_eq_none]
  simp only [List.cons_append, List.mem_cons, List.mem_append, or_and_right, exists_or, exists_eq_left]

def fieldNames : List String :=
  ["abi", "microsoft_mode", "enable_rtti", "language_version", "tool_set_to_use", "no_builtin_includes",
    "no_standard_includes", "target_triple", "verbose", "arguments", "system_include_dirs", "include_dirs",
    "defines", "undefines", "current_dir"]

theorem exists_fields {options : Options} {json : Json} (shown : options.json? = some json) :
    ∃ fields, json = .object fields ∧ fields.map (·.1) = fieldNames := by
  obtain ⟨_, _, _, -, -, -, rfl⟩ := json?_eq_some_iff.mp shown
  exact ⟨_, rfl, rfl⟩

theorem plain_texts (texts : List String) : Json.Plain (.array (texts.map .text)) := by
  apply Json.Plain.array
  intro item member
  obtain ⟨text, -, rfl⟩ := List.mem_map.mp member
  exact .text text

theorem plain_optional (value : Option String) : Json.Plain ((value.map Json.text).getD .null) := by
  cases value with
  | none => exact .null
  | some text => exact .text text

theorem plain_json? {options : Options} {json : Json} (shown : options.json? = some json) : json.Plain := by
  obtain ⟨systemIncludeDirs, includeDirs, executable, -, -, -, rfl⟩ := json?_eq_some_iff.mp shown
  have distinct : fieldNames.Nodup := by decide
  refine .object ?_ distinct
  simp only [fields, List.forall_mem_cons]
  exact ⟨.text _, .boolean _, .boolean _, .text _, .integer _, .boolean _, .boolean _, plain_optional _,
    .boolean _, plain_texts _, plain_texts _, plain_texts _, plain_texts _, plain_texts _, .text _, nofun⟩

theorem ofJson?_json? {options : Options} {json : Json} (shown : options.json? = some json) :
    ofJson? json = some options := by
  obtain ⟨systemTexts, includeTexts, executable, system, includes, place, rfl⟩ := json?_eq_some_iff.mp shown
  have abiRead : asName? Abi.configured? (.text options.abi.documentName) = some options.abi :=
    options.abi.configured?_documentName
  have languageRead : asName? Language.configured? (.text options.language.documentName) = some options.language :=
    options.language.configured?_documentName
  have placeRead : asPath? (.text executable) = some options.executable :=
    congrArg some (Path.ofText_of_text? place)
  -- One step for each field, in the order in which they are read.
  unfold ofJson?
  refine field?_bind rfl abiRead ?_
  refine field?_bind rfl rfl ?_
  refine field?_bind rfl rfl ?_
  refine field?_bind rfl languageRead ?_
  refine field?_bind rfl (asWord?_toNat _) ?_
  refine field?_bind rfl rfl ?_
  refine field?_bind rfl rfl ?_
  refine field?_bind rfl (asOptional?_text _) ?_
  refine field?_bind rfl rfl ?_
  refine field?_bind rfl (asList?_texts _) ?_
  refine field?_bind rfl (asList?_paths system) ?_
  refine field?_bind rfl (asList?_paths includes) ?_
  refine field?_bind rfl (asList?_texts _) ?_
  refine field?_bind rfl (asList?_texts _) ?_
  exact field?_bind rfl placeRead rfl

end Options

end FrontEnd
