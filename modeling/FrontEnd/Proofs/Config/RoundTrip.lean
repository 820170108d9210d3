import FrontEnd.Config.Store
import FrontEnd.Proofs.Toml.Document
import FrontEnd.Proofs.World.Writing

namespace FrontEnd

theorem Language.configured?_documentName (language : Language) : configured? language.documentName = some language := by
  cases language <;> decide

theorem Abi.configured?_documentName (abi : Abi) : configured? abi.documentName = some abi := by
  cases abi <;> decide

namespace Config

open Toml (Setting BareKey Printable)
open Toml.Entries (ofSettings)

section Fields

variable {α β : Type} {name : String} {make : α → Setting} {rest : List (String × Setting)}

theorem get?_setting {read : Toml.Value → Option α} (reads : ∀ value, read (make value).value = some value)
    (fresh : name ∉ rest.map (·.1)) (position : Nat) (value : Option α) :
    (Fields.named (ofSettings (setting name make value ++ rest))).get? position name none (optional? read) =
      some value := by
  cases value with
  | none =>
    have absent : (ofSettings rest).lookup name = none :=
      Toml.Entries.find?_eq_none (by simpa [ofSettings, Function.comp_def] using fresh)
    simp [setting, Fields.get?, absent]
  | some value => simp [setting, Fields.get?, ofSettings, optional?, Document.isAbsent, reads]

theorem fresh_setting {key : String} (apart : key ≠ name) (value : Option α)
    (fresh : key ∉ rest.map (·.1)) : key ∉ (setting name make value ++ rest).map (·.1) := by
  cases value with
  | none => exact fresh
  | some value => exact List.not_mem_cons_of_ne_of_not_mem apart fresh

theorem get?_of_ne {other : String} (apart : other ≠ name) (position : Nat) (value : Option α)
    (missing : β) (read : Toml.Value → Option β) :
    (Fields.named (ofSettings (setting name make value ++ rest))).get? position other missing read =
      (Fields.named (ofSettings rest)).get? position other missing read := by
  cases value with
  | none => rfl
  | some value => simp [setting, Fields.get?, ofSettings, List.lookup_cons, beq_eq_false_iff_ne.mpr apart]

theorem list?_texts (items : List String) :
    list? Document.text? (Setting.texts items).value = some items := by
  show (items.map Toml.Value.text).mapM Document.text? = some items
  induction items with
  | nil => rfl
  | cons item items ih =>
    rw [List.map_cons, List.mapM_cons, ih]
    rfl

theorem keys_setting_sublist (value : Option α) : ((setting name make value).map (·.1)).Sublist [name] := by
  cases value with
  | none => exact List.nil_sublist _
  | some value => exact List.Sublist.refl _

end Fields

theorem pathTexts?_eq_some {paths : List Path} {texts : List String} (read : pathTexts? paths = some texts) :
    texts.map Path.ofText = paths := by
  induction paths generalizing texts with
  | nil =>
    cases read
    rfl
  | cons path paths ih =>
    rw [pathTexts?, List.mapM_cons] at read
    obtain ⟨text, first, read⟩ := Option.bind_eq_some_iff.mp read
    obtain ⟨others, later, read⟩ := Option.bind_eq_some_iff.mp read
    cases read
    rw [List.map_cons, Path.ofText_of_text? first, ih later]

theorem pathTexts?_eq_none {paths : List Path} :
    pathTexts? paths = none ↔ ∃ path ∈ paths, path.text? = none := by
  induction paths with
  | nil => simp [pathTexts?]
  | cons path paths ih =>
    rw [pathTexts?] at ih ⊢
    rw [List.mapM_cons]
    cases first : path.text? with
    | none => simp [first]
    | some text =>
      cases later : paths.mapM Path.text? with
      | none => simpa [first, later] using ih
      | some others => simpa [first, later] using ih

def parserSettings (parser : ParserDefaults) (includeDirs : List String) : List (String × Setting) :=
  setting "language" (fun language => .text language.documentName) parser.language ++
  (setting "rtti" .boolean parser.rtti ++
  (setting "abi" (fun abi => .text abi.documentName) parser.abi ++
  (setting "target" .text parser.target ++
  [("defines", .texts parser.defines), ("include_dirs", .texts includeDirs)])))

def msvcSettings (msvc : MsvcDefaults) : List (String × Setting) :=
  setting "version" .text msvc.version ++ []

theorem sections?_eq {config : Config} {includeDirs : List String}
    (texts : pathTexts? config.parser.includeDirs = some includeDirs) :
    config.sections? =
      some [("parser", parserSettings config.parser includeDirs), ("msvc", msvcSettings config.msvc)] := by
  simp [sections?, texts, parserSettings, msvcSettings]

theorem parserSettings_keys_sublist (parser : ParserDefaults) (includeDirs : List String) :
    ((parserSettings parser includeDirs).map (·.1)).Sublist
      ["language", "rtti", "abi", "target", "defines", "include_dirs"] := by
  simp only [parserSettings, List.map_append]
  exact (keys_setting_sublist _).append ((keys_setting_sublist _).append
    ((keys_setting_sublist _).append ((keys_setting_sublist _).append (List.Sublist.refl _))))

theorem msvcSettings_keys_sublist (msvc : MsvcDefaults) :
    ((msvcSettings msvc).map (·.1)).Sublist ["version"] := by
  simpa [msvcSettings] using keys_setting_sublist msvc.version

theorem printable (parser : ParserDefaults) (msvc : MsvcDefaults) (includeDirs : List String) :
    Printable [("parser", parserSettings parser includeDirs), ("msvc", msvcSettings msvc)] where
  names := by
    simp only [List.mem_cons, List.not_mem_nil, or_false, forall_eq_or_imp, forall_eq]
    decide
  keys := by
    simp only [List.mem_cons, List.not_mem_nil, or_false, forall_eq_or_imp, forall_eq]
    constructor
    · intro pair member
      have bare : ∀ key ∈ ["language", "rtti", "abi", "target", "defines", "include_dirs"], BareKey key := by
        decide
      exact bare pair.1 ((parserSettings_keys_sublist parser includeDirs).subset (List.mem_map_of_mem member))
    · intro pair member
      have bare : ∀ key ∈ ["version"], BareKey key := by decide
      exact bare pair.1 ((msvcSettings_keys_sublist msvc).subset (List.mem_map_of_mem member))
  distinctNames := by
    simp only [List.map_cons, List.map_nil]
    decide
  distinctKeys := by
    simp only [List.mem_cons, List.not_mem_nil, or_false, forall_eq_or_imp, forall_eq]
    constructor
    · exact (parserSettings_keys_sublist parser includeDirs).nodup (by decide)
    · exact (msvcSettings_keys_sublist msvc).nodup (by decide)

theorem parserDefaults?_settings (parser : ParserDefaults) (includeDirs : List String) :
    parserDefaults? (.table .header (ofSettings (parserSettings parser includeDirs)) : Toml.Value) =
      some { parser with includeDirs := includeDirs.map Path.ofText } := by
  have record : record? 6 (.table .header (ofSettings (parserSettings parser includeDirs)) : Toml.Value) =
      some (.named (ofSettings (parserSettings parser includeDirs))) := rfl
  generalize settings : Fields.named (ofSettings (parserSettings parser includeDirs)) = fields at record
  rw [parserSettings] at settings
  -- Each field is found past the settings before it.
  have language : fields.get? 0 "language" none (optional? (choice? Language.configured?)) =
      some parser.language := by
    rw [← settings]
    refine get?_setting Language.configured?_documentName ?_ 0 parser.language
    exact fresh_setting (by decide) _ (fresh_setting (by decide) _ (fresh_setting (by decide) _ (by simp)))
  have rtti : fields.get? 1 "rtti" none (optional? Document.boolean?) = some parser.rtti := by
    rw [← settings, get?_of_ne (by decide)]
    refine get?_setting (fun _ => rfl) ?_ 1 parser.rtti
    exact fresh_setting (by decide) _ (fresh_setting (by decide) _ (by simp))
  have abi : fields.get? 2 "abi" none (optional? (choice? Abi.configured?)) = some parser.abi := by
    rw [← settings, get?_of_ne (by decide), get?_of_ne (by decide)]
    refine get?_setting Abi.configured?_documentName ?_ 2 parser.abi
    exact fresh_setting (by decide) _ (by simp)
  have target : fields.get? 3 "target" none (optional? Document.text?) = some parser.target := by
    rw [← settings, get?_of_ne (by decide), get?_of_ne (by decide), get?_of_ne (by decide)]
    refine get?_setting (fun _ => rfl) ?_ 3 parser.target
    simp
  have defines : fields.get? 4 "defines" [] (list? Document.text?) = some parser.defines := by
    rw [← settings, get?_of_ne (by decide), get?_of_ne (by decide), get?_of_ne (by decide),
      get?_of_ne (by decide)]
    exact list?_texts parser.defines
  have directories : fields.get? 5 "include_dirs" [] (list? Document.text?) = some includeDirs := by
    rw [← settings, get?_of_ne (by decide), get?_of_ne (by decide), get?_of_ne (by decide),
      get?_of_ne (by decide)]
    exact list?_texts includeDirs
  simp only [parserDefaults?, record, Option.bind_eq_bind, Option.bind_some, language, rtti, abi, target,
    defines, directories]
  rfl

theorem msvcDefaults?_settings (msvc : MsvcDefaults) :
    msvcDefaults? (.table .header (ofSettings (msvcSettings msvc)) : Toml.Value) = some msvc := by
  have version : (Fields.named (ofSettings (msvcSettings msvc))).get? 0 "version" none
      (optional? Document.text?) = some msvc.version :=
    get?_setting (fun _ => rfl) (by simp) 0 msvc.version
  have record : record? 1 (.table .header (ofSettings (msvcSettings msvc)) : Toml.Value) =
      some (.named (ofSettings (msvcSettings msvc))) := rfl
  rw [msvcDefaults?, record, Option.bind_eq_bind, Option.bind_some, version]
  rfl

theorem ofDocument?_tables {parserTable msvcTable : Toml.Value} {parser : ParserDefaults}
    {msvc : MsvcDefaults} (parserRead : parserDefaults? parserTable = some parser)
    (msvcRead : msvcDefaults? msvcTable = some msvc) :
    ofDocument? (Toml.Value.table .header [("parser", parserTable), ("msvc", msvcTable)]) =
      some ⟨parser, msvc⟩ := by
  have record : record? 2 (Toml.Value.table .header [("parser", parserTable), ("msvc", msvcTable)]) =
      some (.named [("parser", parserTable), ("msvc", msvcTable)]) := rfl
  have parserField : (Fields.named [("parser", parserTable), ("msvc", msvcTable)]).get? 0 "parser" {}
      parserDefaults? = some parser := parserRead
  have msvcField : (Fields.named [("parser", parserTable), ("msvc", msvcTable)]).get? 1 "msvc" {}
      msvcDefaults? = some msvc := msvcRead
  simp only [ofDocument?, record, Option.bind_eq_bind, Option.bind_some, parserField, msvcField,
    Option.pure_def]

theorem parse?_render {config : Config} {text : String} (rendered : config.render? = some text) :
    parse? text = some config := by
  obtain ⟨sections, found, rfl⟩ := Option.map_eq_some_iff.mp rendered
  obtain ⟨includeDirs, texts, -⟩ := Option.map_eq_some_iff.mp found
  rw [sections?_eq texts, Option.some.injEq] at found
  subst found
  have document := Toml.parse?_renderSections (printable config.parser config.msvc includeDirs)
  have parser := parserDefaults?_settings config.parser includeDirs
  rw [pathTexts?_eq_some texts] at parser
  have msvc := msvcDefaults?_settings config.msvc
  rw [parse?, document, Option.bind_some]
  exact ofDocument?_tables parser msvc

theorem render?_eq_none {config : Config} :
    config.render? = none ↔ ∃ directory ∈ config.parser.includeDirs, directory.text? = none := by
  rw [← pathTexts?_eq_none, render?, Option.map_eq_none_iff, sections?, Option.map_eq_none_iff]

theorem load_writeText {config : Config} {world left : World} {path : Path} {text : String}
    (rendered : config.render? = some text) (wrote : world.writeText path text = (.ok (), left)) :
    load left path = .ok config := by
  rw [load, World.readText_writeText wrote]
  simp only
  rw [parse?_render rendered]

/-- Saving a configuration and loading it gives it back, whatever its texts hold. Only a directory
that is not text keeps a configuration from being written out, and then nothing changes. -/
theorem save_round_trip (config : Config) (world : World) (path : Path) :
    ((∀ directory ∈ config.parser.includeDirs, directory.text?.isSome) →
        (∃ text, config.render? = some text ∧ parse? text = some config) ∧
          ∀ left, config.save world path = (.ok (), left) → load left path = .ok config) ∧
      ((∃ directory ∈ config.parser.includeDirs, directory.text? = none) →
        config.save world path = (.error .unprintable, world)) := by
  constructor
  · intro texts
    have written : config.render? ≠ none := by
      rw [Ne, render?_eq_none]
      rintro ⟨directory, member, missing⟩
      have present := texts directory member
      rw [missing] at present
      cases present
    obtain ⟨text, rendered⟩ := Option.ne_none_iff_exists'.mp written
    refine ⟨⟨text, rendered, parse?_render rendered⟩, ?_⟩
    intro left saved
    rw [save, rendered] at saved
    simp only at saved
    split at saved
    · rename_i wrote
      cases saved
      exact load_writeText rendered wrote
    · cases saved
  · intro missing
    rw [save, render?_eq_none.mpr missing]

/-- Texts that every kind of quoting has trouble with, and a directory that is no text. -/
theorem save_round_trip_of_escapes :
    let world : World := ⟨.empty, [], [], ⟨[]⟩, [], []⟩
    let path := Path.ofText "/config.toml"
    let config : Config := {
      parser := {
        rtti := some false
        target := some "\"\"\"\n'''\\\x07"
        defines := ["", "\r\n", "C:\\new"]
        includeDirs := [.ofText "/usr/\"include\""] } }
    (∃ left, config.save world path = (.ok (), left) ∧ load left path = .ok config) ∧
      (config.addIncludeDir ⟨[0xff]⟩).save world path = (.error .unprintable, world) := by
  intro world path config
  obtain ⟨⟨text, rendered, -⟩, loads⟩ := (save_round_trip config world path).1 (by decide)
  have unprintable := (save_round_trip (config.addIncludeDir ⟨[0xff]⟩) world path).2
    ⟨⟨[0xff]⟩, by decide, by decide⟩
  obtain ⟨left, wrote⟩ : ∃ left, world.writeText path text = (.ok (), left) := ⟨_, rfl⟩
  have saved : config.save world path = (.ok (), left) := by
    rw [save, rendered]
    simp only [wrote]
  exact ⟨⟨left, saved, loads left saved⟩, unprintable⟩

end Config

end FrontEnd
