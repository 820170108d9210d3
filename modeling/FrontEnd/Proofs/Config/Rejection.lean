import FrontEnd.Config.Toml
import FrontEnd.Proofs.Config.Fields

namespace FrontEnd.Config

inductive Part where
  | parser
  | msvc
deriving DecidableEq, Repr

namespace Part

def name : Part → String
  | parser => "parser"
  | msvc => "msvc"

def position : Part → Nat
  | parser => 0
  | msvc => 1

def size : Part → Nat
  | parser => 6
  | msvc => 1

end Part

namespace Field

def part : Field → Part
  | version => .msvc
  | _ => .parser

def name : Field → String
  | language => "language"
  | rtti => "rtti"
  | abi => "abi"
  | target => "target"
  | defines => "defines"
  | includeDirs => "include_dirs"
  | version => "version"

def position : Field → Nat
  | language => 0
  | rtti => 1
  | abi => 2
  | target => 3
  | defines => 4
  | includeDirs => 5
  | version => 0

end Field

variable {α : Type} [Document α]

def Field.takes (value : α) : Field → Bool
  | language => (optional? (choice? Language.configured?) value).isSome
  | rtti => (optional? Document.boolean? value).isSome
  | abi => (optional? (choice? Abi.configured?) value).isSome
  | target | version => (optional? Document.text? value).isSome
  | defines | includeDirs => (list? Document.text? value).isSome

omit [Document α] in
def Fields.find? (fields : Fields α) (position : Nat) (name : String) : Option α :=
  match fields with
  | .named fields => fields.lookup name
  | .positional items => items[position]?

def partValue? (document : α) (part : Part) : Option α :=
  (record? 2 document).bind fun fields => fields.find? part.position part.name

def fieldValue? (document : α) (field : Field) : Option α :=
  (partValue? document field.part).bind fun value =>
    (record? field.part.size value).bind fun fields => fields.find? field.position field.name

/-- A document with something in it that no configuration has. -/
inductive Spoiled (document : α) : Prop
  | document (other : record? 2 document = none)
  | part {part : Part} {value : α} (given : partValue? document part = some value)
      (other : record? part.size value = none)
  | field {field : Field} {value : α} (given : fieldValue? document field = some value)
      (refused : field.takes value = false)

namespace Fields

variable {β : Type} {fields : Fields α} {position : Nat} {name : String} {missing : β}
  {read : α → Option β}

omit [Document α] in
theorem get?_eq : fields.get? position name missing read =
    match fields.find? position name with
    | some value => read value
    | none => some missing := by
  cases fields <;> rfl

omit [Document α] in
theorem isSome_get?_iff : (fields.get? position name missing read).isSome = true ↔
    ∀ value, fields.find? position name = some value → (read value).isSome = true := by
  rw [get?_eq]
  cases fields.find? position name <;> simp

omit [Document α] in
theorem isSome_of_get? {result : β} (got : fields.get? position name missing read = some result) :
    ∀ value, fields.find? position name = some value → (read value).isSome = true :=
  isSome_get?_iff.mp (Option.isSome_of_eq_some got)

omit [Document α] in
theorem exists_get? (missing : β)
    (taken : ∀ value, fields.find? position name = some value → (read value).isSome = true) :
    ∃ result, fields.get? position name missing read = some result :=
  Option.isSome_iff_exists.mp (isSome_get?_iff.mpr taken)

def Suits (fields : Fields α) (field : Field) : Prop :=
  ∀ value, fields.find? field.position field.name = some value → field.takes value = true

end Fields

theorem isSome_parserDefaults?_iff (value : α) :
    (parserDefaults? value).isSome = true ↔
      ∃ fields, record? 6 value = some fields ∧ ∀ field, field.part = .parser → fields.Suits field := by
  constructor
  · intro read
    obtain ⟨parser, read⟩ := Option.isSome_iff_exists.mp read
    obtain ⟨fields, record, read⟩ := Option.bind_eq_some_iff.mp read
    obtain ⟨_, language, read⟩ := Option.bind_eq_some_iff.mp read
    obtain ⟨_, rtti, read⟩ := Option.bind_eq_some_iff.mp read
    obtain ⟨_, abi, read⟩ := Option.bind_eq_some_iff.mp read
    obtain ⟨_, target, read⟩ := Option.bind_eq_some_iff.mp read
    obtain ⟨_, defines, read⟩ := Option.bind_eq_some_iff.mp read
    obtain ⟨_, includeDirs, -⟩ := Option.bind_eq_some_iff.mp read
    refine ⟨fields, record, ?_⟩
    intro field inside
    cases field with
    | language => exact Fields.isSome_of_get? language
    | rtti => exact Fields.isSome_of_get? rtti
    | abi => exact Fields.isSome_of_get? abi
    | target => exact Fields.isSome_of_get? target
    | defines => exact Fields.isSome_of_get? defines
    | includeDirs => exact Fields.isSome_of_get? includeDirs
    | version => cases inside
  · rintro ⟨fields, record, suits⟩
    obtain ⟨_, language⟩ := Fields.exists_get? none (suits .language rfl)
    obtain ⟨_, rtti⟩ := Fields.exists_get? none (suits .rtti rfl)
    obtain ⟨_, abi⟩ := Fields.exists_get? none (suits .abi rfl)
    obtain ⟨_, target⟩ := Fields.exists_get? none (suits .target rfl)
    obtain ⟨_, defines⟩ := Fields.exists_get? [] (suits .defines rfl)
    obtain ⟨_, includeDirs⟩ := Fields.exists_get? [] (suits .includeDirs rfl)
    simp only [Field.position, Field.name] at language rtti abi target defines includeDirs
    simp only [parserDefaults?, record, Option.bind_eq_bind, Option.bind_some, language, rtti, abi,
      target, defines, includeDirs]
    rfl

theorem isSome_msvcDefaults?_iff (value : α) :
    (msvcDefaults? value).isSome = true ↔
      ∃ fields, record? 1 value = some fields ∧ ∀ field, field.part = .msvc → fields.Suits field := by
  constructor
  · intro read
    obtain ⟨msvc, read⟩ := Option.isSome_iff_exists.mp read
    obtain ⟨fields, record, read⟩ := Option.bind_eq_some_iff.mp read
    obtain ⟨_, version, -⟩ := Option.bind_eq_some_iff.mp read
    refine ⟨fields, record, ?_⟩
    intro field inside
    cases field with
    | version => exact Fields.isSome_of_get? version
    | language | rtti | abi | target | defines | includeDirs => cases inside
  · rintro ⟨fields, record, suits⟩
    obtain ⟨_, version⟩ := Fields.exists_get? none (suits .version rfl)
    simp only [Field.position, Field.name] at version
    simp only [msvcDefaults?, record, Option.bind_eq_bind, Option.bind_some, version]
    rfl

def Part.takes (value : α) : Part → Bool
  | parser => (parserDefaults? value).isSome
  | msvc => (msvcDefaults? value).isSome

theorem Part.takes_iff (part : Part) (value : α) :
    part.takes value = true ↔ ∃ fields, record? part.size value = some fields ∧
      ∀ field, field.part = part → fields.Suits field := by
  cases part with
  | parser => exact isSome_parserDefaults?_iff value
  | msvc => exact isSome_msvcDefaults?_iff value

theorem isSome_ofDocument?_iff (document : α) :
    (ofDocument? document).isSome = true ↔
      ∃ fields, record? 2 document = some fields ∧
        ∀ part : Part, ∀ value, fields.find? part.position part.name = some value →
          part.takes value = true := by
  constructor
  · intro read
    obtain ⟨config, read⟩ := Option.isSome_iff_exists.mp read
    obtain ⟨fields, record, read⟩ := Option.bind_eq_some_iff.mp read
    obtain ⟨_, parser, read⟩ := Option.bind_eq_some_iff.mp read
    obtain ⟨_, msvc, -⟩ := Option.bind_eq_some_iff.mp read
    refine ⟨fields, record, ?_⟩
    intro part
    cases part with
    | parser => exact Fields.isSome_of_get? parser
    | msvc => exact Fields.isSome_of_get? msvc
  · rintro ⟨fields, record, taken⟩
    obtain ⟨_, parser⟩ := Fields.exists_get? {} (taken .parser)
    obtain ⟨_, msvc⟩ := Fields.exists_get? {} (taken .msvc)
    simp only [Part.position, Part.name] at parser msvc
    simp only [ofDocument?, record, Option.bind_eq_bind, Option.bind_some, parser, msvc]
    rfl

/-- A document is refused exactly if something in it is spoiled, whatever else it holds. -/
theorem ofDocument?_eq_none_iff (document : α) : ofDocument? document = none ↔ Spoiled document := by
  rw [← Option.not_isSome_iff_eq_none, isSome_ofDocument?_iff]
  constructor
  · intro refused
    apply Classical.byContradiction
    intro sound
    apply refused
    cases record : record? 2 document with
    | none => exact absurd (.document record) sound
    | some fields =>
      refine ⟨fields, rfl, ?_⟩
      intro part value given
      have inPart : partValue? document part = some value := by
        rw [partValue?, record, Option.bind_some, given]
      rw [Part.takes_iff]
      cases inner : record? part.size value with
      | none => exact absurd (.part inPart inner) sound
      | some entries =>
        refine ⟨entries, rfl, ?_⟩
        rintro field rfl item stands
        have inField : fieldValue? document field = some item := by
          rw [fieldValue?, inPart, Option.bind_some, inner, Option.bind_some, stands]
        cases taken : field.takes item with
        | true => rfl
        | false => exact absurd (.field inField taken) sound
  · rintro spoiled ⟨fields, record, taken⟩
    have parts (part : Part) : partValue? document part = fields.find? part.position part.name := by
      rw [partValue?, record, Option.bind_some]
    cases spoiled with
    | document other =>
      rw [record] at other
      cases other
    | @part part value given other =>
      rw [parts] at given
      obtain ⟨entries, inner, -⟩ := (part.takes_iff value).mp (taken part value given)
      rw [inner] at other
      cases other
    | @field field item given refused =>
      obtain ⟨value, inPart, rest⟩ := Option.bind_eq_some_iff.mp given
      obtain ⟨entries, inner, stands⟩ := Option.bind_eq_some_iff.mp rest
      rw [parts] at inPart
      obtain ⟨others, same, suits⟩ := (field.part.takes_iff value).mp (taken field.part value inPart)
      rw [inner, Option.some.injEq] at same
      subst same
      rw [suits field rfl item stands] at refused
      cases refused

end FrontEnd.Config
