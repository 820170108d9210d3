import FrontEnd.Config

namespace FrontEnd.Config

inductive Field where
  | language
  | rtti
  | abi
  | target
  | defines
  | includeDirs
  | version
deriving DecidableEq, Repr

def Field.Value : Field → Type
  | language => Language
  | rtti => Bool
  | abi => Abi
  | target => String
  | defines => List String
  | includeDirs => List Path
  | version => String

def filled {α : Type} (items : List α) : Option (List α) :=
  if items.isEmpty then none else some items

def get? (config : Config) : (field : Field) → Option field.Value
  | .language => config.parser.language
  | .rtti => config.parser.rtti
  | .abi => config.parser.abi
  | .target => config.parser.target
  | .defines => filled config.parser.defines
  | .includeDirs => filled config.parser.includeDirs
  | .version => config.msvc.version

theorem later_eq_or {α : Type} (earlier override : Option α) :
    later earlier override = override.or earlier := by
  cases override <;> rfl

theorem filled_laterList {α : Type} (earlier override : List α) :
    filled (laterList earlier override) = (filled override).or (filled earlier) := by
  cases override <;> rfl

theorem filled_inj {α : Type} {first second : List α} (same : filled first = filled second) :
    first = second := by
  cases first <;> cases second <;> simp_all [filled]

theorem ext_get? {first second : Config} (same : ∀ field, first.get? field = second.get? field) :
    first = second := by
  obtain ⟨⟨language, rtti, abi, target, defines, includeDirs⟩, ⟨version⟩⟩ := first
  obtain rfl : language = second.parser.language := same .language
  obtain rfl : rtti = second.parser.rtti := same .rtti
  obtain rfl : abi = second.parser.abi := same .abi
  obtain rfl : target = second.parser.target := same .target
  obtain rfl : defines = second.parser.defines := filled_inj (same .defines)
  obtain rfl : includeDirs = second.parser.includeDirs := filled_inj (same .includeDirs)
  obtain rfl : version = second.msvc.version := same .version
  rfl

@[simp] theorem get?_empty (field : Field) : empty.get? field = none := by
  cases field <;> rfl

@[simp] theorem get?_merge (base override : Config) (field : Field) :
    (base.merge override).get? field = (override.get? field).or (base.get? field) := by
  cases field with
  | defines => exact filled_laterList base.parser.defines override.parser.defines
  | includeDirs => exact filled_laterList base.parser.includeDirs override.parser.includeDirs
  | language | rtti | abi | target | version => exact later_eq_or _ _

@[simp] theorem merge_empty (config : Config) : config.merge empty = config :=
  ext_get? fun field => by simp

@[simp] theorem empty_merge (config : Config) : empty.merge config = config :=
  ext_get? fun field => by simp

theorem merge_self (config : Config) : config.merge config = config :=
  ext_get? fun field => by simp

theorem merge_assoc (first second third : Config) :
    (first.merge second).merge third = first.merge (second.merge third) :=
  ext_get? fun field => by simp [Option.or_assoc]

theorem merge_again (base override : Config) :
    (base.merge override).merge base = override.merge base := by
  apply ext_get?
  intro field
  simp only [get?_merge]
  cases base.get? field with
  | none => simp
  | some value => rfl

end FrontEnd.Config
