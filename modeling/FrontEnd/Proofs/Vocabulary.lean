import FrontEnd.Config.Document
import FrontEnd.Options.Setup

namespace FrontEnd

open Config (choice?)

section Names

variable {α ε : Type} {all : List α} {parse : String → Except ε α} {configured? : String → Option α}
  {name documentName : α → String} {aliases : α → List String} {given : ε → String} {text : String} {value : α}

/-- The command line reads a text as documents of either format do and gives back one that it refuses, and what
it shows a thing as is what documents call it and what both read as that thing. -/
structure NamesAgree (parse : String → Except ε α) (configured? : String → Option α)
    (name documentName : α → String) (given : ε → String) : Prop where
  json : ∀ text value, parse text = .ok value ↔ choice? configured? (Json.text text) = some value
  toml : ∀ text value, parse text = .ok value ↔ choice? configured? (Toml.Value.text text) = some value
  refused : ∀ text unknown, parse text = .error unknown → given unknown = text
  written : ∀ value, documentName value = name value
  readBack : ∀ value, parse (name value) = .ok value

theorem find?_named_iff (complete : ∀ value, value ∈ all)
    (reads : ∀ text value, parse text = .ok value ↔ text ∈ documentName value :: aliases value) :
    all.find? (fun value => text == documentName value || (aliases value).contains text) = some value ↔
      parse text = .ok value := by
  have passes (value : α) :
      (text == documentName value || (aliases value).contains text) = true ↔ parse text = .ok value := by
    simp [reads]
  constructor
  · intro found
    have passed := List.find?_some found
    exact (passes value).mp passed
  · intro read
    cases found : all.find? (fun value => text == documentName value || (aliases value).contains text) with
    | none => exact absurd ((passes value).mpr read) (List.find?_eq_none.mp found value (complete value))
    | some other =>
      -- A text that is read at all is read as one thing only, so no two things share a name.
      have passed := List.find?_some found
      have same := (passes other).mp passed
      rw [read] at same
      rw [Except.ok.inj same]

theorem NamesAgree.of_tables (complete : ∀ value, value ∈ all)
    (reads : ∀ text value, parse text = .ok value ↔ text ∈ documentName value :: aliases value)
    (refused : ∀ text unknown, parse text = .error unknown → given unknown = text)
    (written : ∀ value, documentName value = name value) :
    NamesAgree parse
      (fun text => all.find? fun value => text == documentName value || (aliases value).contains text)
      name documentName given where
  json text value := (find?_named_iff complete reads).symm
  toml text value := (find?_named_iff complete reads).symm
  refused := refused
  written := written
  readBack value := by
    rw [reads, written]
    exact List.mem_cons_self

end Names

theorem Language.parse_eq_ok_iff (text : String) (language : Language) :
    parse text = .ok language ↔ text ∈ language.documentName :: language.aliases := by
  unfold parse
  split
  all_goals cases language <;> simp_all [documentName, aliases]

theorem Language.given_of_parse (text : String) (unknown : Unknown) (refused : parse text = .error unknown) :
    unknown.given = text := by
  unfold parse at refused
  split at refused
  all_goals cases refused
  rfl

theorem Language.namesAgree : NamesAgree parse configured? name documentName Unknown.given := by
  apply NamesAgree.of_tables
  · intro language
    cases language <;> decide
  · exact parse_eq_ok_iff
  · exact given_of_parse
  · intro language
    cases language <;> rfl

theorem Abi.parse_eq_ok_iff (text : String) (abi : Abi) :
    parse text = .ok abi ↔ text ∈ abi.documentName :: abi.aliases := by
  unfold parse
  split
  all_goals cases abi <;> simp_all [documentName, aliases]

theorem Abi.given_of_parse (text : String) (unknown : Unknown) (refused : parse text = .error unknown) :
    unknown.given = text := by
  unfold parse at refused
  split at refused
  all_goals cases refused
  rfl

theorem Abi.namesAgree : NamesAgree parse configured? name documentName Unknown.given := by
  apply NamesAgree.of_tables
  · intro abi
    cases abi <;> decide
  · exact parse_eq_ok_iff
  · exact given_of_parse
  · intro abi
    cases abi <;> rfl

namespace Msvc.Generation

theorem configured?_eq_some_iff {text : String} {generation : Generation} :
    configured? text = some generation ↔ text = generation.documentName := by
  constructor
  · intro found
    have named := List.find?_some found
    exact beq_iff_eq.mp named
  · intro named
    subst named
    cases generation <;> decide

theorem ofToken_eq (text : String) : ofToken (some text) = (configured? text).getD .latest := by
  cases read : configured? text with
  | some generation =>
    rw [configured?_eq_some_iff.mp read]
    cases generation <;> rfl
  | none =>
    have unnamed (generation : Generation) : text ≠ generation.documentName := by
      intro named
      rw [configured?_eq_some_iff.mpr named] at read
      cases read
    have not2012 := unnamed vs2012
    have not2013 := unnamed vs2013
    have not2015 := unnamed vs2015
    have not2017 := unnamed vs2017
    simp only [documentName] at not2012 not2013 not2015 not2017
    simp [ofToken, not2012, not2013, not2015, not2017]

theorem ofToken_of_unlisted {choice : Option String}
    (unlisted : ∀ token ∈ ["vs2012", "vs2013", "vs2015", "vs2017"], choice ≠ some token) :
    ofToken choice = .latest := by
  unfold ofToken
  split
  all_goals first | rfl | exact absurd rfl (unlisted _ (by decide))

end Msvc.Generation

/-- The command line and documents agree on the names of languages and of ABIs. A token chooses the generation
that documents know by it, and the latest one if they know none, so all tokens but the four of fixed
generations set up the same options. -/
theorem vocabularies_agree :
    NamesAgree Language.parse Language.configured? Language.name Language.documentName Language.Unknown.given ∧
    NamesAgree Abi.parse Abi.configured? Abi.name Abi.documentName Abi.Unknown.given ∧
    (∀ text, Msvc.Generation.ofToken (some text) =
        (choice? Msvc.Generation.configured? (Json.text text)).getD .latest ∧
      Msvc.Generation.ofToken (some text) =
        (choice? Msvc.Generation.configured? (Toml.Value.text text)).getD .latest) ∧
    Msvc.Generation.ofToken none = .latest ∧
    (∀ generation : Msvc.Generation, generation.documentName = generation.token ∧
      Msvc.Generation.ofToken (some generation.token) = generation ∧
      Msvc.Generation.configured? generation.token = some generation) ∧
    ∀ (m : Type → Type) [Monad m] (options : Options) (resolver : MsvcResolver m) (first second : Option String),
      (∀ token ∈ ["vs2012", "vs2013", "vs2015", "vs2017"], first ≠ some token ∧ second ≠ some token) →
        options.setupMsvcChoice first resolver = options.setupMsvcChoice second resolver := by
  refine ⟨Language.namesAgree, Abi.namesAgree, ?_, rfl, ?_, ?_⟩
  · intro text
    exact ⟨Msvc.Generation.ofToken_eq text, Msvc.Generation.ofToken_eq text⟩
  · intro generation
    have named : generation.documentName = generation.token := by cases generation <;> rfl
    refine ⟨named, ?_, Msvc.Generation.configured?_eq_some_iff.mpr named.symm⟩
    rw [Msvc.Generation.ofToken_eq, Msvc.Generation.configured?_eq_some_iff.mpr named.symm]
    rfl
  · intro m _ options resolver first second unlisted
    rw [Options.setupMsvcChoice, Options.setupMsvcChoice,
      Msvc.Generation.ofToken_of_unlisted fun token member => (unlisted token member).1,
      Msvc.Generation.ofToken_of_unlisted fun token member => (unlisted token member).2]

/-- An alias, a name that no language has, and tokens that differ from a known one in case or are missing. -/
theorem vocabularies_agree_on_aliases :
    Language.parse "gnuc" = .ok .gnuC ∧ choice? Language.configured? (Toml.Value.text "gnuc") = some .gnuC ∧
      Language.parse "c++17" = .error ⟨"c++17"⟩ ∧
      choice? Abi.configured? (Json.text "msvc") = some .microsoft ∧
      ∀ (options : Options) (resolver : MsvcResolver Id),
        options.setupMsvcChoice (some "VS2015") resolver = options.setupMsvcChoice none resolver := by
  obtain ⟨language, abi, -, -, -, tokens⟩ := vocabularies_agree
  have known : Language.parse "gnuc" = .ok .gnuC := rfl
  have other : Abi.parse "msvc" = .ok .microsoft := rfl
  refine ⟨known, (language.toml _ _).mp known, rfl, (abi.json _ _).mp other, ?_⟩
  intro options resolver
  exact tokens Id options resolver (some "VS2015") none (by decide)

end FrontEnd
