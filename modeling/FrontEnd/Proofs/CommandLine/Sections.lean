import FrontEnd.Options.CommandLine
import FrontEnd.Proofs.Msvc.Compiler
import FrontEnd.Text.Reader

namespace FrontEnd.CommandLine

inductive Section where
  | target
  | compatibility
  | noBuiltinIncludes
  | noStandardIncludes
  | define
  | undefine
  | includeDir
  | systemIncludeDir
  | verbose
deriving DecidableEq

namespace Section

def all : List Section :=
  [target, compatibility, noBuiltinIncludes, noStandardIncludes, define, undefine, includeDir,
    systemIncludeDir, verbose]

theorem mem_all (kind : Section) : kind ∈ all := by
  cases kind <;> decide

theorem nodup_all : all.Nodup := by decide

def mark : Section → String
  | target => "-target"
  | compatibility => "-fms-compatibility-version="
  | noBuiltinIncludes => "-nobuiltininc"
  | noStandardIncludes => "-nostdinc"
  | define => "-D"
  | undefine => "-U"
  | includeDir => "-I"
  | systemIncludeDir => "-isystem"
  | verbose => "-v"

def paired : Section → Bool
  | target | systemIncludeDir => true
  | _ => false

def write (kind : Section) (values : List String) : List String :=
  if kind.paired then values.flatMap fun value => [kind.mark, value]
  else values.map (kind.mark ++ ·)

def begins (kind : Section) (word : String) : Bool :=
  kind.mark.toList.isPrefixOf word.toList

def strip (kind : Section) (word : String) : String :=
  String.ofList (word.toList.drop kind.mark.toList.length)

def readPairs (kind : Section) : List String → List String × List String
  | word :: value :: rest =>
    if kind.begins word then (value :: (kind.readPairs rest).1, (kind.readPairs rest).2)
    else ([], word :: value :: rest)
  | words => ([], words)

def read (kind : Section) (words : List String) : List String × List String :=
  if kind.paired then kind.readPairs words
  else ((words.takeWhile kind.begins).map kind.strip, words.dropWhile kind.begins)

def readAll : List Section → List String → List (List String)
  | [], _ => []
  | kind :: kinds, words => (kind.read words).1 :: readAll kinds (kind.read words).2

theorem mark_prefix_free (kind other : Section) (begun : kind.mark.toList <+: other.mark.toList) :
    kind = other := by
  revert begun
  cases kind <;> cases other <;> decide

theorem begins_unique {kind other : Section} {word : String} (begun : kind.begins word = true)
    (otherwise : other.begins word = true) : kind = other := by
  rw [begins, List.isPrefixOf_iff_prefix] at begun otherwise
  rcases List.prefix_or_prefix_of_prefix begun otherwise with shorter | longer
  · exact mark_prefix_free kind other shorter
  · exact (mark_prefix_free other kind longer).symm

theorem begins_mark_append (kind : Section) (value : String) : kind.begins (kind.mark ++ value) = true := by
  rw [begins, List.isPrefixOf_iff_prefix, String.toList_append]
  exact List.prefix_append _ _

theorem begins_mark (kind : Section) : kind.begins kind.mark = true :=
  List.isPrefixOf_iff_prefix.mpr List.prefix_rfl

theorem strip_mark_append (kind : Section) (value : String) : kind.strip (kind.mark ++ value) = value := by
  rw [strip, String.toList_append, List.drop_left, String.ofList_toList]

theorem write_append (kind : Section) (first second : List String) :
    kind.write (first ++ second) = kind.write first ++ kind.write second := by
  cases apart : kind.paired <;> simp [write, apart]

theorem begins_of_head_write {kind : Section} {values : List String} {word : String}
    (first : word ∈ (kind.write values).head?) : kind.begins word = true := by
  cases values with
  | nil => simp [write] at first
  | cons value values =>
    unfold write at first
    split at first
    · simp only [List.flatMap_cons, List.cons_append, List.head?_cons, Option.mem_some_iff] at first
      rw [← first]
      exact kind.begins_mark
    · simp only [List.map_cons, List.head?_cons, Option.mem_some_iff] at first
      rw [← first]
      exact kind.begins_mark_append value

theorem not_begins_of_head_flatMap {kind : Section} {kinds : List Section} (other : kind ∉ kinds)
    (values : Section → List String) (word : String)
    (first : word ∈ (kinds.flatMap fun kind => kind.write (values kind)).head?) :
    kind.begins word = false := by
  induction kinds with
  | nil => simp at first
  | cons next kinds ih =>
    rw [List.flatMap_cons, List.head?_append] at first
    cases written : (next.write (values next)).head? with
    | none =>
      rw [written, Option.none_or] at first
      exact ih (fun later => other (List.mem_cons_of_mem _ later)) first
    | some head =>
      rw [written, Option.some_or] at first
      have begun : next.begins word = true := begins_of_head_write (written ▸ first)
      cases mine : kind.begins word with
      | false => rfl
      | true => exact absurd (begins_unique mine begun ▸ List.mem_cons_self) other

theorem readPairs_append {kind : Section} (values : List String) {rest : List String}
    (boundary : ∀ word ∈ rest.head?, kind.begins word = false) :
    kind.readPairs (values.flatMap (fun value => [kind.mark, value]) ++ rest) = (values, rest) := by
  induction values with
  | nil =>
    match rest with
    | [] => rfl
    | [word] => rfl
    | word :: value :: rest =>
      have stop := boundary word rfl
      simp [readPairs, stop]
  | cons value values ih =>
    simp only [List.flatMap_cons, List.cons_append, List.nil_append, readPairs, begins_mark, if_true]
    rw [ih]

theorem read_write_append {kind : Section} (values : List String) {rest : List String}
    (boundary : ∀ word ∈ rest.head?, kind.begins word = false) :
    kind.read (kind.write values ++ rest) = (values, rest) := by
  cases apart : kind.paired with
  | true =>
    simp only [read, write, apart, if_true]
    exact readPairs_append values boundary
  | false =>
    have begun : ∀ word ∈ values.map (kind.mark ++ ·), kind.begins word = true := by
      intro word member
      obtain ⟨value, _, rfl⟩ := List.mem_map.mp member
      exact kind.begins_mark_append value
    have stripped : (values.map (kind.mark ++ ·)).map kind.strip = values := by
      rw [List.map_map]
      exact (List.map_congr_left fun value _ => kind.strip_mark_append value).trans values.map_id
    simp only [read, write, apart, Bool.false_eq_true, if_false]
    rw [Text.takeWhile_run begun boundary, Text.dropWhile_run begun boundary, stripped]

/-- Sections of distinct kinds are read back as they were written. -/
theorem readAll_write {kinds : List Section} (distinct : kinds.Nodup) (values : Section → List String) :
    readAll kinds (kinds.flatMap fun kind => kind.write (values kind)) = kinds.map values := by
  induction kinds with
  | nil => rfl
  | cons kind kinds ih =>
    obtain ⟨other, distinct⟩ := List.nodup_cons.mp distinct
    have boundary := not_begins_of_head_flatMap other values
    simp only [readAll, List.flatMap_cons, List.map_cons]
    rw [read_write_append (values kind) boundary, ih distinct]

def options (kind : Section) (values : List String) : List String :=
  if kind.paired then values.map fun _ => kind.mark else kind.write values

theorem begins_of_mem_options {kind : Section} {values : List String} {word : String}
    (member : word ∈ kind.options values) : kind.begins word = true := by
  cases apart : kind.paired with
  | true =>
    simp only [options, apart, if_true, List.mem_map] at member
    obtain ⟨_, _, rfl⟩ := member
    exact kind.begins_mark
  | false =>
    simp only [options, write, apart, Bool.false_eq_true, if_false, List.mem_map] at member
    obtain ⟨value, _, rfl⟩ := member
    exact kind.begins_mark_append value

theorem filter_begins_options (kind other : Section) (values : List String) :
    (other.options values).filter kind.begins = if other = kind then other.options values else [] := by
  split
  · rename_i same
    rw [List.filter_eq_self]
    intro word member
    rw [← same]
    exact begins_of_mem_options member
  · rename_i different
    rw [List.filter_eq_nil_iff]
    intro word member begun
    exact different (begins_unique (begins_of_mem_options member) begun)

end Section

/-- The words of a command line after its arguments that are options: those that are not the value
of the option before them. -/
def optionWords : List String → List String
  | word :: value :: rest =>
    if word = Section.target.mark ∨ word = Section.systemIncludeDir.mark then word :: optionWords rest
    else word :: optionWords (value :: rest)
  | words => words

theorem optionWords_write_append (kind : Section) (values rest : List String) :
    optionWords (kind.write values ++ rest) = kind.options values ++ optionWords rest := by
  induction values with
  | nil => simp [Section.write, Section.options]
  | cons value values ih =>
    cases apart : kind.paired with
    | true =>
      have mark : kind.mark = Section.target.mark ∨ kind.mark = Section.systemIncludeDir.mark := by
        revert apart
        cases kind <;> decide
      simp only [Section.write, Section.options, apart, if_true, List.flatMap_cons, List.map_cons,
        List.cons_append, List.nil_append, optionWords, mark] at ih ⊢
      rw [ih]
    | false =>
      -- A word with its value attached is no option of the kinds whose value stands apart.
      have other (paired : Section) (separate : paired.paired = true) : kind.mark ++ value ≠ paired.mark := by
        intro same
        have begun := kind.begins_mark_append value
        rw [same] at begun
        rw [Section.begins_unique begun paired.begins_mark, separate] at apart
        cases apart
      have not_target := other .target rfl
      have not_directory := other .systemIncludeDir rfl
      simp only [Section.write, Section.options, apart, Bool.false_eq_true, if_false, List.map_cons,
        List.cons_append] at ih ⊢
      rw [← ih]
      cases values.map (kind.mark ++ ·) ++ rest with
      | nil => rfl
      | cons next later => simp [optionWords, not_target, not_directory]

theorem filter_begins_optionWords (kind : Section) (kinds : List Section)
    (values : Section → List String) :
    (optionWords (kinds.flatMap fun kind => kind.write (values kind))).filter kind.begins =
      (kinds.filter (· = kind)).flatMap fun kind => kind.options (values kind) := by
  induction kinds with
  | nil => rfl
  | cons other kinds ih =>
    rw [List.flatMap_cons, optionWords_write_append, List.filter_append, ih,
      Section.filter_begins_options, List.filter_cons]
    by_cases same : other = kind <;> simp [same]

end FrontEnd.CommandLine
