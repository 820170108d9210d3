import FrontEnd.Msvc.Headers
import FrontEnd.Proofs.Text.Lines
import FrontEnd.Proofs.Text.Trimming

namespace FrontEnd.Msvc

structure IsEntry (entry : String) : Prop where
  filled : entry ≠ ""
  whole : ';' ∉ entry.toList
  trimmed : Text.Trimmed entry.toList

def normalize (value : String) : String :=
  ";".intercalate ((includeDirs value).filterMap Path.text?)

/-- One list comes of another by white space around separators and at the ends, and by entries of
nothing but white space. -/
inductive Padded : String → String → Prop
  | same (value : String) : Padded value value
  | spaceBefore {space : String} (blank : Text.Blank space.toList) (value : String) :
      Padded value (space ++ value)
  | spaceBehind {space : String} (blank : Text.Blank space.toList) (value : String) :
      Padded value (value ++ space)
  | entryBefore {space : String} (blank : Text.Blank space.toList) (value : String) :
      Padded value (space ++ ";" ++ value)
  | entryBehind {space : String} (blank : Text.Blank space.toList) (value : String) :
      Padded value (value ++ ";" ++ space)
  | join {first first' second second' : String} (before : Padded first first')
      (behind : Padded second second') : Padded (first ++ ";" ++ second) (first' ++ ";" ++ second')
  | trans {first second third : String} (early : Padded first second) (late : Padded second third) :
      Padded first third

theorem splitIncludes_append (first second : List Char) :
    splitIncludes (first ++ ';' :: second) = splitIncludes first ++ splitIncludes second := by
  rw [splitIncludes, List.splitOn_append_cons_self, List.map_append, List.filter_append]
  rfl

theorem splitIncludes_piece {piece : List Char} (whole : ';' ∉ piece) :
    splitIncludes piece = if Text.trim piece = [] then [] else [Text.trim piece] := by
  rw [splitIncludes, List.splitOn_eq_singleton whole, List.map_singleton, List.filter_singleton]
  split <;> simp_all

theorem separator_not_mem {value piece : List Char} (member : piece ∈ value.splitOn ';') :
    ';' ∉ piece := by
  induction value using Text.pieces_induction ';' with
  | last text whole =>
    rw [List.splitOn_eq_singleton whole, List.mem_singleton] at member
    rwa [member]
  | more text rest whole ih =>
    rw [List.splitOn_append_cons_self_of_not_mem whole] at member
    rcases List.mem_cons.mp member with rfl | later
    · exact whole
    · exact ih later

theorem isEntry_of_mem {value entry : List Char} (member : entry ∈ splitIncludes value) :
    IsEntry (String.ofList entry) := by
  rw [splitIncludes, List.mem_filter, List.mem_map] at member
  obtain ⟨⟨piece, among, rfl⟩, filled⟩ := member
  refine ⟨?_, ?_, ?_⟩
  · intro empty
    rw [String.ofList_eq_empty_iff.mp empty] at filled
    cases filled
  · rw [String.toList_ofList]
    exact fun inside => separator_not_mem among (Text.mem_of_mem_trim inside)
  · rw [String.toList_ofList]
    exact Text.trimmed_trim piece

theorem splitIncludes_entry {entry : String} (isEntry : IsEntry entry) :
    splitIncludes entry.toList = [entry.toList] := by
  have filled : entry.toList ≠ [] := fun empty => isEntry.filled (String.toList_eq_nil_iff.mp empty)
  rw [splitIncludes_piece isEntry.whole, Text.trim_eq_self_iff.mpr isEntry.trimmed, if_neg filled]

theorem separator_not_mem_blank {space : List Char} (blank : Text.Blank space) : ';' ∉ space := by
  intro member
  have separator := blank ';' member
  revert separator
  decide

theorem splitIncludes_blank {space : List Char} (blank : Text.Blank space) :
    splitIncludes space = [] := by
  rw [splitIncludes_piece (separator_not_mem_blank blank), if_pos (Text.trim_eq_nil blank)]

theorem splitIncludes_blank_append {space : List Char} (blank : Text.Blank space) (value : List Char) :
    splitIncludes (space ++ value) = splitIncludes value := by
  -- White space holds no separator, so it lengthens the first piece and no other.
  have first (piece : List Char) (whole : ';' ∉ piece) :
      splitIncludes (space ++ piece) = splitIncludes piece := by
    have together : ';' ∉ space ++ piece := by simp [separator_not_mem_blank blank, whole]
    rw [splitIncludes_piece together, splitIncludes_piece whole, Text.trim_blank_append blank]
  induction value using Text.pieces_induction ';' with
  | last piece whole => exact first piece whole
  | more piece rest whole _ =>
    rw [← List.append_assoc, splitIncludes_append, splitIncludes_append, first piece whole]

theorem splitIncludes_append_blank {space : List Char} (blank : Text.Blank space) (value : List Char) :
    splitIncludes (value ++ space) = splitIncludes value := by
  induction value using Text.pieces_induction ';' with
  | last piece whole =>
    have together : ';' ∉ piece ++ space := by simp [separator_not_mem_blank blank, whole]
    rw [splitIncludes_piece together, splitIncludes_piece whole, Text.trim_append_blank blank]
  | more piece rest whole ih =>
    rw [List.append_assoc, List.cons_append, splitIncludes_append, splitIncludes_append, ih]

def entries (value : String) : List String :=
  (splitIncludes value.toList).map String.ofList

theorem includeDirs_eq (value : String) : includeDirs value = (entries value).map Path.ofText := by
  rw [includeDirs, entries, List.map_map]
  rfl

/-- The entries of a list that are more than white space, each without the white space around it. -/
def filled (value : String) : List String :=
  ((value.toList.splitOn ';').filter fun entry => ¬ Text.Blank entry).map fun entry =>
    String.ofList (Text.trim entry)

theorem entries_eq_filled (value : String) : entries value = filled value := by
  have same (entry : List Char) : decide (Text.trim entry ≠ []) = decide (¬ Text.Blank entry) := by
    simp only [ne_eq, Text.trim_eq_nil_iff]
  rw [entries, splitIncludes, List.filter_map, List.map_map]
  simp only [Function.comp_def, same]
  rfl

theorem entries_append (first second : String) :
    entries (first ++ ";" ++ second) = entries first ++ entries second := by
  have text : (first ++ ";" ++ second).toList = first.toList ++ ';' :: second.toList := by simp
  rw [entries, text, splitIncludes_append, List.map_append]
  rfl

theorem isEntry_of_mem_entries {value entry : String} (member : entry ∈ entries value) :
    IsEntry entry := by
  obtain ⟨text, listed, rfl⟩ := List.mem_map.mp member
  exact isEntry_of_mem listed

theorem entries_join {given : List String} (all : ∀ entry ∈ given, IsEntry entry) :
    entries (";".intercalate given) = given := by
  induction given with
  | nil => rfl
  | cons entry rest ih =>
    have first : entries entry = [entry] := by
      rw [entries, splitIncludes_entry (all entry List.mem_cons_self)]
      simp
    cases rest with
    | nil => rw [String.intercalate_singleton, first]
    | cons next rest =>
      rw [String.intercalate_cons_cons, entries_append, first,
        ih fun other later => all other (List.mem_cons_of_mem _ later)]
      rfl

theorem normalize_eq (value : String) : normalize value = ";".intercalate (entries value) := by
  rw [normalize, includeDirs_eq, List.filterMap_map]
  simp

theorem entries_normalize (value : String) : entries (normalize value) = entries value := by
  rw [normalize_eq, entries_join fun _ => isEntry_of_mem_entries]

theorem Padded.entries_eq {value other : String} (padded : Padded value other) :
    entries other = entries value := by
  induction padded with
  | same value => rfl
  | spaceBefore blank value =>
    rw [entries, String.toList_append, splitIncludes_blank_append blank]
    rfl
  | spaceBehind blank value =>
    rw [entries, String.toList_append, splitIncludes_append_blank blank]
    rfl
  | entryBefore blank value =>
    have nothing : entries _ = [] := congrArg (List.map String.ofList) (splitIncludes_blank blank)
    rw [entries_append, nothing, List.nil_append]
  | entryBehind blank value =>
    have nothing : entries _ = [] := congrArg (List.map String.ofList) (splitIncludes_blank blank)
    rw [entries_append, nothing, List.append_nil]
  | join _ _ before behind => rw [entries_append, entries_append, before, behind]
  | trans _ _ early late => rw [late, early]

/-- Include lists are read entry by entry, read back once joined, and may be padded anywhere. -/
theorem includeDirs_exact :
    (∀ first second, includeDirs (first ++ ";" ++ second) = includeDirs first ++ includeDirs second) ∧
    (∀ value, ∀ directory ∈ includeDirs value, ∃ entry, IsEntry entry ∧ directory = Path.ofText entry) ∧
    (∀ given : List String, (∀ entry ∈ given, IsEntry entry) →
      includeDirs (";".intercalate given) = given.map Path.ofText) ∧
    (∀ value, includeDirs (normalize value) = includeDirs value ∧
      normalize (normalize value) = normalize value) ∧
    ∀ value padded, Padded value padded → includeDirs padded = includeDirs value := by
  refine ⟨?_, ?_, ?_, ?_, ?_⟩
  · intro first second
    rw [includeDirs_eq, entries_append, List.map_append, ← includeDirs_eq, ← includeDirs_eq]
  · intro value directory member
    rw [includeDirs_eq] at member
    obtain ⟨entry, listed, rfl⟩ := List.mem_map.mp member
    exact ⟨entry, isEntry_of_mem_entries listed, rfl⟩
  · intro given all
    rw [includeDirs_eq, entries_join all]
  · intro value
    constructor
    · rw [includeDirs_eq, entries_normalize, includeDirs_eq]
    · rw [normalize_eq, entries_normalize, normalize_eq]
  · intro value padded related
    rw [includeDirs_eq, related.entries_eq, includeDirs_eq]

/-- A blank entry in front, and a space that is no ASCII one before a separator. -/
theorem includeDirs_of_padded_list :
    let given := ["C:\\ucrt", "C:\\Program Files\\um"]
    let padded := "\t" ++ ";" ++ ("C:\\ucrt" ++ "\u00a0" ++ ";" ++ "C:\\Program Files\\um")
    (∀ entry ∈ given, IsEntry entry) ∧ Padded (";".intercalate given) padded ∧
      includeDirs padded = [.ofText "C:\\ucrt", .ofText "C:\\Program Files\\um"] := by
  intro given padded
  have all : ∀ entry ∈ given, IsEntry entry := by
    intro entry member
    simp only [given, List.mem_cons, List.not_mem_nil, or_false] at member
    rcases member with rfl | rfl
    · exact ⟨by decide, by decide, by decide⟩
    · exact ⟨by decide, by decide, by decide⟩
  have related : Padded (";".intercalate given) padded := by
    have space : Text.Blank "\u00a0".toList := by decide
    have tab : Text.Blank "\t".toList := by decide
    have spaced := Padded.join (.spaceBehind space "C:\\ucrt") (.same "C:\\Program Files\\um")
    exact spaced.trans (.entryBefore tab _)
  obtain ⟨-, -, joined, -, padding⟩ := includeDirs_exact
  exact ⟨all, related, (padding _ _ related).trans (joined given all)⟩

end FrontEnd.Msvc
