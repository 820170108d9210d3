import FrontEnd.Path
import Mathlib.Data.List.DropRight

namespace FrontEnd.Path

theorem stretches_join (base : Path) {name : Bytes} (single : separator ∉ name) :
    ∃ before, (base.join ⟨name⟩).stretches = before ++ [name] := by
  have relative : (⟨name⟩ : Path).isAbsolute = false := by
    cases name with
    | nil => rfl
    | cons byte rest =>
      have other : byte ≠ separator := fun same => single (same ▸ List.mem_cons_self)
      simp [isAbsolute, other]
  have alone : name.splitOn separator = [name] := List.splitOn_eq_singleton single
  rw [join, relative, if_neg (by decide), stretches]
  split
  · rename_i joined
    rcases joined with empty | ended
    · rw [empty]
      exact ⟨[], alone⟩
    · obtain ⟨before, spelled⟩ := List.getLast?_eq_some_iff.mp ended
      refine ⟨before.splitOn separator, ?_⟩
      rw [spelled, List.append_assoc, List.singleton_append, List.splitOn_append_cons_self, alone]
  · exact ⟨base.stretches, by rw [List.splitOn_append_cons_self, alone]; rfl⟩

theorem getLast?_components_join {base : Path} {name : Bytes} (single : separator ∉ name)
    (named : name ≠ []) (notHere : name ≠ here) :
    (base.join ⟨name⟩).components.getLast? = some name := by
  obtain ⟨before, cut⟩ := stretches_join base single
  rw [components, cut]
  cases before with
  | nil => simp [named]
  | cons first rest => simp [List.filter_append, named, notHere]

def names (path : Path) : List Bytes :=
  path.stretches.filter (· ≠ [])

theorem steps_eq (path : Path) :
    path.steps = path.names ++ if path.bytes.getLast? = some separator then [[]] else [] := by
  rw [steps, names]
  split
  · rfl
  · rw [List.append_nil]

theorem filter_splitOn_append (bytes : Bytes) {separators : Bytes}
    (all : ∀ byte ∈ separators, byte = separator) :
    ((bytes ++ separators).splitOn separator).filter (· ≠ []) =
      (bytes.splitOn separator).filter (· ≠ []) := by
  induction separators generalizing bytes with
  | nil => rw [List.append_nil]
  | cons byte rest ih =>
    obtain rfl : byte = separator := all byte List.mem_cons_self
    have behind := ih [] fun other member => all other (List.mem_cons_of_mem _ member)
    rw [List.splitOn_append_cons_self, List.filter_append, ← List.nil_append rest, behind]
    simp

theorem withoutTrailing_append (path : Path) :
    ∃ separators, (∀ byte ∈ separators, byte = separator) ∧
      path.bytes = path.withoutTrailing.bytes ++ separators := by
  refine ⟨path.bytes.rtakeWhile (· == separator), ?_, ?_⟩
  · intro byte member
    have passed := List.mem_rtakeWhile_imp member
    exact beq_iff_eq.mp passed
  · exact List.rdropWhile_append_rtakeWhile.symm

theorem names_withoutTrailing (path : Path) : path.withoutTrailing.names = path.names := by
  obtain ⟨separators, all, split⟩ := path.withoutTrailing_append
  rw [names, names, stretches, stretches, split, filter_splitOn_append _ all]

theorem steps_withoutTrailing (path : Path) : path.withoutTrailing.steps = path.names := by
  have ends : path.withoutTrailing.bytes.getLast? ≠ some separator := by
    intro last
    rw [withoutTrailing, List.getLast?_reverse] at last
    have stopped := List.head?_dropWhile_not (· == separator) path.bytes.reverse
    rw [last] at stopped
    simp at stopped
  rw [steps_eq, if_neg ends, List.append_nil, names_withoutTrailing]

theorem isAbsolute_withoutTrailing {path : Path} (filled : path.withoutTrailing.bytes ≠ []) :
    path.withoutTrailing.isAbsolute = path.isAbsolute := by
  obtain ⟨separators, -, split⟩ := path.withoutTrailing_append
  obtain ⟨byte, rest, front⟩ := List.exists_cons_of_ne_nil filled
  rw [isAbsolute, isAbsolute, split, front]
  rfl

theorem names_of_separators {path : Path} (bare : path.withoutTrailing.bytes = []) : path.names = [] := by
  rw [← names_withoutTrailing, names, stretches, bare]
  rfl

end FrontEnd.Path
