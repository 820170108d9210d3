import FrontEnd.World.Files

namespace FrontEnd

def Entry.IsLink : Entry → Prop
  | .link _ => True
  | .directory | .file _ _ => False

namespace Tree

variable {tree : Tree} {location : Location} {entry : Entry}

theorem Walks.not_link {links : Nat} {directory : Location} {names : List Name} {goal : Goal}
    (walks : Walks tree .target links directory names goal) (reached : goal = .found location entry) :
    ¬ entry.IsLink := by
  induction walks with
  | arrived links directory | file links proper standing =>
    cases reached
    exact id
  | vacant links proper missing => cases reached
  | link links proper aimed standing => cases aimed
  | stay idle onward ih | up onward ih | into proper standing onward ih
  | through proper followed standing onward ih => exact ih reached

theorem resolve_target_not_link {directory : Location} {path : Path}
    (resolved : tree.resolve directory .target path = .ok (.found location entry)) :
    ¬ entry.IsLink := by
  obtain ⟨-, -, -, walks⟩ := resolve_eq_ok_iff.mp resolved
  exact walks.not_link rfl

end Tree

namespace World

variable {world : World} {path : Path}

theorem find?_eq_some_iff {entry : Entry} :
    world.find? path = some entry ↔ ∃ location, world.goal path = .ok (.found location entry) := by
  unfold find?
  split
  · rename_i location other found
    simp [found]
  · rename_i other
    constructor
    · intro none
      cases none
    · rintro ⟨location, found⟩
      exact absurd found (other location entry)

theorem find?_not_link {entry : Entry} (stands : world.find? path = some entry) : ¬ entry.IsLink := by
  obtain ⟨location, found⟩ := find?_eq_some_iff.mp stands
  exact Tree.resolve_target_not_link found

theorem holds_eq_false_iff : world.holds path = false ↔ world.find? path = none := by
  rw [holds, Option.isSome_eq_false_iff, Option.isNone_iff_eq_none]

theorem read_eq_ok_iff {content : Bytes} :
    world.read path = .ok content ↔ ∃ execution, world.find? path = some (.file content execution) := by
  simp only [find?_eq_some_iff, read]
  cases world.goal path with
  | error cause => simp
  | ok goal =>
    cases goal with
    | vacant directory name => simp
    | found location entry => cases entry <;> simp

theorem readText_eq_ok_iff {text : String} :
    world.readText path = .ok text ↔
      ∃ content execution, world.find? path = some (.file content execution) ∧
        content.text? = some text := by
  have reads (content : Bytes) : world.read path = .ok content ↔ _ := read_eq_ok_iff
  unfold readText
  cases found : world.read path with
  | error cause =>
    simp only [reduceCtorEq, false_iff]
    rintro ⟨content, execution, stands, -⟩
    have read := (reads content).mpr ⟨execution, stands⟩
    rw [found] at read
    cases read
  | ok content =>
    obtain ⟨execution, stands⟩ := (reads content).mp found
    cases decoded : content.text? with
    | none => simp [stands, decoded]
    | some other => simp [stands, decoded]

end World

end FrontEnd
