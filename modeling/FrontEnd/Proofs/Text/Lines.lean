import FrontEnd.Text.Utf8

namespace FrontEnd

/-- A text is one piece, or a piece with a separator and a text behind it. -/
theorem Text.pieces_induction (separator : Char) {motive : List Char → Prop}
    (last : ∀ piece, separator ∉ piece → motive piece)
    (more : ∀ piece rest, separator ∉ piece → motive rest → motive (piece ++ separator :: rest))
    (text : List Char) : motive text := by
  by_cases separated : separator ∈ text
  · obtain ⟨piece, rest, cut, whole⟩ := List.eq_append_cons_of_mem separated
    rw [cut]
    exact more piece rest whole (pieces_induction separator last more rest)
  · exact last text separated
termination_by text.length
decreasing_by
  rw [cut]
  simp only [List.length_append, List.length_cons]
  omega

namespace Bytes

theorem lead_ascii {byte : UInt8} (ascii : byte < 0x80) : lead byte = .character (Char.ofNat byte.toNat) :=
  if_pos ascii

theorem low_of_lead {byte : UInt8} {state : Unfinished} (begun : lead byte = .unfinished state) :
    0x80 ≤ state.low := by
  unfold lead at begun
  repeat' split at begun
  all_goals cases begun
  all_goals simp

theorem lossyFrom_append_ascii {byte : UInt8} (ascii : byte < 0x80) (before after : Bytes)
    (state : Option Unfinished) (tail : ∀ unfinished ∈ state, 0x80 ≤ unfinished.low) :
    lossyFrom state (before ++ byte :: after) =
      lossyFrom state before ++ Char.ofNat byte.toNat :: lossyFrom none after := by
  -- A character that is not finished can only go on with a byte that is not ASCII.
  induction before generalizing state with
  | nil =>
    cases state with
    | none => simp [lossyFrom, lead_ascii ascii]
    | some unfinished =>
      have low := tail unfinished rfl
      have broken : ¬ (unfinished.low ≤ byte ∧ byte ≤ unfinished.high) :=
        fun inside => absurd (UInt8.lt_of_lt_of_le ascii low) (UInt8.not_lt.mpr inside.1)
      simp [lossyFrom, lead_ascii ascii, broken]
  | cons first before ih =>
    have fresh := ih none (by simp)
    have begun {next : Unfinished} (shape : lead first = .unfinished next) :=
      ih (some next) fun unfinished member => by
        cases member
        exact low_of_lead shape
    cases state with
    | none =>
      cases shape : lead first with
      | character c => simp [lossyFrom, shape, fresh]
      | unfinished next => simp [lossyFrom, shape, begun shape]
      | illFormed => simp [lossyFrom, shape, fresh]
    | some unfinished =>
      by_cases inside : unfinished.low ≤ first ∧ first ≤ unfinished.high
      · by_cases last : unfinished.owed ≤ 1
        · simp [lossyFrom, inside, last, fresh]
        · have onward (bits : Nat) := ih (some ⟨unfinished.owed - 1, 0x80, 0xBF, bits⟩) fun next member => by
            cases member
            exact UInt8.le_refl 0x80
          simp [lossyFrom, inside, last, onward]
      · cases shape : lead first with
        | character c => simp [lossyFrom, inside, shape, fresh]
        | unfinished next => simp [lossyFrom, inside, shape, begun shape]
        | illFormed => simp [lossyFrom, inside, shape, fresh]

theorem toList_lossy_append {byte : UInt8} (ascii : byte < 0x80) (before after : Bytes) :
    (lossy (before ++ byte :: after)).toList =
      (lossy before).toList ++ Char.ofNat byte.toNat :: (lossy after).toList := by
  simp only [lossy, String.toList_ofList]
  exact lossyFrom_append_ascii ascii before after none (by simp)

end Bytes

end FrontEnd
