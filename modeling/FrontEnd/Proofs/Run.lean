namespace FrontEnd.Run

structure Moment (α S : Type) where
  input : α
  before : S

variable {α ρ S : Type} (step : α → S → ρ × S)

def final (state : S) : List α → S
  | [] => state
  | input :: inputs => final (step input state).2 inputs

def answers (state : S) : List α → List ρ
  | [] => []
  | input :: inputs => (step input state).1 :: answers (step input state).2 inputs

def answersWhere (inside : α → Bool) (state : S) : List α → List ρ
  | [] => []
  | input :: inputs =>
    if inside input then (step input state).1 :: answersWhere inside (step input state).2 inputs
    else answersWhere inside (step input state).2 inputs

def moments (state : S) : List α → List (Moment α S)
  | [] => []
  | input :: inputs => ⟨input, state⟩ :: moments (step input state).2 inputs

theorem map_input_moments (state : S) (inputs : List α) :
    (moments step state inputs).map (·.input) = inputs := by
  induction inputs generalizing state with
  | nil => rfl
  | cons input inputs ih =>
    simp only [moments, List.map_cons]
    rw [ih]

theorem answers_eq_map (state : S) (inputs : List α) :
    answers step state inputs =
      (moments step state inputs).map fun moment => (step moment.input moment.before).1 := by
  induction inputs generalizing state with
  | nil => rfl
  | cons input inputs ih =>
    simp only [answers, moments, List.map_cons]
    rw [ih]

variable {step}

theorem moments_of_kept {P : S → Prop} {state : S} (start : P state) (inputs : List α)
    (kept : ∀ input state, P state → P (step input state).2) :
    ∀ moment ∈ moments step state inputs, P moment.before := by
  induction inputs generalizing state with
  | nil => simp [moments]
  | cons input inputs ih =>
    intro moment member
    rcases List.mem_cons.mp member with rfl | later
    · exact start
    · exact ih (kept input state start) moment later

theorem final_of_kept {P : S → Prop} {state : S} (start : P state) (inputs : List α)
    (kept : ∀ input state, P state → P (step input state).2) : P (final step state inputs) := by
  induction inputs generalizing state with
  | nil => exact start
  | cons input inputs ih => exact ih (kept input state start)

/-- What every step keeps, given the steps before it, holds at the end of a run. -/
theorem final_of_history {P : List (Moment α S) → S → Prop} {state : S} (start : P [] state)
    (inputs : List α)
    (kept : ∀ past, ∀ input ∈ inputs, ∀ state, P past state →
      P (past ++ [⟨input, state⟩]) (step input state).2) :
    P (moments step state inputs) (final step state inputs) := by
  suffices general : ∀ past state, P past state →
      P (past ++ moments step state inputs) (final step state inputs) from general [] state start
  clear start
  induction inputs with
  | nil =>
    intro past state holds
    rw [moments, final, List.append_nil]
    exact holds
  | cons input inputs ih =>
    intro past state holds
    have next := kept past input List.mem_cons_self state holds
    have rest := ih (fun past later member => kept past later (List.mem_cons_of_mem _ member))
      (past ++ [⟨input, state⟩]) (step input state).2 next
    rwa [List.append_assoc] at rest

/-- A class of inputs that see and change only one part of the state, which the other inputs leave
alone, might as well be run by itself. -/
theorem run_filter {V : Type} (view : S → V) {inside : α → Bool} {inputs : List α}
    (same : ∀ input ∈ inputs, inside input = true → ∀ first second, view first = view second →
      (step input first).1 = (step input second).1 ∧
        view (step input first).2 = view (step input second).2)
    (other : ∀ input ∈ inputs, inside input = false → ∀ state, view (step input state).2 = view state)
    (first second : S) (start : view first = view second) :
    view (final step first inputs) = view (final step second (inputs.filter inside)) ∧
      answersWhere step inside first inputs = answers step second (inputs.filter inside) := by
  induction inputs generalizing first second with
  | nil => exact ⟨start, rfl⟩
  | cons input inputs ih =>
    have rest := ih (fun later member => same later (List.mem_cons_of_mem _ member))
      (fun later member => other later (List.mem_cons_of_mem _ member))
    cases kind : inside input with
    | true =>
      obtain ⟨answer, next⟩ := same input List.mem_cons_self kind first second start
      obtain ⟨ends, answered⟩ := rest _ _ next
      simp only [List.filter_cons, kind, if_true, final, answersWhere, answers]
      exact ⟨ends, by rw [answer, answered]⟩
    | false =>
      have untouched := other input List.mem_cons_self kind first
      simp only [List.filter_cons, kind, Bool.false_eq_true, if_false, final, answersWhere]
      exact rest _ _ (untouched.trans start)

end FrontEnd.Run
