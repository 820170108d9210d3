import FrontEnd.Proofs.Options.Session
import FrontEnd.Proofs.Run
import Mathlib.Data.List.Forall2

namespace FrontEnd.Session

variable {σ : Type}

def setupCalls (session : Session σ) (hosts : List (Host (StateM σ))) :
    List (Run.Moment (Host (StateM σ)) (Session σ)) :=
  Run.moments setup session hosts

def afterSetups (session : Session σ) (hosts : List (Host (StateM σ))) : Session σ :=
  Run.final setup session hosts

def setupAnswers (session : Session σ) (hosts : List (Host (StateM σ))) :
    List (Except ToolchainError Unit) :=
  Run.answers setup session hosts

theorem setup_keeps_leftOut (host : Host (StateM σ)) (session : Session σ)
    (leftOut : session.options.noBuiltinIncludes = true) :
    (session.setup host).2.options.noBuiltinIncludes = true := by
  rw [(session.setup_eq host).2]
  simp [leftOut]

theorem leftOut_of_takesMsvc {session : Session σ} {host : Host (StateM σ)}
    (taken : session.takesMsvc host = true) :
    (session.setup host).2.options.noBuiltinIncludes = true := by
  rw [(session.setup_eq host).2]
  simp [setsUpHeaders, taken]

theorem leftOut_of_completesXcode {session : Session σ} {host : Host (StateM σ)}
    (completed : session.completesXcode host = true) :
    (session.setup host).2.options.noBuiltinIncludes = true := by
  rw [(session.setup_eq host).2]
  simp [setsUpHeaders, completed]

theorem takesMsvc_of_leftOut {session : Session σ} (host : Host (StateM σ))
    (leftOut : session.options.noBuiltinIncludes = true) : session.takesMsvc host = false := by
  simp [takesMsvc, leftOut]

theorem none_takes_msvc {session : Session σ} (hosts : List (Host (StateM σ)))
    (leftOut : session.options.noBuiltinIncludes = true) :
    ∀ call ∈ session.setupCalls hosts, call.before.takesMsvc call.input = false := by
  intro call member
  have still : call.before.options.noBuiltinIncludes = true :=
    Run.moments_of_kept (P := fun session => session.options.noBuiltinIncludes = true)
      leftOut hosts setup_keeps_leftOut call member
  exact takesMsvc_of_leftOut call.input still

theorem countP_takesMsvc_of_leftOut {session : Session σ} (hosts : List (Host (StateM σ)))
    (leftOut : session.options.noBuiltinIncludes = true) :
    (session.setupCalls hosts).countP (fun call => call.before.takesMsvc call.input) = 0 := by
  rw [List.countP_eq_zero]
  intro call member
  simp [none_takes_msvc hosts leftOut call member]

theorem countP_takesMsvc_le_one (session : Session σ) (hosts : List (Host (StateM σ))) :
    (session.setupCalls hosts).countP (fun call => call.before.takesMsvc call.input) ≤ 1 := by
  induction hosts generalizing session with
  | nil => simp [setupCalls, Run.moments]
  | cons host hosts ih =>
    have rest := ih (session.setup host).2
    simp only [setupCalls, Run.moments, List.countP_cons] at rest ⊢
    cases taken : session.takesMsvc host with
    | false => simpa using rest
    | true =>
      have none_later := countP_takesMsvc_of_leftOut hosts (leftOut_of_takesMsvc taken)
      simp only [setupCalls] at none_later
      simp [none_later]

theorem no_msvc_after_xcode (session : Session σ) (hosts : List (Host (StateM σ))) :
    (session.setupCalls hosts).Pairwise fun earlier later =>
      earlier.before.completesXcode earlier.input = true →
        later.before.takesMsvc later.input = false := by
  induction hosts generalizing session with
  | nil => exact List.Pairwise.nil
  | cons host hosts ih =>
    refine List.Pairwise.cons ?_ (ih (session.setup host).2)
    intro later member completed
    exact none_takes_msvc hosts (leftOut_of_completesXcode completed) later member

theorem afterSetups_options (session : Session σ) (hosts : List (Host (StateM σ))) :
    let calls := session.setupCalls hosts
    let takes := fun call : Run.Moment (Host (StateM σ)) (Session σ) => call.before.takesMsvc call.input
    (session.afterSetups hosts).options = { session.options with
      abi := if calls.any takes then .microsoft else session.options.abi
      microsoftMode := session.options.microsoftMode || calls.any takes
      toolSet := ((calls.find? takes).map fun call => (msvcCompiler call.input).toolSet?.getD 0).getD
        session.options.toolSet
      noBuiltinIncludes := session.options.noBuiltinIncludes ||
        calls.any fun call => call.before.setsUpHeaders call.input
      noStandardIncludes := session.options.noStandardIncludes ||
        calls.any fun call => call.before.setsUpHeaders call.input
      arguments := session.options.arguments ++
        calls.flatMap fun call => call.before.setupArguments call.input
      systemIncludeDirs := session.options.systemIncludeDirs ++
        calls.flatMap fun call => call.before.setupDirectories call.input } := by
  intro calls takes
  induction hosts generalizing session with
  | nil => simp [calls, setupCalls, afterSetups, Run.moments, Run.final]
  | cons host hosts ih =>
    have rest := ih (session.setup host).2
    have split : calls = ⟨host, session⟩ :: (session.setup host).2.setupCalls hosts := rfl
    show ((session.setup host).2.afterSetups hosts).options = _
    rw [rest, (session.setup_eq host).2, split]
    simp only [List.any_cons, List.flatMap_cons, List.find?_cons, List.append_assoc, Bool.or_assoc]
    cases taken : session.takesMsvc host with
    | false => simp [takes, taken]
    | true =>
      have none_later : ((session.setup host).2.setupCalls hosts).find? takes = none := by
        rw [List.find?_eq_none]
        intro call member
        simp [takes, none_takes_msvc hosts (leftOut_of_takesMsvc taken) call member]
      simp [takes, taken, none_later]

theorem setupAnswers_eq_error_iff (session : Session σ) (hosts : List (Host (StateM σ))) :
    List.Forall₂
      (fun call answer => ∀ error, answer = .error error ↔
        call.input.platform.isMacOS = true ∧ call.before.xcodeFolders call.input = .error error)
      (session.setupCalls hosts) (session.setupAnswers hosts) := by
  rw [setupAnswers, Run.answers_eq_map, List.forall₂_map_right_iff]
  refine List.forall₂_same.mpr ?_
  intro call _ error
  rw [(call.before.setup_eq call.input).1]
  cases macOS : call.input.platform.isMacOS with
  | false => simp
  | true => cases found : call.before.xcodeFolders call.input <;> simp [Except.map]

/-- What calls of setup for hosts in turn come to, failures included. -/
theorem setups_exact (session : Session σ) (hosts : List (Host (StateM σ))) :
    let calls := session.setupCalls hosts
    let takes := fun call : Run.Moment (Host (StateM σ)) (Session σ) => call.before.takesMsvc call.input
    calls.map (·.input) = hosts ∧
      (session.afterSetups hosts).options = { session.options with
        abi := if calls.any takes then .microsoft else session.options.abi
        microsoftMode := session.options.microsoftMode || calls.any takes
        toolSet := ((calls.find? takes).map fun call => (msvcCompiler call.input).toolSet?.getD 0).getD
          session.options.toolSet
        noBuiltinIncludes := session.options.noBuiltinIncludes ||
          calls.any fun call => call.before.setsUpHeaders call.input
        noStandardIncludes := session.options.noStandardIncludes ||
          calls.any fun call => call.before.setsUpHeaders call.input
        arguments := session.options.arguments ++
          calls.flatMap fun call => call.before.setupArguments call.input
        systemIncludeDirs := session.options.systemIncludeDirs ++
          calls.flatMap fun call => call.before.setupDirectories call.input } ∧
      calls.countP takes ≤ 1 ∧
      (session.options.noBuiltinIncludes = true → calls.countP takes = 0) ∧
      (calls.Pairwise fun earlier later =>
        earlier.before.completesXcode earlier.input = true → takes later = false) ∧
      List.Forall₂
        (fun call answer => ∀ error, answer = .error error ↔
          call.input.platform.isMacOS = true ∧ call.before.xcodeFolders call.input = .error error)
        calls (session.setupAnswers hosts) :=
  ⟨Run.map_input_moments setup session hosts, session.afterSetups_options hosts,
    session.countP_takesMsvc_le_one hosts, countP_takesMsvc_of_leftOut hosts,
    session.no_msvc_after_xcode hosts, session.setupAnswers_eq_error_iff hosts⟩

end FrontEnd.Session
