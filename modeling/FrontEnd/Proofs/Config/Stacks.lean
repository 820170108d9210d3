import FrontEnd.Proofs.Config.Apply
import FrontEnd.Proofs.Config.Fields
import Mathlib.Data.List.Induction

namespace FrontEnd.Config

/-- The configuration that layers make together, each over the ones before it. -/
def stack (layers : List Config) : Config :=
  layers.foldl merge empty

def lastSet {α : Type} (setting : Config → Option α) (layers : List Config) : Option α :=
  layers.reverse.findSome? setting

def applyInTurn (layers : List Config) (options : Options) : Options :=
  layers.foldl (fun options layer => layer.apply options) options

/-- The last list that is not empty; an empty one if there is none. -/
inductive LastFilled {α : Type} : List (List α) → List α → Prop
  | none {lists : List (List α)} (blank : ∀ list ∈ lists, list = []) : LastFilled lists []
  | last {before behind : List (List α)} {list : List α} (filled : list ≠ [])
      (blank : ∀ other ∈ behind, other = []) : LastFilled (before ++ list :: behind) list

theorem laterList_eq_ite {α : Type} (earlier override : List α) [Decidable (override = [])] :
    laterList earlier override = if override = [] then earlier else override := by
  cases override <;> simp [laterList]

theorem foldl_merge (base : Config) (layers : List Config) :
    layers.foldl merge base = base.merge (layers.foldr merge empty) := by
  induction layers generalizing base with
  | nil => rw [List.foldl_nil, List.foldr_nil, merge_empty]
  | cons layer layers ih => rw [List.foldl_cons, ih, List.foldr_cons, merge_assoc]

theorem stack_append (before behind : List Config) :
    stack (before ++ behind) = (stack before).merge (stack behind) := by
  rw [stack, List.foldl_append, foldl_merge, stack, stack, foldl_merge empty behind, empty_merge]

theorem stack_cons (layer : Config) (layers : List Config) :
    stack (layer :: layers) = layer.merge (stack layers) := by
  have single : stack [layer] = layer := empty_merge layer
  rw [← List.singleton_append, stack_append, single]

theorem stack_concat (layers : List Config) (layer : Config) :
    stack (layers ++ [layer]) = (stack layers).merge layer := by
  rw [stack_append, stack_cons, show stack [] = empty from rfl, merge_empty]

theorem stack_again (before between behind : List Config) (layer : Config) :
    stack (before ++ layer :: between ++ layer :: behind) = stack (before ++ between ++ layer :: behind) := by
  have again : layer.merge ((stack between).merge (layer.merge (stack behind))) =
      (stack between).merge (layer.merge (stack behind)) := by
    rw [← merge_assoc, ← merge_assoc, merge_again, merge_assoc]
  simp only [stack_append, stack_cons, merge_assoc, again]

theorem lastSet_concat {α : Type} (setting : Config → Option α) (layers : List Config) (layer : Config) :
    lastSet setting (layers ++ [layer]) = (setting layer).or (lastSet setting layers) := by
  rw [lastSet, List.reverse_append, List.reverse_singleton, List.singleton_append, List.findSome?_cons]
  cases setting layer <;> rfl

theorem get?_stack (layers : List Config) (field : Field) :
    (stack layers).get? field = lastSet (·.get? field) layers := by
  induction layers using List.reverseRecOn with
  | nil => exact get?_empty field
  | append_singleton layers layer ih => rw [stack_concat, get?_merge, lastSet_concat, ih]

theorem LastFilled.concat {α : Type} {lists : List (List α)} {list : List α}
    (last : LastFilled lists list) (next : List α) :
    LastFilled (lists ++ [next]) (laterList list next) := by
  have still {others : List (List α)} (blank : ∀ other ∈ others, other = []) :
      ∀ other ∈ others ++ [[]], other = [] := by
    intro other member
    rcases List.mem_append.mp member with early | late
    · exact blank other early
    · exact List.mem_singleton.mp late
  cases next with
  | nil =>
    cases last with
    | none blank => exact .none (still blank)
    | last filled blank =>
      rw [List.append_assoc, List.cons_append]
      exact .last filled (still blank)
  | cons item items => exact .last (List.cons_ne_nil item items) (by simp)

theorem LastFilled.isSuffix {α : Type} {lists : List (List α)} {list : List α}
    (last : LastFilled lists list) : list <:+ lists.flatten := by
  cases last with
  | none blank => exact List.nil_suffix
  | @last before behind list filled blank =>
    have rest : behind.flatten = [] := List.flatten_eq_nil_iff.mpr blank
    refine ⟨before.flatten, ?_⟩
    rw [List.flatten_append, List.flatten_cons, rest, List.append_nil]

theorem lastFilled_stack {α : Type} (items : Config → List α) (none : items empty = [])
    (merged : ∀ base override, items (base.merge override) = laterList (items base) (items override))
    (layers : List Config) : LastFilled (layers.map items) (items (stack layers)) := by
  induction layers using List.reverseRecOn with
  | nil =>
    rw [show items (stack []) = [] from none]
    exact .none (by simp)
  | append_singleton layers layer ih =>
    rw [List.map_append, List.map_singleton, stack_concat, merged]
    exact ih.concat (items layer)

theorem applyInTurn_eq (layers : List Config) (options : Options) :
    applyInTurn layers options = { options with
      language := (lastSet (·.parser.language) layers).getD options.language
      rtti := (lastSet (·.parser.rtti) layers).getD options.rtti
      abi := (lastSet (·.parser.abi) layers).getD options.abi
      target := (lastSet (·.parser.target) layers).or options.target
      defines := options.defines ++ layers.flatMap (·.parser.defines)
      includeDirs := options.includeDirs ++ layers.flatMap (·.parser.includeDirs) } := by
  induction layers using List.reverseRecOn with
  | nil => simp [applyInTurn, lastSet]
  | append_singleton layers layer ih =>
    have step : applyInTurn (layers ++ [layer]) options = layer.apply (applyInTurn layers options) := by
      rw [applyInTurn, List.foldl_append, List.foldl_cons, List.foldl_nil, applyInTurn]
    rw [step, ih, apply_eq]
    simp only [lastSet_concat, Option.getD_or, Option.orElse_eq_orElse, Option.orElse_eq_or,
      Option.or_assoc, List.flatMap_append, List.flatMap_singleton, List.append_assoc]

theorem apply_stack_eq (layers : List Config) (options : Options) :
    (stack layers).apply options = { applyInTurn layers options with
      defines := options.defines ++ (stack layers).parser.defines
      includeDirs := options.includeDirs ++ (stack layers).parser.includeDirs } := by
  have language : (stack layers).parser.language = lastSet (·.parser.language) layers :=
    get?_stack layers .language
  have rtti : (stack layers).parser.rtti = lastSet (·.parser.rtti) layers := get?_stack layers .rtti
  have abi : (stack layers).parser.abi = lastSet (·.parser.abi) layers := get?_stack layers .abi
  have target : (stack layers).parser.target = lastSet (·.parser.target) layers :=
    get?_stack layers .target
  rw [apply_eq, applyInTurn_eq, language, rtti, abi, target]
  simp

/-- Merging is a band in which the later configuration wins. A stack of layers is the same from
either end, and a layer that comes again later need not have come before. -/
theorem merge_exact :
    (∀ first second third : Config,
      (first.merge second).merge third = first.merge (second.merge third)) ∧
    (∀ config : Config, config.merge empty = config ∧ empty.merge config = config) ∧
    (∀ config : Config, config.merge config = config) ∧
    (∀ base override : Config, (base.merge override).merge base = override.merge base) ∧
    (∀ (base override : Config) field, (base.merge override).get? field =
      if (override.get? field).isSome then override.get? field else base.get? field) ∧
    (∀ base override : Config,
      (base.merge override).parser.defines =
        (if override.parser.defines = [] then base.parser.defines else override.parser.defines) ∧
      (base.merge override).parser.includeDirs =
        (if override.parser.includeDirs = [] then base.parser.includeDirs
          else override.parser.includeDirs)) ∧
    (∀ (base : Config) (layers : List Config),
      layers.foldl merge base = base.merge (layers.foldr merge empty)) ∧
    ∀ before between behind layer,
      stack (before ++ layer :: between ++ layer :: behind) =
        stack (before ++ between ++ layer :: behind) := by
  refine ⟨merge_assoc, fun config => ⟨merge_empty config, empty_merge config⟩, merge_self, merge_again,
    ?_, ?_, foldl_merge, stack_again⟩
  · intro base override field
    rw [get?_merge]
    cases override.get? field <;> rfl
  · intro base override
    exact ⟨laterList_eq_ite _ _, laterList_eq_ite _ _⟩

/-- Merged layers settle the options as the layers do in turn, and neither touches what no
configuration sets. Of each list the merged layers append what the layers in turn append last. -/
theorem apply_stack_exact (layers : List Config) (options : Options) :
    let merged := (stack layers).apply options
    let inTurn := applyInTurn layers options
    (∃ defines includeDirs,
      LastFilled (layers.map (·.parser.defines)) defines ∧
      LastFilled (layers.map (·.parser.includeDirs)) includeDirs ∧
      defines <:+: layers.flatMap (·.parser.defines) ∧
      includeDirs <:+: layers.flatMap (·.parser.includeDirs) ∧
      merged = { inTurn with
        defines := options.defines ++ defines
        includeDirs := options.includeDirs ++ includeDirs }) ∧
    inTurn = { options with
      language := (lastSet (·.parser.language) layers).getD options.language
      rtti := (lastSet (·.parser.rtti) layers).getD options.rtti
      abi := (lastSet (·.parser.abi) layers).getD options.abi
      target := (lastSet (·.parser.target) layers).or options.target
      defines := options.defines ++ layers.flatMap (·.parser.defines)
      includeDirs := options.includeDirs ++ layers.flatMap (·.parser.includeDirs) } := by
  intro merged inTurn
  have defines := lastFilled_stack (·.parser.defines) rfl (fun _ _ => rfl) layers
  have includeDirs := lastFilled_stack (·.parser.includeDirs) rfl (fun _ _ => rfl) layers
  refine ⟨⟨_, _, defines, includeDirs, ?_, ?_, apply_stack_eq layers options⟩,
    applyInTurn_eq layers options⟩
  · rw [List.flatMap_def]
    exact defines.isSuffix.isInfix
  · rw [List.flatMap_def]
    exact includeDirs.isSuffix.isInfix

end FrontEnd.Config
