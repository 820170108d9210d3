import FrontEnd.Proofs.Toml.Escapes

namespace FrontEnd.Toml

open Text (prepend prepend_some)

theorem literalLines?_quote {rest : List Char} (single : ¬ ['\'', '\''] <+: rest) :
    literalLines? ('\'' :: rest) = prepend (some '\'') (literalLines? rest) := by
  rw [literalLines?.eq_def ('\'' :: rest)]
  simp only [if_true]
  split
  · exact absurd ⟨_, rfl⟩ single
  · rfl

theorem literalLines?_quotes (rest : List Char) :
    literalLines? ('\'' :: '\'' :: '\'' :: rest) = closing '\'' rest := by
  rw [literalLines?.eq_def ('\'' :: _)]
  rfl

theorem le_longestRun (mark : Char) (run : Nat) (text : List Char) : run ≤ longestRun mark run text := by
  induction text generalizing run with
  | nil => exact Nat.le_refl run
  | cons c text ih =>
    unfold longestRun
    split
    · exact Nat.le_of_succ_le (ih (run + 1))
    · exact Nat.le_max_left _ _

theorem longestRun_le_succ (mark : Char) (run : Nat) (text : List Char) :
    longestRun mark run text ≤ longestRun mark (run + 1) text := by
  induction text generalizing run with
  | nil => exact Nat.le_succ run
  | cons c text ih =>
    unfold longestRun
    split
    · exact ih (run + 1)
    · omega

theorem longestRun_tail_le (mark c : Char) (text : List Char) :
    longestRun mark 0 text ≤ longestRun mark 0 (c :: text) := by
  show _ ≤ if c = mark then longestRun mark 1 text else max 0 (longestRun mark 0 text)
  split
  · exact longestRun_le_succ mark 0 text
  · exact Nat.le_max_right _ _

theorem not_mem_of_longestRun {mark : Char} {text : List Char} (none : longestRun mark 0 text = 0) :
    mark ∉ text := by
  induction text with
  | nil => exact List.not_mem_nil
  | cons c text ih =>
    have later := longestRun_tail_le mark c text
    have other : mark ≠ c := by
      rintro rfl
      have counted := le_longestRun mark 1 text
      have none : longestRun mark 1 text = 0 := by simpa [longestRun] using none
      omega
    exact List.not_mem_cons_of_ne_of_not_mem other (ih (by omega))

theorem literalText?_append {text : List Char} (plain : ∀ c ∈ text, isPlain c = true)
    (unmarked : '\'' ∉ text) (rest : List Char) :
    literalText? (text ++ '\'' :: rest) = some (text, rest) := by
  induction text with
  | nil => simp [literalText?]
  | cons c text ih =>
    simp only [List.mem_cons, not_or] at unmarked
    have first := plain c List.mem_cons_self
    have later := ih (fun d member => plain d (List.mem_cons_of_mem _ member)) unmarked.2
    simp [literalText?, Ne.symm unmarked.1, first, later]

theorem not_pair_prefix_append {text : List Char} (runs : longestRun '\'' 1 text ≤ 2) (filled : text ≠ [])
    (more_than_quote : text ≠ ['\'']) (rest : List Char) : ¬ ['\'', '\''] <+: text ++ rest := by
  match text with
  | [] => exact absurd rfl filled
  | [c] =>
    have other : c ≠ '\'' := fun quote => more_than_quote (quote ▸ rfl)
    simp [other.symm]
  | c :: d :: text =>
    rintro ⟨_, same⟩
    obtain ⟨rfl, rfl, -⟩ : '\'' = c ∧ '\'' = d ∧ _ := by simpa using same
    have counted := le_longestRun '\'' 3 text
    have few : longestRun '\'' 3 text ≤ 2 := by simpa [longestRun] using runs
    omega

theorem literalLines?_append {text : List Char} (plain : ∀ c ∈ text, c = '\n' ∨ isPlain c = true)
    (runs : longestRun '\'' 0 text ≤ 2) {rest : List Char} (boundary : ∀ c ∈ rest.head?, c ≠ '\'') :
    literalLines? (text ++ '\'' :: '\'' :: '\'' :: rest) = some (text, rest) := by
  induction text with
  | nil => rw [List.nil_append, literalLines?_quotes, closing_none boundary]
  | cons c text ih =>
    have rest_read := ih (fun d member => plain d (List.mem_cons_of_mem _ member))
      (Nat.le_trans (longestRun_tail_le '\'' c text) runs)
    by_cases mark : c = '\''
    · subst c
      by_cases ended : text = []
      · rw [ended, List.singleton_append, literalLines?_quotes, closing_one boundary]
      by_cases last : text = ['\'']
      · rw [last]
        simp only [List.cons_append, List.nil_append]
        rw [literalLines?_quotes, closing_two]
      · have counted : longestRun '\'' 1 text ≤ 2 := by simpa [longestRun] using runs
        have single := not_pair_prefix_append counted ended last ('\'' :: '\'' :: '\'' :: rest)
        rw [List.cons_append, literalLines?_quote single, rest_read, prepend_some]
    · have first := plain c List.mem_cons_self
      rw [List.cons_append, literalLines?.eq_def (c :: _)]
      simp only [mark, if_false, first, if_true, rest_read, prepend_some]

def Quoting.Holds (text : List Char) : Quoting → Prop
  | .basic | .basicLines => True
  | .literal => text ≠ [] ∧ (∀ c ∈ text, isPlain c = true) ∧ '\'' ∉ text
  | .literalLines => (∀ c ∈ text, c = '\n' ∨ isPlain c = true) ∧ longestRun '\'' 0 text ≤ 2

theorem Quoting.choose_holds (text : List Char) : (choose text).Holds text := by
  have printable (plain : text.any needsEscape = false) :
      ∀ c ∈ text, c = '\n' ∨ isPlain c = true := by
    intro c member
    rw [List.any_eq_false] at plain
    exact isPlain_of_needsEscape (Bool.eq_false_iff.mpr (plain c member))
  unfold choose
  extract_lets escapes backslash newline
  split
  · trivial
  split
  · rename_i not_basic literal
    simp only [Bool.and_eq_true, Bool.not_eq_true', beq_iff_eq] at literal
    obtain ⟨⟨plain, one_line⟩, unquoted⟩ := literal
    refine ⟨?_, fun c member => ?_, not_mem_of_longestRun unquoted⟩
    · rintro rfl
      exact not_basic rfl
    · refine (printable plain c member).resolve_left ?_
      rintro rfl
      exact absurd one_line (by simpa [newline] using member)
  split
  · trivial
  split
  · rename_i lines
    simp only [Bool.and_eq_true, Bool.not_eq_true', decide_eq_true_eq] at lines
    exact ⟨printable lines.1, lines.2⟩
  split
  · trivial
  · trivial

theorem quoted?_basic {rest : List Char} (single : ¬ ['"', '"'] <+: rest) :
    quoted? ('"' :: rest) = (basicText? rest).map (Prod.map String.ofList id) := by
  unfold quoted?
  split
  · rename_i same
    cases same
    exact absurd ⟨_, rfl⟩ single
  · rename_i same
    cases same
    rfl
  · rename_i same
    cases same
  · rename_i same
    cases same
  · rename_i other _ _
    exact absurd rfl (other _)

theorem quoted?_literal {rest : List Char} (single : ¬ ['\'', '\''] <+: rest) :
    quoted? ('\'' :: rest) = (literalText? rest).map (Prod.map String.ofList id) := by
  unfold quoted?
  split
  · rename_i same
    cases same
  · rename_i same
    cases same
  · rename_i same
    cases same
    exact absurd ⟨_, rfl⟩ single
  · rename_i same
    cases same
    rfl
  · rename_i _ _ other
    exact absurd rfl (other _)

theorem afterOpening_of_ne {c : Char} (other : c ≠ '\n') (rest : List Char) :
    afterOpening (c :: rest) = c :: rest := by
  unfold afterOpening
  split
  · rename_i same
    cases same
    exact absurd rfl other
  · rfl

theorem afterOpening_append {text body : List Char} (one_line : '\n' ∉ text → '\n' ∉ body)
    {quote : Char} (mark : quote ≠ '\n') (rest : List Char) :
    afterOpening ((if text.contains '\n' then ['\n'] else []) ++ (body ++ quote :: rest)) =
      body ++ quote :: rest := by
  by_cases newline : '\n' ∈ text
  · simp [newline, afterOpening]
  · simp only [List.contains_iff_mem, newline, if_false, List.nil_append]
    match body, one_line newline with
    | [], _ => exact afterOpening_of_ne mark rest
    | c :: body, unbroken =>
      have other : c ≠ '\n' := fun same => unbroken (same ▸ List.mem_cons_self)
      exact afterOpening_of_ne other (body ++ quote :: rest)

/-- Text in quotes of a kind that can hold it reads back, unless further quotes follow it. -/
theorem quoted?_quoteAs {quoting : Quoting} {text : List Char} (holds : quoting.Holds text)
    {rest : List Char} (boundary : ∀ c ∈ rest.head?, c ≠ '"' ∧ c ≠ '\'') :
    quoted? (quoteAs quoting text ++ rest) = some (String.ofList text, rest) := by
  have after_double : ∀ c ∈ rest.head?, c ≠ '"' := fun c first => (boundary c first).1
  have after_single : ∀ c ∈ rest.head?, c ≠ '\'' := fun c first => (boundary c first).2
  cases quoting with
  | basic =>
    have single : ¬ ['"', '"'] <+: escape false 0 text ++ '"' :: rest := by
      by_cases blank : text = []
      · subst blank
        rintro ⟨_, same⟩
        have follows : rest.head? = some '"' := by
          simp only [escape, List.nil_append, List.cons_append, List.cons.injEq, true_and] at same
          rw [← same]
          rfl
        exact after_double '"' follows rfl
      · obtain ⟨first, more, written, other⟩ :=
          escape_eq_cons false blank (Nat.lt_irrefl 0)
        simp [written, other.symm]
    show quoted? ('"' :: (escape false 0 text ++ ['"']) ++ rest) = _
    rw [List.cons_append, List.append_assoc, List.singleton_append, quoted?_basic single,
      basicText?_escape]
    rfl
  | literal =>
    obtain ⟨filled, plain, unmarked⟩ := holds
    have single : ¬ ['\'', '\''] <+: text ++ '\'' :: rest := by
      obtain ⟨c, text, rfl⟩ := List.exists_cons_of_ne_nil filled
      simp only [List.mem_cons, not_or] at unmarked
      simp [unmarked.1]
    show quoted? ('\'' :: (text ++ ['\'']) ++ rest) = _
    rw [List.cons_append, List.append_assoc, List.singleton_append, quoted?_literal single,
      literalText?_append plain unmarked]
    rfl
  | basicLines =>
    have one_line (unbroken : '\n' ∉ text) : '\n' ∉ escape true 0 text := by
      intro member
      rcases mem_escape member with ⟨-, newline⟩ | printable
      · exact unbroken newline
      · exact absurd printable (by decide)
    have written : quoteAs .basicLines text ++ rest = '"' :: '"' :: '"' ::
        ((if text.contains '\n' then ['\n'] else []) ++
          (escape true 0 text ++ '"' :: '"' :: '"' :: rest)) := by
      simp [quoteAs, Quoting.delimiter]
    rw [written]
    show (basicLines? .none (afterOpening _)).map _ = _
    rw [afterOpening_append one_line (by decide), basicLines?_escape text 0 after_double]
    rfl
  | literalLines =>
    have written : quoteAs .literalLines text ++ rest = '\'' :: '\'' :: '\'' ::
        ((if text.contains '\n' then ['\n'] else []) ++ (text ++ '\'' :: '\'' :: '\'' :: rest)) := by
      simp [quoteAs, Quoting.delimiter]
    rw [written]
    show (literalLines? (afterOpening _)).map _ = _
    rw [afterOpening_append id (by decide), literalLines?_append holds.1 holds.2 after_single]
    rfl

theorem quoted?_quote (text : String) {rest : List Char}
    (boundary : ∀ c ∈ rest.head?, c ≠ '"' ∧ c ≠ '\'') :
    quoted? (quote text ++ rest) = some (text, rest) := by
  rw [quote, quoted?_quoteAs (Quoting.choose_holds text.toList) boundary, String.ofList_toList]

theorem quote_eq_cons (text : String) :
    ∃ mark rest, quote text = mark :: rest ∧ (mark = '"' ∨ mark = '\'') := by
  unfold quote quoteAs
  cases Quoting.choose text.toList with
  | basic | basicLines => exact ⟨'"', _, rfl, .inl rfl⟩
  | literal | literalLines => exact ⟨'\'', _, rfl, .inr rfl⟩

theorem return_not_mem_quoteAs {quoting : Quoting} {text : List Char} (holds : quoting.Holds text) :
    '\r' ∉ quoteAs quoting text := by
  have escaped (severalLines : Bool) : '\r' ∉ escape severalLines 0 text := by
    intro member
    rcases mem_escape member with ⟨newline, -⟩ | printable
    · exact absurd newline (by decide)
    · exact absurd printable (by decide)
  have opening : '\r' ∉ if text.contains '\n' then ['\n'] else [] := by
    split <;> decide
  cases quoting with
  | basic => simp [quoteAs, Quoting.delimiter, escaped]
  | basicLines => simp [quoteAs, Quoting.delimiter, escaped]
  | literal =>
    have plain : '\r' ∉ text := fun member => absurd (holds.2.1 '\r' member) (by decide)
    simp [quoteAs, Quoting.delimiter, plain]
  | literalLines =>
    have plain : '\r' ∉ text := fun member => absurd (holds.1 '\r' member) (by decide)
    simp [quoteAs, Quoting.delimiter, plain]

end FrontEnd.Toml
