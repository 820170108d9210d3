import FrontEnd.Toml.Printer
import FrontEnd.Toml.Text

namespace FrontEnd

namespace Toml

open Text (Reader prepend prepend_some)

theorem codePoint?_upper {c : Char} (small : c.toNat < 256) :
    codePoint? ['0', '0', Hexadecimal.upper (c.toNat / 16), Hexadecimal.upper (c.toNat % 16)] =
      some c := by
  have number := Hexadecimal.number?_digits (.inr rfl) small
  have valid : c.toNat.isValidChar := c.valid
  rw [codePoint?, Hexadecimal.upper, number, Option.bind_some, if_pos valid, Char.ofNat_toNat]

theorem toNat_lt_of_needsEscape {c : Char} (control : needsEscape c = true) : c.toNat < 256 := by
  simp only [needsEscape, Bool.or_eq_true, Bool.and_eq_true, decide_eq_true_eq, beq_iff_eq] at control
  rcases control with ⟨⟨below, -⟩, -⟩ | rfl
  · have bound : c.toNat < ' '.toNat := below
    exact Nat.lt_trans bound (by decide)
  · decide

theorem isPlain_of_needsEscape {c : Char} (plain : needsEscape c = false) :
    c = '\n' ∨ isPlain c = true := by
  simp only [needsEscape, Bool.or_eq_false_iff, Bool.and_eq_false_iff, decide_eq_false_iff_not,
    bne_eq_false_iff_eq, beq_eq_false_iff_ne, Char.not_lt] at plain
  obtain ⟨(above | rfl) | rfl, deleted⟩ := plain
  · right
    simp [isPlain, above, deleted]
  · right
    decide
  · left
    rfl

/-- What readers of basic text on one line and over several lines have in common. -/
structure ReadsEscapes (severalLines : Bool) (read : Reader (List Char)) : Prop where
  letter : ∀ (letter : Char) {c}, escaped? letter = some c → ∀ rest,
    read ('\\' :: letter :: rest) = prepend (some c) (read rest)
  number : ∀ d₁ d₂ d₃ d₄ rest,
    read ('\\' :: 'u' :: d₁ :: d₂ :: d₃ :: d₄ :: rest) = prepend (codePoint? [d₁, d₂, d₃, d₄]) (read rest)
  plain : ∀ {c}, c ≠ '"' → c ≠ '\\' → isPlain c = true → ∀ rest,
    read (c :: rest) = prepend (some c) (read rest)
  newline : severalLines = true → ∀ rest, read ('\n' :: rest) = prepend (some '\n') (read rest)

theorem readsEscapes_basicText? : ReadsEscapes false basicText? where
  letter letter _ known rest := by
    rw [basicText?.eq_def ('\\' :: letter :: rest)]
    unfold escaped? at known
    split at known <;> cases known <;> rfl
  number _ _ _ _ _ := by rw [basicText?, if_neg (by decide), if_pos rfl]
  plain {c} mark backslash plain rest := by
    rw [basicText?.eq_def (c :: rest)]
    simp only [mark, backslash, plain, if_false, if_true]
  newline several := nomatch several

theorem readsEscapes_basicLines? : ReadsEscapes true (basicLines? .none) where
  letter letter _ known rest := by
    rw [basicLines?.eq_def _ ('\\' :: letter :: rest)]
    unfold escaped? at known
    split at known <;> cases known <;> rfl
  number d₁ d₂ d₃ d₄ rest := by
    rw [basicLines?.eq_def _ ('\\' :: 'u' :: d₁ :: d₂ :: d₃ :: d₄ :: rest)]
    rfl
  plain {c} mark backslash plain rest := by
    rw [basicLines?.eq_def _ (c :: rest)]
    simp [mark, backslash, plain]
  newline _ rest := by
    rw [basicLines?.eq_def _ ('\n' :: rest)]
    rfl

theorem ReadsEscapes.escapeChar {severalLines : Bool} {read : Reader (List Char)}
    (reads : ReadsEscapes severalLines read) {c : Char} (mark : c ≠ '"') (rest : List Char) :
    read (escapeChar severalLines c ++ rest) = prepend (some c) (read rest) := by
  unfold Toml.escapeChar
  split
  · subst c
    exact reads.letter _ rfl rest
  split
  · subst c
    exact reads.letter _ rfl rest
  split
  · subst c
    split
    · exact reads.newline ‹_› rest
    · exact reads.letter _ rfl rest
  split
  · subst c
    exact reads.letter _ rfl rest
  split
  · subst c
    exact reads.letter _ rfl rest
  split
  · subst c
    exact reads.letter _ rfl rest
  split
  · rename_i control
    have number := reads.number '0' '0' (Hexadecimal.upper (c.toNat / 16))
      (Hexadecimal.upper (c.toNat % 16)) rest
    rwa [codePoint?_upper (toNat_lt_of_needsEscape control)] at number
  · rename_i newline _ _ backslash printable
    rcases isPlain_of_needsEscape (Bool.eq_false_iff.mpr printable) with rfl | plain
    · exact absurd rfl newline
    · exact reads.plain mark backslash plain rest

theorem basicText?_escape (text : List Char) (run : Nat) (rest : List Char) :
    basicText? (escape false run text ++ '"' :: rest) = some (text, rest) := by
  induction text generalizing run with
  | nil =>
    rw [escape, List.nil_append, basicText?.eq_def]
    rfl
  | cons c text ih =>
    by_cases mark : c = '"'
    · subst c
      have quote := readsEscapes_basicText?.letter '"' rfl
        (escape false 0 text ++ '"' :: rest)
      simp only [escape, if_true, Bool.false_eq_true, if_false, Nat.not_lt_zero, List.cons_append]
      rw [quote, ih 0, prepend_some]
    · have first := readsEscapes_basicText?.escapeChar mark (escape false 0 text ++ '"' :: rest)
      simp only [escape, mark, if_false, List.append_assoc]
      rw [first, ih 0, prepend_some]

theorem closing_none {quote : Char} {rest : List Char} (boundary : ∀ c ∈ rest.head?, c ≠ quote) :
    closing quote rest = some ([], rest) := by
  match rest with
  | [] => rfl
  | [c] => simp [closing, boundary c rfl]
  | c :: _ :: _ => simp [closing, boundary c rfl]

theorem closing_one {quote : Char} {rest : List Char} (boundary : ∀ c ∈ rest.head?, c ≠ quote) :
    closing quote (quote :: rest) = some ([quote], rest) := by
  match rest with
  | [] => simp [closing]
  | c :: _ => simp [closing, boundary c rfl]

theorem closing_two (quote : Char) (rest : List Char) :
    closing quote (quote :: quote :: rest) = some ([quote, quote], rest) := by
  simp [closing]

theorem basicLines?_quote {rest : List Char} (single : ¬ ['"', '"'] <+: rest) :
    basicLines? .none ('"' :: rest) = prepend (some '"') (basicLines? .none rest) := by
  rw [basicLines?.eq_def _ ('"' :: rest)]
  simp only [reduceCtorEq, if_false, false_and, if_true]
  split
  · exact absurd ⟨_, rfl⟩ single
  · rfl

theorem basicLines?_quotes (rest : List Char) :
    basicLines? .none ('"' :: '"' :: '"' :: rest) = closing '"' rest := by
  rw [basicLines?.eq_def _ ('"' :: _)]
  rfl

theorem escapeChar_eq_cons (severalLines : Bool) {c : Char} (mark : c ≠ '"') :
    ∃ first more, escapeChar severalLines c = first :: more ∧ first ≠ '"' := by
  unfold escapeChar
  repeat' split
  all_goals exact ⟨_, _, rfl, by first | decide | exact mark⟩

theorem escape_eq_cons (severalLines : Bool) {text : List Char} (filled : text ≠ []) {run : Nat}
    (full : ¬ run < if severalLines then 2 else 0) :
    ∃ first more, escape severalLines run text = first :: more ∧ first ≠ '"' := by
  obtain ⟨c, text, rfl⟩ := List.exists_cons_of_ne_nil filled
  by_cases mark : c = '"'
  · refine ⟨'\\', '"' :: escape severalLines 0 text, ?_, by decide⟩
    simp only [escape, mark, if_true, full, if_false]
  · obtain ⟨first, more, written, other⟩ := escapeChar_eq_cons severalLines mark
    exact ⟨first, more ++ escape severalLines 0 text, by simp [escape, mark, written], other⟩

theorem not_pair_prefix_escape {text : List Char} (run : Nat) (after : 1 ≤ run) (filled : text ≠ [])
    (more_than_quote : text = ['"'] → 2 ≤ run) (rest : List Char) :
    ¬ ['"', '"'] <+: escape true run text ++ rest := by
  by_cases full : 2 ≤ run
  · obtain ⟨first, more, written, other⟩ :=
      escape_eq_cons true filled (Nat.not_lt.mpr full)
    simp [written, other.symm]
  · have one : run = 1 := by omega
    subst one
    obtain ⟨c, text, rfl⟩ := List.exists_cons_of_ne_nil filled
    by_cases mark : c = '"'
    · subst c
      have later : text ≠ [] := by
        rintro rfl
        exact full (more_than_quote rfl)
      obtain ⟨first, more, written, other⟩ :=
        escape_eq_cons true later (Nat.lt_irrefl 2)
      simp [escape, written, other.symm]
    · obtain ⟨first, more, written, other⟩ := escapeChar_eq_cons true mark
      simp [escape, mark, written, other.symm]

theorem basicLines?_escape (text : List Char) (run : Nat) {rest : List Char}
    (boundary : ∀ c ∈ rest.head?, c ≠ '"') :
    basicLines? .none (escape true run text ++ '"' :: '"' :: '"' :: rest) = some (text, rest) := by
  induction text generalizing run with
  | nil => rw [escape, List.nil_append, basicLines?_quotes, closing_none boundary]
  | cons c text ih =>
    by_cases mark : c = '"'
    · subst c
      -- A bare quote may be the last one, the last but one, or stand before other text.
      by_cases bare : run < 2
      · have written : escape true run ('"' :: text) = '"' :: escape true (run + 1) text := by
          simp [escape, bare]
        rw [written, List.cons_append]
        by_cases ended : text = []
        · rw [ended, escape, List.nil_append, basicLines?_quotes, closing_one boundary]
        by_cases last : text = ['"'] ∧ run = 0
        · obtain ⟨rfl, rfl⟩ := last
          simp only [escape, Nat.reduceLT, Nat.reduceAdd, if_true, List.cons_append, List.nil_append]
          rw [basicLines?_quotes, closing_two]
        · have single := not_pair_prefix_escape (run + 1) (by omega) ended
            (fun quote => Nat.succ_le_succ (Nat.pos_of_ne_zero fun start => last ⟨quote, start⟩))
            ('"' :: '"' :: '"' :: rest)
          rw [basicLines?_quote single, ih, prepend_some]
      · have quote := readsEscapes_basicLines?.letter '"' rfl
          (escape true 0 text ++ '"' :: '"' :: '"' :: rest)
        simp only [escape, if_true, bare, if_false, List.cons_append]
        rw [quote, ih, prepend_some]
    · have first := readsEscapes_basicLines?.escapeChar mark
        (escape true 0 text ++ '"' :: '"' :: '"' :: rest)
      simp only [escape, mark, if_false, List.append_assoc]
      rw [first, ih, prepend_some]

theorem upper_printable {n : Nat} (small : n < 16) : ' ' ≤ Hexadecimal.upper n := by
  revert n
  decide

theorem mem_escapeChar {severalLines : Bool} {c d : Char} (member : d ∈ escapeChar severalLines c) :
    d = '\n' ∧ c = '\n' ∨ ' ' ≤ d := by
  have two {letter : Char} (shown : ' ' ≤ letter) (member : d ∈ ['\\', letter]) : ' ' ≤ d := by
    rcases List.mem_cons.mp member with rfl | member
    · decide
    · exact List.mem_singleton.mp member ▸ shown
  unfold escapeChar at member
  split at member
  · exact .inr (two (by decide) member)
  split at member
  · exact .inr (two (by decide) member)
  split at member
  · rename_i newline
    split at member
    · exact .inl ⟨List.mem_singleton.mp member, newline⟩
    · exact .inr (two (by decide) member)
  split at member
  · exact .inr (two (by decide) member)
  split at member
  · exact .inr (two (by decide) member)
  split at member
  · exact .inr (two (by decide) member)
  split at member
  · rename_i control
    have bound := toNat_lt_of_needsEscape control
    simp only [List.mem_cons, List.not_mem_nil, or_false] at member
    right
    rcases member with rfl | rfl | rfl | rfl | rfl | rfl
    · decide
    · decide
    · decide
    · decide
    · exact upper_printable (by omega)
    · exact upper_printable (by omega)
  · rename_i tab newline _ _ _ plain
    obtain rfl := List.mem_singleton.mp member
    right
    rcases isPlain_of_needsEscape (Bool.eq_false_iff.mpr plain) with rfl | printable
    · exact absurd rfl newline
    · simp only [isPlain, Bool.or_eq_true, beq_iff_eq, Bool.and_eq_true, decide_eq_true_eq] at printable
      exact (printable.resolve_left tab).1

theorem mem_escape {severalLines : Bool} {text : List Char} {run : Nat} {c : Char}
    (member : c ∈ escape severalLines run text) : c = '\n' ∧ '\n' ∈ text ∨ ' ' ≤ c := by
  induction text generalizing run with
  | nil => simp [escape] at member
  | cons d text ih =>
    have later {run : Nat} (member : c ∈ escape severalLines run text) :
        c = '\n' ∧ '\n' ∈ d :: text ∨ ' ' ≤ c :=
      (ih member).imp_left fun found => ⟨found.1, List.mem_cons_of_mem _ found.2⟩
    by_cases mark : d = '"'
    · by_cases bare : run < if severalLines then 2 else 0
      · simp only [escape, mark, if_true, bare, List.mem_cons] at member
        rcases member with rfl | member
        · exact .inr (by decide)
        · exact later member
      · simp only [escape, mark, if_true, bare, if_false, List.mem_cons] at member
        rcases member with rfl | rfl | member
        · exact .inr (by decide)
        · exact .inr (by decide)
        · exact later member
    · simp only [escape, mark, if_false, List.mem_append] at member
      rcases member with member | member
      · exact (mem_escapeChar member).imp_left fun ⟨same, newline⟩ =>
          ⟨same, newline ▸ List.mem_cons_self⟩
      · exact later member

end Toml

end FrontEnd
