import FrontEnd.Proofs.Toml.Settings

namespace FrontEnd.Toml

structure BareKey (key : String) : Prop where
  filled : key.toList ≠ []
  bare : key.toList.all isBare = true

instance (key : String) : Decidable (BareKey key) :=
  decidable_of_iff (key.toList ≠ [] ∧ key.toList.all isBare = true)
    ⟨fun ⟨filled, bare⟩ => ⟨filled, bare⟩, fun ⟨filled, bare⟩ => ⟨filled, bare⟩⟩

theorem BareKey.isBare_of_mem {key : String} (bare : BareKey key) {c : Char} (member : c ∈ key.toList) :
    isBare c = true :=
  List.all_eq_true.mp bare.bare c member

theorem BareKey.eq_cons {key : String} (bare : BareKey key) :
    ∃ c more, key.toList = c :: more ∧ isBare c = true := by
  obtain ⟨c, more, written⟩ := List.exists_cons_of_ne_nil bare.filled
  exact ⟨c, more, written, bare.isBare_of_mem (written ▸ List.mem_cons_self)⟩

theorem ne_of_isBare {c d : Char} (bare : isBare c = true) (other : isBare d = false) : c ≠ d := by
  rintro rfl
  rw [bare] at other
  cases other

theorem dropBlanks_bare {c : Char} (bare : isBare c = true) (rest : List Char) :
    dropBlanks (c :: rest) = c :: rest := by
  have space : c ≠ ' ' := ne_of_isBare bare (by decide)
  have tab : c ≠ '\t' := ne_of_isBare bare (by decide)
  simp [dropBlanks, space, tab]

theorem keyPart?_bare {key : String} (bare : BareKey key) {rest : List Char}
    (boundary : ∀ c ∈ rest.head?, isBare c = false) :
    keyPart? (key.toList ++ rest) = some (key, rest) := by
  have part : (key.toList ++ rest).takeWhile isBare = key.toList :=
    Text.takeWhile_run (fun _ => bare.isBare_of_mem) boundary
  have left : (key.toList ++ rest).dropWhile isBare = rest :=
    Text.dropWhile_run (fun _ => bare.isBare_of_mem) boundary
  obtain ⟨c, more, written, first⟩ := bare.eq_cons
  have double : c ≠ '"' := ne_of_isBare first (by decide)
  have single : c ≠ '\'' := ne_of_isBare first (by decide)
  unfold keyPart?
  split
  · rename_i same
    rw [written] at same
    cases same
    exact absurd rfl double
  · rename_i same
    rw [written] at same
    cases same
    exact absurd rfl single
  · rw [part, left]
    split
    · rename_i empty
      exact absurd empty bare.filled
    · rw [String.ofList_toList]

theorem key?_bare (parts : Nat) {key : String} (bare : BareKey key) (rest : List Char)
    (boundary : ∀ c ∈ rest.head?, isBare c = false) (last : ∀ c ∈ (dropBlanks rest).head?, c ≠ '.') :
    key? (parts + 1) (key.toList ++ rest) = some ([key], dropBlanks rest) := by
  have part := keyPart?_bare bare boundary
  obtain ⟨c, more, written, first⟩ := bare.eq_cons
  rw [written, List.cons_append] at part ⊢
  rw [key?, dropBlanks_bare first, part]
  simp only [Option.bind_eq_bind, Option.bind_some]
  split
  · rename_i dot
    exact absurd rfl (last '.' (by rw [dot]; rfl))
  · rfl

theorem maxDepth_eq_succ : ∃ depth, maxDepth = depth + 1 :=
  ⟨_, rfl⟩

theorem pair?_renderPair {key : String} (bare : BareKey key) (setting : Setting) (rest : List Char) :
    pair? (value? maxDepth) (renderPair (key, setting) ++ rest) = some (([key], setting.value), '\n' :: rest) := by
  have written : renderPair (key, setting) ++ rest =
      key.toList ++ (' ' :: '=' :: ' ' :: (setting.render ++ '\n' :: rest)) := by
    simp [renderPair]
  obtain ⟨depth, deep⟩ := maxDepth_eq_succ
  have read_value := value?_render depth setting ('\n' :: rest) (by simp)
  have blank := dropBlanks_render setting ('\n' :: rest)
  generalize setting.render ++ '\n' :: rest = text at written read_value blank
  have read_key := key?_bare depth bare (' ' :: '=' :: ' ' :: text) (by simp; decide) (by simp [dropBlanks])
  have sign : exactly? '=' (dropBlanks (' ' :: '=' :: ' ' :: text)) = some (' ' :: text) := rfl
  have start : dropBlanks (' ' :: text) = text := blank
  simp only [written, pair?, deep, read_key, Option.bind_eq_bind, Option.bind_some, sign, start, read_value,
    Option.pure_def]

theorem renderPair_eq_cons {pair : String × Setting} (bare : BareKey pair.1) :
    ∃ c more, renderPair pair = c :: more ∧ isBare c = true := by
  obtain ⟨c, more, written, first⟩ := bare.eq_cons
  exact ⟨c, more ++ " = ".toList ++ pair.2.render ++ ['\n'], by simp [renderPair, written], first⟩

theorem statement?_renderPair {pair : String × Setting} (bare : BareKey pair.1) (rest : List Char) :
    statement? (renderPair pair ++ rest) = some (.pair [pair.1] pair.2.value, rest) := by
  have read := pair?_renderPair bare pair.2 rest
  obtain ⟨c, more, written, first⟩ := renderPair_eq_cons bare
  have bracket : c ≠ '[' := ne_of_isBare first (by decide)
  rw [written, List.cons_append] at read ⊢
  unfold statement?
  split
  · rename_i same
    exact absurd (List.cons.inj same).1 bracket
  · rename_i same
    exact absurd (List.cons.inj same).1 bracket
  · rw [read]
    rfl

theorem statement?_header {name : String} (bare : BareKey name) (rest : List Char) :
    statement? ('[' :: (name.toList ++ ']' :: '\n' :: rest)) = some (.table [name], rest) := by
  obtain ⟨depth, deep⟩ := maxDepth_eq_succ
  have read := key?_bare depth bare (']' :: '\n' :: rest) (by simp; decide) (by simp [dropBlanks])
  obtain ⟨c, more, written, first⟩ := bare.eq_cons
  have bracket : c ≠ '[' := ne_of_isBare first (by decide)
  unfold statement?
  split
  · rename_i same
    rw [written] at same
    cases same
    exact absurd rfl bracket
  · rename_i same
    cases same
    rw [deep, read]
    rfl
  · rename_i other
    exact absurd rfl (other _)

/-- A text reads as statements under every bound on its lines that its length keeps. -/
def Reads (text : List Char) (statements : List Statement) : Prop :=
  ∀ lines, text.length < lines → statements? lines text = some statements

theorem Reads.nil : Reads [] [] := by
  intro lines enough
  obtain ⟨lines, rfl⟩ := Nat.exists_eq_succ_of_ne_zero (Nat.ne_zero_of_lt enough)
  rfl

theorem Reads.newline {text : List Char} {statements : List Statement} (read : Reads text statements) :
    Reads ('\n' :: text) statements := by
  intro lines enough
  obtain ⟨lines, rfl⟩ := Nat.exists_eq_succ_of_ne_zero (Nat.ne_zero_of_lt enough)
  exact read lines (Nat.lt_of_succ_lt_succ enough)

theorem Reads.cons {line rest : List Char} {statement : Statement} {statements : List Statement}
    (start : ∀ c ∈ line.head?, isBare c = true ∨ c = '[') (filled : line ≠ [])
    (first : statement? (line ++ rest) = some (statement, rest)) (read : Reads rest statements) :
    Reads (line ++ rest) (statement :: statements) := by
  obtain ⟨c, line, rfl⟩ := List.exists_cons_of_ne_nil filled
  -- The line is no blank, line end or comment, so the reader takes a statement off it.
  have other {d : Char} (blank : isBare d = false) (bracket : d ≠ '[') : c ≠ d := by
    rcases start c rfl with bare | rfl
    · exact ne_of_isBare bare blank
    · exact bracket.symm
  have space := other (d := ' ') (by decide) (by decide)
  have tab := other (d := '\t') (by decide) (by decide)
  have newline := other (d := '\n') (by decide) (by decide)
  have comment := other (d := '#') (by decide) (by decide)
  have start : dropBlanks (c :: line ++ rest) = c :: line ++ rest := by
    simp [dropBlanks, space, tab]
  intro lines enough
  obtain ⟨lines, rfl⟩ := Nat.exists_eq_succ_of_ne_zero (Nat.ne_zero_of_lt enough)
  have later := read lines (by simp at enough; omega)
  rw [statements?, start]
  split
  · rename_i same
    cases same
  · rename_i same
    cases same
    exact absurd rfl newline
  · rename_i same
    cases same
    exact absurd rfl comment
  · simp only [first, Option.bind_eq_bind, Option.bind_some, later, Option.pure_def]

def sectionStatements (contents : String × List (String × Setting)) : List Statement :=
  .table [contents.1] :: contents.2.map fun pair => .pair [pair.1] pair.2.value

theorem Reads.pairs {pairs : List (String × Setting)} (bare : ∀ pair ∈ pairs, BareKey pair.1)
    {rest : List Char} {statements : List Statement} (read : Reads rest statements) :
    Reads (pairs.flatMap renderPair ++ rest)
      ((pairs.map fun pair => .pair [pair.1] pair.2.value) ++ statements) := by
  induction pairs with
  | nil => exact read
  | cons pair pairs ih =>
    have later := ih fun other member => bare other (List.mem_cons_of_mem _ member)
    have key := bare pair List.mem_cons_self
    obtain ⟨c, more, written, first⟩ := renderPair_eq_cons key
    rw [List.flatMap_cons, List.append_assoc]
    refine .cons ?_ ?_ (statement?_renderPair key _) later
    · simp [written, first]
    · simp [written]

theorem Reads.contents {contents : String × List (String × Setting)} (name : BareKey contents.1)
    (keys : ∀ pair ∈ contents.2, BareKey pair.1) {rest : List Char} {statements : List Statement}
    (read : Reads rest statements) :
    Reads (renderSection contents ++ rest) (sectionStatements contents ++ statements) := by
  have header := statement?_header name (contents.2.flatMap renderPair ++ rest)
  have written : renderSection contents ++ rest = ('[' :: contents.1.toList ++ [']', '\n']) ++
      (contents.2.flatMap renderPair ++ rest) := by
    simp [renderSection]
  rw [written]
  refine .cons ?_ ?_ ?_ (Reads.pairs keys read)
  · simp
  · simp
  · simpa using header

theorem Reads.document {sections : List (String × List (String × Setting))}
    (names : ∀ contents ∈ sections, BareKey contents.1)
    (keys : ∀ contents ∈ sections, ∀ pair ∈ contents.2, BareKey pair.1) :
    Reads (['\n'].intercalate (sections.map renderSection)) (sections.flatMap sectionStatements) := by
  induction sections with
  | nil => exact .nil
  | cons contents sections ih =>
    have later := ih (fun other member => names other (List.mem_cons_of_mem _ member))
      (fun other member => keys other (List.mem_cons_of_mem _ member))
    have name := names contents List.mem_cons_self
    have pairs := keys contents List.mem_cons_self
    rw [List.map_cons, List.flatMap_cons]
    cases sections with
    | nil => simpa using Reads.contents name pairs .nil
    | cons next sections =>
      rw [List.map_cons, List.intercalate_cons_of_ne_nil (by simp), List.append_assoc]
      exact .contents name pairs later.newline

end FrontEnd.Toml
