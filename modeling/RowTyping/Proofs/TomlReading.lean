import RowTyping.Toml.Document
import RowTyping.Toml.Printer

namespace RowTyping.Toml

namespace Reader

variable {input middle rest : List Char} {accept : Char → Bool} {c d : Char}

/-! What the parts of a reader do to a text. -/

theorem bind_some {reader : Reader α} {next : α → Reader β}
    (read : reader input = some (answer, rest)) : (reader >>= next) input = next answer rest := by
  simp only [bind, StateT.bind, read, Option.bind_some]

private theorem bind_none {reader : Reader α} {next : α → Reader β} (failed : reader input = none) :
    (reader >>= next) input = none := by
  simp only [bind, StateT.bind, failed, Option.bind_none]

private theorem map_some {reader : Reader α} (f : α → β)
    (read : reader input = some (answer, rest)) :
    (f <$> reader) input = some (f answer, rest) := by
  simp [Functor.map, StateT.map, read]

private theorem map_none {reader : Reader α} (f : α → β) (failed : reader input = none) :
    (f <$> reader) input = none := by
  simp [Functor.map, StateT.map, failed]

private theorem orElse_some {first second : Reader α} (read : first input = some outcome) :
    (first <|> second) input = some outcome := by
  simp [HOrElse.hOrElse, OrElse.orElse, Alternative.orElse, StateT.orElse, read]

private theorem orElse_none {first second : Reader α} (failed : first input = none) :
    (first <|> second) input = second input := by
  simp [HOrElse.hOrElse, OrElse.orElse, Alternative.orElse, StateT.orElse, failed]

private theorem attempt_some {reader : Reader α} (read : reader input = some (answer, rest)) :
    attempt reader input = some (some answer, rest) := by
  simp only [attempt, read]

private theorem attempt_none {reader : Reader α} (failed : reader input = none) :
    attempt reader input = some (none, input) := by
  simp only [attempt, failed]

private theorem next_some (accepted : accept c) : next accept (c :: rest) = some (c, rest) :=
  if_pos accepted

private theorem next_none (other : accept c = false) : next accept (c :: rest) = none :=
  if_neg (by simp [other])

private theorem char_same (c : Char) (rest : List Char) : char c (c :: rest) = some ((), rest) :=
  bind_some (next_some (beq_self_eq_true c))

private theorem char_other (different : d ≠ c) (rest : List Char) : char c (d :: rest) = none :=
  bind_none (next_none (beq_eq_false_iff_ne.mpr different))

private theorem text_other {expected : String} (starts : expected.toList = c :: more)
    (different : d ≠ c) (rest : List Char) : text expected (d :: rest) = none := by
  have mismatch : (c :: more).isPrefixOf? (d :: rest) = none :=
    if_neg (by simp [different.symm])
  rw [text, starts, mismatch]
  rfl

/-- A text that ends or goes on with a character outside a class. -/
def Stops (accept : Char → Bool) : List Char → Prop
  | [] => True
  | c :: _ => accept c = false

theorem run_append (word : List Char) (accepted : ∀ c ∈ word, accept c)
    (stops : Stops accept rest) : run accept (word ++ rest) = some (word, rest) := by
  have none : rest.takeWhile accept = [] ∧ rest.dropWhile accept = rest := by
    cases rest with
    | nil => exact ⟨rfl, rfl⟩
    | cons c rest =>
      have other : ¬ accept c := by simp [show accept c = false from stops]
      exact ⟨List.takeWhile_cons_of_neg other, List.dropWhile_cons_of_neg other⟩
  unfold run
  rw [List.takeWhile_append_of_pos accepted, List.dropWhile_append_of_pos accepted, none.1, none.2,
    List.append_nil]

/-- The items that stand one after the other until none follows. -/
inductive Repeats (item : Reader α) : List Char → List α → List Char → Prop
  | done {input : List Char} (failed : item input = none) : Repeats item input [] input
  | more {input middle rest : List Char} (read : item input = some (answer, middle))
    (shorter : middle.length < input.length) (later : Repeats item middle answers rest) :
    Repeats item input (answer :: answers) rest

theorem Repeats.upTo {item : Reader α} (repeats : Repeats item input answers rest)
    (enough : answers.length ≤ bound) : upTo item bound input = some (answers, rest) := by
  induction repeats generalizing bound with
  | done failed =>
    cases bound with
    | zero => rfl
    | succ bound =>
      rw [Reader.upTo, bind_some (attempt_none failed)]
      rfl
  | more read _ _ ih =>
    cases bound with
    | zero => cases enough
    | succ bound =>
      rw [Reader.upTo, bind_some (attempt_some read)]
      exact bind_some (ih (Nat.le_of_succ_le_succ enough))

theorem Repeats.length_le {item : Reader α} (repeats : Repeats item input answers rest) :
    answers.length ≤ input.length := by
  induction repeats with
  | done => exact Nat.zero_le _
  | more _ shorter _ ih => exact Nat.lt_of_le_of_lt ih shorter

theorem Repeats.many {item : Reader α} (repeats : Repeats item input answers rest) :
    many item input = some (answers, rest) :=
  repeats.upTo repeats.length_le

end Reader

open Reader

variable {input rest : List Char} {word : String}

/-- A character that stands for itself between quotes. -/
def isQuotable (c : Char) : Bool := isPlain c && c != '"' && c != '\\'

/-- A text that is written between quotes as it is. -/
structure Quotable (word : String) : Prop where
  nonempty : word ≠ ""
  letters : ∀ c ∈ word.toList, isQuotable c

theorem quoted_toList (word : String) (rest : List Char) :
    (quoted word).toList ++ rest = '"' :: (word.toList ++ '"' :: rest) := by
  simp [quoted]

/-! Texts in quotes. -/

private theorem basicChars_repeat {letters : List Char} (quotable : ∀ c ∈ letters, isQuotable c)
    (rest : List Char) : Repeats basicChar (letters ++ '"' :: rest) letters ('"' :: rest) := by
  induction letters with
  | nil => exact .done rfl
  | cons c letters ih =>
    have first : basicChar (c :: (letters ++ '"' :: rest)) = some (c, letters ++ '"' :: rest) :=
      orElse_some (next_some (quotable c List.mem_cons_self))
    have later := ih fun d member => quotable d (List.mem_cons_of_mem c member)
    exact .more first (by simp) later

private theorem basicString_quoted (quotable : Quotable word) (rest : List Char) :
    basicString ((quoted word).toList ++ rest) = some (word, rest) := by
  have content := (basicChars_repeat quotable.letters rest).many
  rw [quoted_toList, basicString, bind_some (char_same _ _), bind_some content,
    bind_some (char_same _ _), String.ofList_toList]
  rfl

/-- One quote does not open a text over several lines. -/
theorem multilineBasic_quoted (quotable : Quotable word) (rest : List Char) :
    multilineBasic ((quoted word).toList ++ rest) = none := by
  rw [quoted_toList, multilineBasic, multiline, bind_some (char_same _ _)]
  cases letters : word.toList with
  | nil => exact (quotable.nonempty (by simpa using letters)).elim
  | cons c letters' =>
    have plain := quotable.letters c (by simp [letters])
    have other : c ≠ '"' := by
      rintro rfl
      cases plain
    exact bind_none (char_other other _)

theorem string_quoted (quotable : Quotable word) (rest : List Char) :
    string ((quoted word).toList ++ rest) = some (word, rest) := by
  have literal : multilineLiteral ((quoted word).toList ++ rest) = none := by
    rw [quoted_toList]
    exact bind_none (char_other (by decide) _)
  rw [string, orElse_none (multilineBasic_quoted quotable rest), orElse_none literal]
  exact orElse_some (basicString_quoted quotable rest)

/-- A text in quotes is read back at any depth. -/
theorem value_quoted (depth : Nat) (quotable : Quotable word) (rest : List Char) :
    value depth ((quoted word).toList ++ rest) = some (.string word, rest) := by
  have read := map_some Value.string (string_quoted quotable rest)
  cases depth with
  | zero => exact orElse_some read
  | succ depth => exact orElse_some read

private theorem string_other {c : Char} (notBasic : c ≠ '"') (notLiteral : c ≠ '\'')
    (rest : List Char) :
    string (c :: rest) = none := by
  have multilineBasic : multilineBasic (c :: rest) = none := bind_none (char_other notBasic rest)
  have multilineLiteral : multilineLiteral (c :: rest) = none :=
    bind_none (char_other notLiteral rest)
  have basic : basicString (c :: rest) = none := bind_none (char_other notBasic rest)
  rw [string, orElse_none multilineBasic, orElse_none multilineLiteral, orElse_none basic]
  exact bind_none (char_other notLiteral rest)

/-! Truth values. -/

theorem bareValue_flag (flag : Bool) (rest : List Char) :
    bareValue ((flagText flag).toList ++ '\n' :: rest) = some (.boolean flag, '\n' :: rest) := by
  cases flag <;> rfl

theorem value_flag (depth : Nat) (flag : Bool) (rest : List Char) :
    value (depth + 1) ((flagText flag).toList ++ '\n' :: rest) =
      some (.boolean flag, '\n' :: rest) := by
  have notQuoted : (Value.string <$> string) ((flagText flag).toList ++ '\n' :: rest) = none := by
    apply map_none
    cases flag with
    | true => exact string_other (by decide) (by decide) _
    | false => exact string_other (by decide) (by decide) _
  rw [value, orElse_none notQuoted]
  exact orElse_some (bareValue_flag flag rest)

/-! Arrays of texts. -/

/-- The blanks and line feeds that the layout of an array puts between its items. -/
def isLayout (c : Char) : Bool := c == ' ' || c == '\n'

/-- One piece of a gap: a blank, a newline or a comment. -/
def gapPiece : Reader Unit := (do let _ ← next isLineBlank) <|> newline <|> comment

private theorem gapPiece_layout {c : Char} (layout : isLayout c) (rest : List Char) :
    gapPiece (c :: rest) = some ((), rest) := by
  have cases : c = ' ' ∨ c = '\n' := by simpa [isLayout] using layout
  rcases cases with rfl | rfl
  · rfl
  · rfl

private theorem gap_stops (stops : gapPiece rest = none) : gap rest = some ((), rest) :=
  bind_some (Repeats.done stops).many

private theorem gap_layout {pad : List Char} (layout : ∀ c ∈ pad, isLayout c)
    (stops : gapPiece rest = none) : gap (pad ++ rest) = some ((), rest) := by
  have pieces : ∃ units, Repeats gapPiece (pad ++ rest) units rest := by
    induction pad with
    | nil => exact ⟨[], .done stops⟩
    | cons c pad ih =>
      obtain ⟨units, later⟩ := ih fun d member => layout d (List.mem_cons_of_mem c member)
      have first := gapPiece_layout (layout c List.mem_cons_self) (pad ++ rest)
      exact ⟨() :: units, .more first (by simp) later⟩
  obtain ⟨units, repeats⟩ := pieces
  exact bind_some repeats.many

private theorem gapPiece_quoted (word : String) (rest : List Char) :
    gapPiece ((quoted word).toList ++ rest) = none := by
  rw [quoted_toList]
  rfl

private theorem close_quoted (word : String) (rest : List Char) :
    char ']' ((quoted word).toList ++ rest) = none := by
  rw [quoted_toList]
  exact char_other (by decide) _

/-- The characters of an array over several lines, after its opening bracket. -/
def spread (words : List String) (rest : List Char) : List Char :=
  '\n' :: ((words.flatMap fun word => ("    " ++ quoted word ++ ",\n").toList) ++ ']' :: rest)

private theorem spread_cons (word : String) (words : List String) (rest : List Char) :
    spread (word :: words) rest =
      "\n    ".toList ++ ((quoted word).toList ++ ',' :: spread words rest) := by
  simp [spread]

private theorem arrayItems_spread (depth : Nat) {words : List String}
    (quotable : ∀ word ∈ words, Quotable word) (rest : List Char) (enough : words.length < bound) :
    arrayItems (value depth) bound (spread words rest) = some (words.map .string, rest) := by
  induction words generalizing bound with
  | nil =>
    obtain ⟨bound, rfl⟩ := Nat.exists_eq_add_one_of_ne_zero (Nat.ne_of_gt enough)
    have lead : gap (['\n'] ++ ']' :: rest) = some ((), ']' :: rest) :=
      gap_layout (List.all_eq_true.mp rfl) rfl
    rw [arrayItems]
    refine (bind_some lead).trans ?_
    rw [bind_some (attempt_some (char_same _ _))]
    rfl
  | cons word words ih =>
    obtain ⟨bound, rfl⟩ := Nat.exists_eq_add_one_of_ne_zero (Nat.ne_zero_of_lt enough)
    have own := quotable word List.mem_cons_self
    have later := ih (fun other member => quotable other (List.mem_cons_of_mem word member))
      (Nat.lt_of_succ_lt_succ enough)
    have layout : ∀ c ∈ "\n    ".toList, isLayout c := List.all_eq_true.mp rfl
    rw [spread_cons, arrayItems, bind_some (gap_layout layout (gapPiece_quoted word _)),
      bind_some (attempt_none (close_quoted word _))]
    refine (bind_some (value_quoted depth own _)).trans ((bind_some (gap_stops rfl)).trans ?_)
    rw [bind_some (attempt_some (char_same _ _))]
    exact bind_some later

private theorem length_le_spread (words : List String) (rest : List Char) :
    words.length ≤ (spread words rest).length := by
  induction words with
  | nil => exact Nat.zero_le _
  | cons word words ih =>
    rw [spread_cons]
    simp only [List.length_append, List.length_cons]
    omega

/-- The three layouts of an array: no item, one item on the line, one item on each line. -/
theorem arrayItems_arrayText (depth : Nat) (words : List String)
    (quotable : ∀ word ∈ words, Quotable word) (rest : List Char) :
    ∃ inside, (arrayText (words.map quoted)).toList ++ rest = '[' :: inside ∧
      arrayItems (value depth) (inside.length + 1) inside = some (words.map .string, rest) := by
  match words, quotable with
  | [], _ =>
    refine ⟨']' :: rest, rfl, ?_⟩
    rw [arrayItems, bind_some (gap_stops rfl), bind_some (attempt_some (char_same _ _))]
    rfl
  | [word], quotable =>
    have own := quotable word List.mem_cons_self
    refine ⟨(quoted word).toList ++ ']' :: rest, by simp [arrayText], ?_⟩
    rw [arrayItems, bind_some (gap_stops (gapPiece_quoted word _)),
      bind_some (attempt_none (close_quoted word _))]
    refine (bind_some (value_quoted depth own _)).trans ((bind_some (gap_stops rfl)).trans ?_)
    rw [bind_some (attempt_none (char_other (by decide) _))]
    exact bind_some (char_same _ _)
  | first :: second :: others, quotable =>
    refine ⟨spread (first :: second :: others) rest, ?_, ?_⟩
    · simp [arrayText, spread, String.toList_join, List.flatMap_map]
    · apply arrayItems_spread depth quotable
      exact Nat.lt_succ_of_le (length_le_spread _ _)

theorem value_array (depth : Nat) {words : List String} (quotable : ∀ word ∈ words, Quotable word)
    (rest : List Char) :
    value (depth + 1) ((arrayText (words.map quoted)).toList ++ rest) =
      some (.array (words.map .string), rest) := by
  obtain ⟨inside, layout, read⟩ := arrayItems_arrayText depth words quotable rest
  have notQuoted : (Value.string <$> string) ('[' :: inside) = none :=
    map_none _ (string_other (by decide) (by decide) inside)
  have notBare : bareValue ('[' :: inside) = none := rfl
  have enclosed :
      array (value depth) ('[' :: inside) = some (.array (words.map .string), rest) := by
    rw [array, bind_some (char_same _ _)]
    exact bind_some read
  rw [layout, value, orElse_none notQuoted, orElse_none notBare]
  exact orElse_some enclosed

/-! Entries and documents. -/

/-- An entry with a bare key, and with a written value that is read back up to the end of its
line. -/
structure WrittenEntry where
  key : String
  text : String
  value : Value
  nonempty : key ≠ ""
  bare : ∀ c ∈ key.toList, isBareKeyChar c
  starts : ∀ rest, Stops isLineBlank (text.toList ++ '\n' :: rest)
  reads : ∀ rest, Toml.value (depthLimit - 1) (text.toList ++ '\n' :: rest) =
    some (value, '\n' :: rest)

namespace WrittenEntry

def line (entry : WrittenEntry) : String := entryText entry.key entry.text

private theorem line_toList (entry : WrittenEntry) (rest : List Char) :
    entry.line.toList ++ rest =
      entry.key.toList ++ ' ' :: '=' :: ' ' :: (entry.text.toList ++ '\n' :: rest) := by
  simp [line, entryText]

end WrittenEntry

private theorem blanks_stops (stops : Stops isLineBlank rest) : blanks rest = some ((), rest) :=
  bind_some (run_append [] (by simp) stops)

private theorem blanks_space (stops : Stops isLineBlank rest) :
    blanks (' ' :: rest) = some ((), rest) :=
  bind_some (run_append [' '] (List.all_eq_true.mp rfl) stops)

variable {c d : Char} {name : String}

/-- A bare key starts with none of the characters that open other statements. -/
theorem ne_of_isBareKeyChar (bare : isBareKeyChar c) (other : isBareKeyChar d = false) : c ≠ d := by
  rintro rfl
  rw [bare] at other
  cases other

private theorem stops_of_isBareKeyChar (bare : isBareKeyChar c) (rest : List Char) :
    Stops isLineBlank (c :: rest) := by
  have notSpace : c ≠ ' ' := ne_of_isBareKeyChar bare (by decide)
  have notTab : c ≠ '\t' := ne_of_isBareKeyChar bare (by decide)
  simp [Stops, isLineBlank, notSpace, notTab]

private theorem bareKey_append (nonempty : name ≠ "") (bare : ∀ c ∈ name.toList, isBareKeyChar c)
    (stops : Stops isBareKeyChar rest) : bareKey (name.toList ++ rest) = some (name, rest) := by
  have given : name.toList.isEmpty = false := by simpa using nonempty
  rw [bareKey, bind_some (run_append _ bare stops), given]
  simp only [Bool.false_eq_true, ↓reduceIte, String.ofList_toList]
  rfl

private theorem keyPart_bare (nonempty : name ≠ "") (bare : ∀ c ∈ name.toList, isBareKeyChar c)
    (rest : List Char) :
    keyPart (name.toList ++ ' ' :: '=' :: rest) = some (name, '=' :: rest) := by
  have read := bareKey_append nonempty bare (show Stops isBareKeyChar (' ' :: '=' :: rest) from rfl)
  have after : blanks (' ' :: '=' :: rest) = some ((), '=' :: rest) :=
    blanks_space (show Stops isLineBlank ('=' :: rest) from rfl)
  cases letters : name.toList with
  | nil => exact (nonempty (by simpa using letters)).elim
  | cons first others =>
    rw [letters, List.cons_append] at read
    have own := bare first (by simp [letters])
    have notBasic : basicString (first :: (others ++ ' ' :: '=' :: rest)) = none :=
      bind_none (char_other (ne_of_isBareKeyChar own (by decide)) _)
    have notLiteral : literalString (first :: (others ++ ' ' :: '=' :: rest)) = none :=
      bind_none (char_other (ne_of_isBareKeyChar own (by decide)) _)
    have part := (orElse_none notBasic).trans ((orElse_none notLiteral).trans read)
    rw [List.cons_append, keyPart, bind_some (blanks_stops (stops_of_isBareKeyChar own _)),
      bind_some part, bind_some after]
    rfl

private theorem key_bare (nonempty : name ≠ "") (bare : ∀ c ∈ name.toList, isBareKeyChar c)
    (rest : List Char) : key (name.toList ++ ' ' :: '=' :: rest) = some ([name], '=' :: rest) := by
  have alone : Repeats (do char '.'; keyPart) ('=' :: rest) [] ('=' :: rest) :=
    .done (bind_none (char_other (by decide) _))
  rw [key, bind_some (keyPart_bare nonempty bare rest), bind_some alone.many]
  rfl

namespace WrittenEntry

theorem assignment_line (entry : WrittenEntry) (rest : List Char) :
    assignment (entry.line.toList ++ rest) = some (.assign [entry.key] entry.value, rest) := by
  have ends : lineEnd ('\n' :: rest) = some ((), rest) := rfl
  rw [entry.line_toList, assignment, bind_some (key_bare entry.nonempty entry.bare _),
    bind_some (char_same _ _), bind_some (blanks_space (entry.starts rest)),
    bind_some (entry.reads rest), bind_some ends]
  rfl

private theorem line_cons (entry : WrittenEntry) (rest : List Char) :
    ∃ first others, isBareKeyChar first ∧ entry.line.toList ++ rest = first :: others := by
  cases letters : entry.key.toList with
  | nil => exact (entry.nonempty (by simpa using letters)).elim
  | cons first others =>
    have own := entry.bare first (by simp [letters])
    rw [entry.line_toList, letters, List.cons_append]
    exact ⟨first, _, own, rfl⟩

/-- The line of an entry is read as this entry, whatever follows. -/
theorem line_line (entry : WrittenEntry) (rest : List Char) :
    Toml.line (entry.line.toList ++ rest) =
      some (some (.assign [entry.key] entry.value), rest) := by
  have read := map_some some (entry.assignment_line rest)
  obtain ⟨first, others, own, layout⟩ := entry.line_cons rest
  rw [layout] at read ⊢
  have bracket : first ≠ '[' := ne_of_isBareKeyChar own (by decide)
  have notRow : (some <$> rowHeader) (first :: others) = none :=
    map_none _ (bind_none (text_other rfl bracket _))
  have notHeader : (some <$> header) (first :: others) = none :=
    map_none _ (bind_none (char_other bracket _))
  rw [Toml.line, bind_some (blanks_stops (stops_of_isBareKeyChar own _)), orElse_none notRow,
    orElse_none notHeader]
  exact orElse_some read

end WrittenEntry

/-- The lines of a document, one entry to a line. -/
def document (entries : List WrittenEntry) : String := String.join (entries.map WrittenEntry.line)

private theorem document_cons (entry : WrittenEntry) (entries : List WrittenEntry) :
    (document (entry :: entries)).toList = entry.line.toList ++ (document entries).toList := by
  simp [document]

private theorem document_unmarked (entries : List WrittenEntry) :
    char '\ufeff' (document entries).toList = none := by
  cases entries with
  | nil => rfl
  | cons entry entries =>
    obtain ⟨first, others, own, layout⟩ := entry.line_cons (document entries).toList
    rw [document_cons, layout]
    exact char_other (ne_of_isBareKeyChar own (by decide)) _

private theorem lines_repeat (entries : List WrittenEntry) :
    Repeats line (document entries).toList
      (entries.map fun entry => some (.assign [entry.key] entry.value)) [] := by
  induction entries with
  | nil => exact .done rfl
  | cons entry entries ih =>
    rw [document_cons]
    refine .more (entry.line_line _) ?_ ih
    rw [entry.line_toList]
    simp only [List.length_append, List.length_cons]
    omega

theorem statements_document (entries : List WrittenEntry) :
    statements (document entries).toList =
      some (entries.map fun entry => .assign [entry.key] entry.value, []) := by
  have kept : (entries.map fun entry => some (Statement.assign [entry.key] entry.value)).filterMap
      id = entries.map fun entry => .assign [entry.key] entry.value := by
    rw [List.filterMap_map, ← List.filterMap_eq_map]
    rfl
  rw [statements, bind_some (attempt_none (document_unmarked entries)),
    bind_some (lines_repeat entries).many, kept]
  rfl

private theorem sections_assign (entries : List WrittenEntry) :
    sections (entries.map fun entry => .assign [entry.key] entry.value) =
      (entries.map fun entry => ([entry.key], entry.value), []) := by
  induction entries with
  | nil => rfl
  | cons entry entries ih => simp only [List.map_cons, sections, ih]

/-- New keys are added to a table one after the other. -/
theorem assignAll_append {entries : List WrittenEntry} (table : Entries)
    (distinct : (entries.map WrittenEntry.key).Nodup)
    (fresh : ∀ entry ∈ entries, table.lookup entry.key = none) :
    table.assignAll (entries.map fun entry => ([entry.key], entry.value)) =
      some (table ++ entries.map fun entry => (entry.key, entry.value)) := by
  induction entries generalizing table with
  | nil => simp [Entries.assignAll]
  | cons entry entries ih =>
    obtain ⟨absent, distinct⟩ := List.nodup_cons.mp distinct
    have added : Entries.assign entry.value [entry.key] true table =
        some (table ++ [(entry.key, entry.value)]) := by
      simp [Entries.assign, fresh entry List.mem_cons_self]
    have stillFresh : ∀ other ∈ entries,
        (table ++ [(entry.key, entry.value)]).lookup other.key = none := by
      intro other member
      have different : other.key ≠ entry.key := by
        intro same
        exact absent (same ▸ List.mem_map_of_mem member)
      rw [List.lookup_append, fresh other (List.mem_cons_of_mem _ member)]
      simp [List.lookup_cons, beq_false_of_ne different]
    have rest := ih _ distinct stillFresh
    rw [List.append_assoc] at rest
    rw [List.map_cons, Entries.assignAll, List.foldlM_cons]
    dsimp only
    rw [added]
    exact rest

/-- A document whose keys differ is read as its entries, in order. -/
theorem parse?_document {entries : List WrittenEntry}
    (distinct : (entries.map WrittenEntry.key).Nodup) :
    parse? (document entries) = some (entries.map fun entry => (entry.key, entry.value)) := by
  have table := assignAll_append [] distinct (by simp)
  unfold parse?
  rw [statements_document]
  simp only [Option.bind_eq_bind, Option.bind_some, sections_assign, table]
  rfl

end RowTyping.Toml
