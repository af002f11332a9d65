import RowTyping.Proofs.Join
import RowTyping.Proofs.Judgment
import RowTyping.Ty.Reading
import Mathlib.Data.List.DropRight

/-! The spellings of types. A text names a type exactly when it spells one, blanks at its ends
aside. A mask covers a primitive or a stored text, so masks never nest, and what a type is
written as reads back as that type. -/

namespace RowTyping

namespace Text

variable {front back text : List Char}

theorem trim_eq_rdropWhile (text : List Char) :
    trim text = (text.dropWhile isBlank).rdropWhile isBlank := rfl

theorem trim_pad (front_blank : ∀ c ∈ front, isBlank c) (back_blank : ∀ c ∈ back, isBlank c) :
    trim (front ++ text ++ back) = trim text := by
  have reversed_blank : ∀ c ∈ back.reverse, isBlank c := by
    intro c member
    exact back_blank c (List.mem_reverse.mp member)
  unfold trim
  rw [List.append_assoc, List.dropWhile_append_of_pos front_blank, List.dropWhile_append]
  split
  next all_blank =>
    rw [List.isEmpty_iff.mp all_blank, List.dropWhile_eq_nil_iff.mpr back_blank]
  next => rw [List.reverse_append, List.dropWhile_append_of_pos reversed_blank]

/-- A text that starts and ends with other characters keeps them. -/
theorem trim_of_ends (first_other : isBlank first = false) (last_other : isBlank last = false)
    (middle : List Char) : trim (first :: (middle ++ [last])) = first :: (middle ++ [last]) := by
  rw [trim_eq_rdropWhile, List.dropWhile_cons_of_neg (by simp [first_other]), ← List.cons_append,
    List.rdropWhile_concat_neg _ _ _ (by simp [last_other])]

/-- A text whose blanks were dropped has none at its ends. -/
theorem trim_trim (text : List Char) : trim (trim text) = trim text := by
  have start : (trim text).dropWhile isBlank = trim text := by
    rw [trim_eq_rdropWhile, List.dropWhile_eq_self_iff]
    intro nonempty
    -- What is left begins as the text without its leading blanks does.
    have leading := List.rdropWhile_prefix isBlank (text.dropWhile isBlank)
    have same := List.dropWhile_eq_self_iff.mp (List.dropWhile_idempotent isBlank text)
      (nonempty.trans_le leading.length_le)
    rw [leading.getElem nonempty]
    exact same
  rw [trim_eq_rdropWhile (trim text), start, trim_eq_rdropWhile]
  exact List.rdropWhile_idempotent isBlank _

theorem between?_eq_some_iff {lead tail : String} {inner : List Char} :
    between? lead tail text = some inner ↔ text = lead.toList ++ inner ++ tail.toList := by
  simp only [between?, Option.bind_eq_some_iff, List.isPrefixOf?_eq_some_iff_append_eq,
    List.isSuffixOf?_eq_some_iff_append_eq]
  constructor
  · rintro ⟨rest, rfl, rfl⟩
    simp
  · rintro rfl
    exact ⟨inner ++ tail.toList, by simp, rfl⟩

def trimmed (text : String) : String := String.ofList (trim text.toList)

end Text

inductive Primitive.Spelled : String → Primitive → Prop
  | bool : Spelled "bool" .bool
  | boolean : Spelled "boolean" .bool
  | int8 : Spelled "int8" (.int .w8)
  | int16 : Spelled "int16" (.int .w16)
  | int32 : Spelled "int32" (.int .w32)
  | int64 : Spelled "int64" (.int .w64)
  | uint8 : Spelled "uint8" (.uint .w8)
  | uint16 : Spelled "uint16" (.uint .w16)
  | uint32 : Spelled "uint32" (.uint .w32)
  | uint64 : Spelled "uint64" (.uint .w64)
  | float32 : Spelled "float32" .float32
  | float64 : Spelled "float64" .float64
  | object : Spelled "object" .object
  | datetime (unit : TimeUnit) : Spelled ("datetime64[" ++ unit.name ++ "]") (.datetime unit)
  | timedelta (unit : TimeUnit) : Spelled ("timedelta64[" ++ unit.name ++ "]") (.timedelta unit)

/-- The spellings of a value under a mask. A view is held as an owned string. -/
inductive MaskedValue.Spelled : String → MaskedValue → Prop
  | primitive (spelled : Primitive.Spelled text p) : Spelled text (.primitive p)
  | stringView : Spelled "string_view" .ownedString
  | ownedString : Spelled "owned_string" .ownedString

inductive Ty.Spelled : String → Ty → Prop
  | null : Spelled "NA" .null
  | na : Spelled "na" .null
  | stringView : Spelled "string_view" .stringView
  | ownedString : Spelled "owned_string" .ownedString
  | literal : Spelled "Literal[str]" .stringLiteral
  | strLiteral : Spelled "str_literal" .stringLiteral
  | primitive (spelled : Primitive.Spelled text p) : Spelled text (.primitive p)
  | external {name : String} (named : name ≠ "") : Spelled ("ext:" ++ name) (.external name)
  | masked {inner : String} {value : MaskedValue}
    (spelled : MaskedValue.Spelled (Text.trimmed inner) value) :
    Spelled ("Masked(" ++ inner ++ ")") (.masked value)

/-! Primitives. -/

private theorem TimeUnit.ofName_eq_ok_iff {text : String} {unit : TimeUnit} :
    ofName text = .ok unit ↔ text = unit.name := by
  constructor
  · intro read
    unfold ofName at read
    split at read
    next found =>
      cases read
      unfold ofName? at found
      split at found <;> cases found <;> rfl
    next => cases read
  · rintro rfl
    cases unit <;> rfl

namespace Primitive

/-- The unit of a temporal primitive stands in brackets after its kind. -/
private theorem spelled_unit {make : TimeUnit → Primitive} {unit : List Char} {p : Primitive}
    (read : make <$> TimeUnit.ofName (String.ofList unit) = .ok p) :
    ∃ named : TimeUnit, unit = named.name.toList ∧ p = make named := by
  cases found : TimeUnit.ofName (String.ofList unit) with
  | error failure =>
    rw [found] at read
    cases read
  | ok named =>
    rw [found] at read
    cases read
    have same := TimeUnit.ofName_eq_ok_iff.mp found
    exact ⟨named, by rw [← same, String.toList_ofList], rfl⟩

private theorem spelled_of_ofTrimmed {text : List Char} {p : Primitive}
    (read : ofTrimmed text = .ok p) :
    Spelled (String.ofList text) p := by
  unfold ofTrimmed at read
  split at read
  case h_14 =>
    -- Any other spelling has a unit in brackets.
    split at read
    next unit enclosed =>
      obtain ⟨named, rfl, rfl⟩ := spelled_unit read
      rw [Text.between?_eq_some_iff.mp enclosed, String.ofList_append, String.ofList_append]
      simp only [String.ofList_toList]
      exact .datetime named
    next =>
      split at read
      next unit enclosed =>
        obtain ⟨named, rfl, rfl⟩ := spelled_unit read
        rw [Text.between?_eq_some_iff.mp enclosed, String.ofList_append, String.ofList_append]
        simp only [String.ofList_toList]
        exact .timedelta named
      next => cases read
  all_goals
    next same =>
      cases read
      rw [same]
      constructor

theorem ofTrimmed_of_spelled {text : String} {p : Primitive} (spelled : Spelled text p) :
    ofTrimmed text.toList = .ok p := by
  cases spelled with
  | datetime unit => cases unit <;> rfl
  | timedelta unit => cases unit <;> rfl
  | _ => rfl

end Primitive

/-! Types. A name is enclosed by a mask, or it is bare. -/

private theorem Text.between?_append (lead tail inner : String) :
    between? lead tail (lead ++ inner ++ tail).toList = some inner.toList := by
  rw [between?_eq_some_iff, String.toList_append, String.toList_append]

namespace Ty

variable {text inner : List Char} {ty : Ty}

private theorem ofChars_of_enclosed
    (enclosed : Text.between? "Masked(" ")" (Text.trim text) = some inner) :
    ofChars text = ofChars inner >>= mask := by
  rw [ofChars]
  split
  next found =>
    rw [enclosed] at found
    cases found
    rfl
  next found =>
    rw [enclosed] at found
    cases found

private theorem spelled_of_bare (bare : Text.between? "Masked(" ")" (Text.trim text) = none)
    (read : ofChars text = .ok ty) : Spelled (String.ofList (Text.trim text)) ty := by
  rw [ofChars] at read
  split at read
  next found =>
    rw [bare] at found
    cases found
  next =>
    split at read
    case h_7 =>
      split at read
      next => cases read
      next name nonempty marked =>
        cases read
        rw [← List.isPrefixOf?_eq_some_iff_append_eq.mp marked, String.ofList_append,
          String.ofList_toList]
        refine .external fun empty => nonempty ?_
        simpa using congrArg String.toList empty
      next =>
        cases found : Primitive.ofTrimmed (Text.trim text) with
        | error failure =>
          rw [found] at read
          cases read
        | ok p =>
          rw [found] at read
          cases read
          exact .primitive (Primitive.spelled_of_ofTrimmed found)
    all_goals
      next same =>
        cases read
        rw [same]
        constructor

private theorem ofChars_of_bare (bare : Text.between? "Masked(" ")" (Text.trim text) = none)
    (spelled : Spelled (String.ofList (Text.trim text)) ty) : ofChars text = .ok ty := by
  generalize spelling : String.ofList (Text.trim text) = word at spelled
  have letters : Text.trim text = word.toList := by
    rw [← spelling, String.toList_ofList]
  rw [ofChars]
  split
  next found =>
    rw [bare] at found
    cases found
  next =>
    rw [letters, String.ofList_toList]
    cases spelled with
    | primitive spelled =>
      cases spelled with
      | datetime unit => cases unit <;> rfl
      | timedelta unit => cases unit <;> rfl
      | _ => rfl
    | @external name named =>
      split
      case h_7 =>
        rw [List.isPrefixOf?_eq_some_iff_append_eq.mpr String.toList_append.symm]
        split
        next empty => exact (named (by simpa using empty)).elim
        next found =>
          cases found
          rw [String.ofList_toList]
        next found => cases found
      all_goals
        next same =>
          have clash := congrArg String.toList same
          simp at clash
    | masked =>
      rw [letters, Text.between?_append] at bare
      cases bare
    | _ => rfl

/-- No other spelling looks like a mask. -/
theorem Spelled.of_enclosed {inner : String} (spelled : Spelled ("Masked(" ++ inner ++ ")") ty) :
    ∃ value, ty = .masked value ∧ MaskedValue.Spelled (Text.trimmed inner) value := by
  generalize same : "Masked(" ++ inner ++ ")" = word at spelled
  have first : word.toList.head? = some 'M' := by
    rw [← same]
    simp
  cases spelled with
  | @masked actual value spelled =>
    have letters := congrArg String.toList same
    simp only [String.toList_append] at letters
    have inside := List.append_cancel_left (List.append_cancel_right letters)
    rw [String.toList_inj.mp inside]
    exact ⟨value, rfl, spelled⟩
  | primitive spelled =>
    cases spelled with
    | datetime unit => simp at first
    | timedelta unit => simp at first
    | _ => simp at first
  | _ => simp at first

end Ty

/-- A mask covers the types that a value under it may be spelled as. -/
theorem MaskedValue.spelled_iff {word : String} {value : MaskedValue} :
    Spelled word value ↔ ∃ covered, Ty.Spelled word covered ∧ ofTy? covered = some value := by
  constructor
  · intro spelled
    cases spelled with
    | primitive spelled => exact ⟨_, .primitive spelled, rfl⟩
    | stringView => exact ⟨_, .stringView, rfl⟩
    | ownedString => exact ⟨_, .ownedString, rfl⟩
  · rintro ⟨covered, spelled, kind⟩
    cases spelled with
    | primitive spelled =>
      cases kind
      exact .primitive spelled
    | stringView =>
      cases kind
      exact .stringView
    | ownedString =>
      cases kind
      exact .ownedString
    | _ => cases kind

namespace Ty

variable {text inner : List Char} {ty covered : Ty} {value : MaskedValue}

/-- What a mask may cover is not read from a masked name. -/
private theorem bare_of_ofChars (read : ofChars inner = .ok covered)
    (kind : MaskedValue.ofTy? covered = some value) :
    Text.between? "Masked(" ")" (Text.trim inner) = none := by
  cases enclosed : Text.between? "Masked(" ")" (Text.trim inner) with
  | none => rfl
  | some deeper =>
    rw [ofChars_of_enclosed enclosed] at read
    obtain ⟨_, _, masked⟩ := bind_eq_ok_iff.mp read
    obtain ⟨_, _, rfl⟩ := mask_eq_ok_iff.mp masked
    cases kind

private theorem enclosed_layout
    (enclosed : Text.between? "Masked(" ")" (Text.trim text) = some inner) :
    String.ofList (Text.trim text) = "Masked(" ++ String.ofList inner ++ ")" := by
  rw [Text.between?_eq_some_iff.mp enclosed, String.ofList_append, String.ofList_append]
  simp only [String.ofList_toList]

private theorem bare_of_spelled (spelled : Spelled (String.ofList (Text.trim inner)) covered)
    (kind : MaskedValue.ofTy? covered = some value) :
    Text.between? "Masked(" ")" (Text.trim inner) = none := by
  cases enclosed : Text.between? "Masked(" ")" (Text.trim inner) with
  | none => rfl
  | some deeper =>
    rw [enclosed_layout enclosed] at spelled
    obtain ⟨_, rfl, _⟩ := spelled.of_enclosed
    cases kind

theorem ofChars_eq_ok_iff :
    ofChars text = .ok ty ↔ Spelled (String.ofList (Text.trim text)) ty := by
  cases enclosed : Text.between? "Masked(" ")" (Text.trim text) with
  | none => exact ⟨spelled_of_bare enclosed, ofChars_of_bare enclosed⟩
  | some inner =>
    rw [ofChars_of_enclosed enclosed, enclosed_layout enclosed]
    have inside : Text.trimmed (String.ofList inner) = String.ofList (Text.trim inner) := by
      rw [Text.trimmed, String.toList_ofList]
    constructor
    · intro read
      obtain ⟨covered, coveredRead, masked⟩ := bind_eq_ok_iff.mp read
      obtain ⟨value, kind, rfl⟩ := mask_eq_ok_iff.mp masked
      have bare := bare_of_ofChars coveredRead kind
      refine .masked (MaskedValue.spelled_iff.mpr ⟨covered, ?_, kind⟩)
      rw [inside]
      exact spelled_of_bare bare coveredRead
    · intro spelled
      obtain ⟨value, rfl, valueSpelled⟩ := spelled.of_enclosed
      obtain ⟨covered, coveredSpelled, kind⟩ := MaskedValue.spelled_iff.mp valueSpelled
      rw [inside] at coveredSpelled
      have bare := bare_of_spelled coveredSpelled kind
      have coveredRead := ofChars_of_bare bare coveredSpelled
      exact bind_eq_ok_iff.mpr ⟨covered, coveredRead, mask_eq_ok_iff.mpr ⟨value, kind, rfl⟩⟩

theorem ofName_eq_ok_iff {text : String} :
    ofName text = .ok ty ↔ Spelled (Text.trimmed text) ty :=
  ofChars_eq_ok_iff

/-- A text with so many masks around a name, and blanks around each of them. -/
inductive Nests : Nat → String → Prop
  | name (text : String) : Nests 0 text
  | mask {text inner : String} (nested : Nests depth inner)
    (enclosed : Text.trimmed text = "Masked(" ++ inner ++ ")") : Nests (depth + 1) text

theorem Nests.not_spelled {text : String} (nested : Nests (depth + 2) text) :
    ¬ Spelled (Text.trimmed text) ty := by
  intro spelled
  cases nested with
  | mask inside enclosed =>
    rw [enclosed] at spelled
    obtain ⟨value, _, valueSpelled⟩ := spelled.of_enclosed
    cases inside with
    | mask _ enclosedAgain =>
      -- The value under the outer mask would be spelled as a mask.
      rw [enclosedAgain] at valueSpelled
      obtain ⟨covered, coveredSpelled, kind⟩ := MaskedValue.spelled_iff.mp valueSpelled
      obtain ⟨_, rfl, _⟩ := coveredSpelled.of_enclosed
      cases kind

/-! What is written reads back. -/

/-- The text for a type. A type known by name only is marked as such. -/
def written : Ty → String
  | .external name => "ext:" ++ name
  | ty => ty.name

end Ty

theorem Primitive.spelled_name (p : Primitive) : Spelled p.name p := by
  cases p with
  | int width | uint width => cases width <;> constructor
  | _ => constructor

theorem Primitive.trimmed_name (p : Primitive) : Text.trimmed p.name = p.name := by
  cases p with
  | int width | uint width => cases width <;> rfl
  | datetime unit | timedelta unit => cases unit <;> rfl
  | _ => rfl

namespace Ty

variable {ty : Ty}

/-- The name of a type spells it, unless it is known by name only. -/
theorem spelled_name (own : ∀ name, ty ≠ .external name) : Spelled ty.name ty := by
  cases ty with
  | primitive p => exact .primitive p.spelled_name
  | masked value =>
    cases value with
    | primitive p =>
      refine .masked (.primitive ?_)
      rw [p.trimmed_name]
      exact p.spelled_name
    | ownedString => exact @Spelled.masked "owned_string" _ .ownedString
  | null => exact .null
  | external name => exact (own name rfl).elim
  | stringView => exact .stringView
  | ownedString => exact .ownedString
  | stringLiteral => exact .literal

theorem trimmed_name (own : ∀ name, ty ≠ .external name) : Text.trimmed ty.name = ty.name := by
  cases ty with
  | primitive p => exact p.trimmed_name
  | masked value =>
    cases value with
    | primitive p =>
      have letters : (Ty.masked (.primitive p)).name.toList =
          'M' :: ("asked(".toList ++ p.name.toList ++ [')']) := by
        simp [name]
      rw [Text.trimmed, letters, Text.trim_of_ends (by decide) (by decide), ← letters,
        String.ofList_toList]
    | ownedString => rfl
  | external name => exact (own name rfl).elim
  | _ => rfl

theorem ofName_pad {front back : String} (own : ∀ name, ty ≠ .external name)
    (front_blank : ∀ c ∈ front.toList, Text.isBlank c)
    (back_blank : ∀ c ∈ back.toList, Text.isBlank c) :
    ofName (front ++ ty.name ++ back) = .ok ty := by
  have padded : Text.trimmed (front ++ ty.name ++ back) = Text.trimmed ty.name := by
    rw [Text.trimmed, String.toList_append, String.toList_append,
      Text.trim_pad front_blank back_blank, Text.trimmed]
  rw [ofName_eq_ok_iff, padded, trimmed_name own]
  exact spelled_name own

theorem ofName_written {text : String} (read : ofName text = .ok ty) :
    ofName ty.written = .ok ty := by
  by_cases known : ∃ name, ty = .external name
  · obtain ⟨name, rfl⟩ := known
    rw [ofName_eq_ok_iff] at read ⊢
    have same : Text.trimmed text = "ext:" ++ name := by
      generalize Text.trimmed text = word at read
      cases read
      rfl
    -- The name ends where the text without its blanks ends, so no blank is lost again.
    have kept : Text.trimmed ("ext:" ++ name) = "ext:" ++ name := by
      rw [← same, Text.trimmed, Text.trimmed, String.toList_ofList, Text.trim_trim]
    rw [written, kept, ← same]
    exact read
  · have own : ∀ name, ty ≠ .external name := not_exists.mp known
    have plain : ty.written = "" ++ ty.name ++ "" := by
      rw [String.append_empty, String.empty_append]
      cases ty with
      | external name => exact (own name rfl).elim
      | _ => rfl
    rw [plain]
    exact ofName_pad own (by simp) (by simp)

/-- A text is read as a type exactly when it spells it, blanks at its ends aside. So a mask around
a masked name is never read, the name of a type reads as that type however it is padded, and what
was read and written again reads the same. -/
theorem ofName_reads_spellings (text : String) :
    (∀ ty, ofName text = .ok ty ↔ Spelled (Text.trimmed text) ty) ∧
    (∀ depth, 2 ≤ depth → Nests depth text → ∃ failure, ofName text = .error failure) ∧
    (∀ ty front back, (∀ name, ty ≠ .external name) → (∀ c ∈ front.toList, Text.isBlank c) →
      (∀ c ∈ back.toList, Text.isBlank c) → text = front ++ ty.name ++ back →
      ofName text = .ok ty) ∧
    (∀ ty, ofName text = .ok ty → ofName ty.written = .ok ty) := by
  refine ⟨fun ty => ofName_eq_ok_iff, ?_, ?_, fun ty => ofName_written⟩
  · intro depth deep nested
    obtain ⟨rest, rfl⟩ := Nat.exists_eq_add_of_le' deep
    cases read : ofName text with
    | error failure => exact ⟨failure, rfl⟩
    | ok ty => exact (nested.not_spelled (ofName_eq_ok_iff.mp read)).elim
  · intro ty front back own front_blank back_blank padded
    rw [padded]
    exact ofName_pad own front_blank back_blank

/-- Blanks of any kind around a mask and inside it; a view is read as an owned string, and a
third mask is refused. -/
theorem spacedMask_reads_spellings :
    Spelled (Text.trimmed "\u3000Masked( string_view )\n") maskedString ∧
      ofName "\u3000Masked( string_view )\n" = .ok maskedString ∧
      ofName "Masked(owned_string)" = .ok maskedString ∧
      Nests 3 "Masked(Masked(\tMasked(int8)))" ∧
      ∃ failure, ofName "Masked(Masked(\tMasked(int8)))" = .error failure := by
  have spelled : Spelled (Text.trimmed "\u3000Masked( string_view )\n") maskedString := by
    have outer : Text.trimmed "\u3000Masked( string_view )\n" =
        "Masked(" ++ " string_view " ++ ")" := by decide +kernel
    have inner : Text.trimmed " string_view " = "string_view" := by decide +kernel
    rw [outer]
    refine .masked ?_
    rw [inner]
    exact .stringView
  have nested : Nests 3 "Masked(Masked(\tMasked(int8)))" := by
    have third : Nests 1 "\tMasked(int8)" := .mask (.name "int8") (by decide +kernel)
    have second : Nests 2 "Masked(\tMasked(int8))" := .mask third (by decide +kernel)
    exact .mask second (by decide +kernel)
  obtain ⟨reads, refuses, _, again⟩ := ofName_reads_spellings "\u3000Masked( string_view )\n"
  have read := (reads maskedString).mpr spelled
  exact ⟨spelled, read, again _ read, nested,
    (ofName_reads_spellings "Masked(Masked(\tMasked(int8)))").2.1 3 (by decide) nested⟩

end Ty

end RowTyping
