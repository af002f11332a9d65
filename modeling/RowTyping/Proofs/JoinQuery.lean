import RowTyping.Command.Answer
import RowTyping.Proofs.Failure

/-! Joins that convert. A query about a join is answered in full or refused before anything is
said, since both sides convert to whatever the join yields. The same holds of the joins in a
body, so that typing a function never fails in a conversion. -/

namespace RowTyping.Command

open Answering

variable {transcript later : Transcript} {a b joined : Ty} {failure : QueryError}

namespace Answering

theorem note_run (level : Level) (message : String) (transcript : Transcript) :
    note level message transcript =
      (.ok (), { transcript with log := transcript.log ++ [⟨level, message⟩] }) := rfl

theorem say_run (spans : List Span) (transcript : Transcript) :
    say spans transcript = (.ok (), { transcript with output := transcript.output ++ spans }) := rfl

theorem typed_ok (value : α) (transcript : Transcript) :
    typed (.ok value) transcript = (.ok value, transcript) := rfl

theorem typed_error (failure : TypeError) (transcript : Transcript) :
    (typed (.error failure) : Answering α) transcript = (.error (.type failure), transcript) := rfl

/-- Logging line by line adds all lines and does nothing else. -/
theorem notes_run (lines : List LogLine) (transcript : Transcript) :
    (forIn lines PUnit.unit fun line _ => do
        note line.level line.message
        pure (.yield PUnit.unit) : Answering PUnit) transcript =
      (.ok .unit, { transcript with log := transcript.log ++ lines }) := by
  induction lines generalizing transcript with
  | nil =>
    rw [List.append_nil]
    rfl
  | cons line rest ih =>
    rw [List.forIn_cons]
    have first : (do
        note line.level line.message
        pure (.yield PUnit.unit) : Answering (ForInStep PUnit)) transcript =
        (.ok (.yield .unit), { transcript with log := transcript.log ++ [line] }) :=
      bind_ok (note_run line.level line.message transcript)
    rw [bind_ok first]
    refine (ih _).trans ?_
    simp

end Answering

def sideSpans (side : String) (type : Ty) (way : Conversion) : List Span :=
  Span.field side (type.name ++ " (" ++ way.name ++ ")")

/-- The lines that answer a join: its type, and how each side converts to it. -/
def joinSpans (a b joined : Ty) (leftWay rightWay : Conversion) : List Span :=
  Span.field "type" joined.name ++ sideSpans "left" a leftWay ++ sideSpans "right" b rightWay

def joinOf (left right : String) : Except TypeError (Ty × Ty × Ty) := do
  let a ← Ty.ofName left
  let b ← Ty.ofName right
  let joined ← Ty.unify .numeric a b
  return (a, b, joined)

private theorem sides_run (leftOk : Conversion.classify .numeric a joined = .ok leftWay)
    (rightOk : Conversion.classify .numeric b joined = .ok rightWay) (transcript : Transcript) :
    (do
        for (side, type) in [("left", a), ("right", b)] do
          let conversion ← typed (Conversion.classify .numeric type joined)
          say (Span.field side (type.name ++ " (" ++ conversion.name ++ ")")) : Answering Unit)
        transcript =
      (.ok (), { transcript with
        output := transcript.output ++ sideSpans "left" a leftWay ++
          sideSpans "right" b rightWay }) := by
  simp only [List.forIn_cons, leftOk, rightOk]
  rfl

/-- A join that is refused leaves nothing said. -/
theorem answerJoin_error {failure : TypeError} (refused : joinOf left right = .error failure)
    (transcript : Transcript) :
    ∃ later, answerJoin left right transcript = (.error (.type failure), later) ∧
      later.output = transcript.output := by
  unfold joinOf at refused
  unfold answerJoin
  cases readLeft : Ty.ofName left with
  | error actual =>
    rw [readLeft] at refused
    cases refused
    exact ⟨_, bind_error (typed_error _ _), rfl⟩
  | ok a =>
    rw [bind_ok (typed_ok a transcript)]
    cases readRight : Ty.ofName right with
    | error actual =>
      rw [readLeft, readRight] at refused
      cases refused
      exact ⟨_, bind_error (typed_error _ _), rfl⟩
    | ok b =>
      rw [bind_ok (typed_ok b transcript)]
      dsimp only
      rw [bind_ok (notes_run _ _)]
      cases joins : Ty.unify .numeric a b with
      | error actual =>
        simp only [readLeft, readRight, joins, bind, Except.bind] at refused
        cases refused
        exact ⟨_, bind_error (typed_error _ _), rfl⟩
      | ok joined =>
        simp only [readLeft, readRight, joins, bind, Except.bind] at refused
        cases refused

theorem answerJoin_ok (asked : joinOf left right = .ok (a, b, joined)) (transcript : Transcript) :
    ∃ leftWay rightWay later, Conversion.classify .numeric a joined = .ok leftWay ∧
      Conversion.classify .numeric b joined = .ok rightWay ∧
      answerJoin left right transcript = (.ok (), later) ∧
      later.output = transcript.output ++ joinSpans a b joined leftWay rightWay := by
  obtain ⟨_, readLeft, asked⟩ := bind_eq_ok_iff.mp asked
  obtain ⟨_, readRight, asked⟩ := bind_eq_ok_iff.mp asked
  obtain ⟨_, joins, asked⟩ := bind_eq_ok_iff.mp asked
  cases asked
  obtain ⟨leftWay, leftOk⟩ := Ty.unify_classify_left joins
  obtain ⟨rightWay, rightOk⟩ := Ty.unify_classify_right joins
  unfold answerJoin
  rw [readLeft, bind_ok (typed_ok a transcript), readRight, bind_ok (typed_ok b transcript)]
  dsimp only
  rw [bind_ok (notes_run _ _), joins, bind_ok (typed_ok joined _), bind_ok (say_run _ _)]
  refine ⟨leftWay, rightWay, _, leftOk, rightOk, sides_run leftOk rightOk _, ?_⟩
  simp only [joinSpans, List.append_assoc]

/-- Loading the settings says nothing, whether it succeeds or not. -/
theorem loadSettings_run (path : String) (file : FileState) (transcript : Transcript) :
    ∃ log, loadSettings path file transcript =
      ((Settings.ofFileOrDefault file).mapError .settings, { transcript with log }) := by
  unfold loadSettings
  cases outcome : Settings.ofFileOrDefault file with
  | ok settings => cases file <;> exact ⟨_, rfl⟩
  | error failure => cases file <;> exact ⟨_, rfl⟩

/-- The report on a join query: all lines on the join and its sides, or a failure and no
output at all. -/
def Report.AnswersJoin (report : Report) (colored : Bool) :
    Except QueryError (Ty × Ty × Ty) → Prop
  | .error failure => report.exitCode = 1 ∧ report.output = "" ∧ report.failure = failure.text
  | .ok (a, b, joined) =>
    report.exitCode = 0 ∧ report.failure = "" ∧
      ∃ leftWay rightWay, Conversion.classify .numeric a joined = .ok leftWay ∧
        Conversion.classify .numeric b joined = .ok rightWay ∧
        report.output = String.join
          ((joinSpans a b joined leftWay rightWay).map (Span.render colored))

def joinQuery (file : FileState) (left right : String) : Except QueryError (Ty × Ty × Ty) := do
  let _ ← (Settings.ofFileOrDefault file).mapError .settings
  (joinOf left right).mapError .type

namespace Invocation

variable {invocation : Invocation} {left right : String} {file : FileState}

def answering (invocation : Invocation) (file : FileState) : Answering Unit := do
  answerQuery (← loadSettings invocation.options.configPath file) invocation.query

private theorem run_ok (ran : invocation.answering file {} = (.ok (), transcript))
    (env : Environment) :
    (invocation.run env file).exitCode = 0 ∧ (invocation.run env file).failure = "" ∧
      (invocation.run env file).output = String.join
        (transcript.output.map (Span.render (env.colored invocation.options.color))) := by
  unfold answering at ran
  simp [run, ExceptT.run, StateT.run, ran]

private theorem run_error (ran : invocation.answering file {} = (.error failure, transcript))
    (unsaid : transcript.output = []) (env : Environment) :
    (invocation.run env file).exitCode = 1 ∧ (invocation.run env file).output = "" ∧
      (invocation.run env file).failure = failure.text := by
  unfold answering at ran
  simp [run, ExceptT.run, StateT.run, ran, unsaid]

/-- A join query is answered in full, or refused before anything is said. -/
theorem run_join (asked : invocation.query = .join left right) (env : Environment)
    (file : FileState) :
    (invocation.run env file).AnswersJoin (env.colored invocation.options.color)
      (joinQuery file left right) := by
  obtain ⟨log, loaded⟩ := loadSettings_run invocation.options.configPath file {}
  cases settings : Settings.ofFileOrDefault file with
  | error failure =>
    rw [settings] at loaded
    simp only [joinQuery, settings, Except.mapError]
    exact run_error (bind_error loaded) rfl env
  | ok read =>
    rw [settings] at loaded
    have query : invocation.answering file {} = answerJoin left right { log } := by
      rw [answering, asked]
      exact bind_ok loaded
    simp only [joinQuery, settings, Except.mapError]
    cases wanted : joinOf left right with
    | error failure =>
      obtain ⟨later, refused, unsaid⟩ := answerJoin_error wanted { log }
      exact run_error (query.trans refused) unsaid env
    | ok sides =>
      obtain ⟨a, b, joined⟩ := sides
      obtain ⟨leftWay, rightWay, later, leftOk, rightOk, answered, said⟩ :=
        answerJoin_ok wanted { log }
      obtain ⟨succeeded, silent, output⟩ := run_ok (query.trans answered) env
      rw [said] at output
      exact ⟨succeeded, silent, leftWay, rightWay, leftOk, rightOk, output⟩

end Invocation

end RowTyping.Command

namespace RowTyping

open Command

/-- Whatever a join yields, both sides convert to it. So typing a function fails neither in a
conversion nor in reading a name, and a mask is refused only where `NA` is joined with a branch
that no mask covers; a query that has shown a join goes on to answer in full. -/
theorem joins_always_convert :
    (∀ a b joined, Ty.unify .numeric a b = .ok joined →
      (∃ way, Conversion.classify .numeric a joined = .ok way) ∧
        ∃ way, Conversion.classify .numeric b joined = .ok way) ∧
    (∀ settings ctx params body failure,
      (inferFunction ⟨.numeric, settings⟩ ctx params body).1 = .error failure →
      (∀ source target, failure ≠ .incompatibleCast source target) ∧
      (∀ input expected, failure ≠ .unreadable input expected) ∧
      ∀ found, failure = .unsupportedValue found →
        ∃ sub ∈ body.postorder, ∃ ty,
          sub.JoinsUncovered ⟨.numeric, settings⟩ params ty ∧ found = ty.name) ∧
    ∀ (invocation : Invocation) (left right : String) (env : Environment) (file : FileState),
      invocation.query = .join left right →
      (invocation.run env file).AnswersJoin (env.colored invocation.options.color)
        (joinQuery file left right) := by
  refine ⟨?_, ?_, ?_⟩
  · intro a b joined joins
    exact ⟨Ty.unify_classify_left joins, Ty.unify_classify_right joins⟩
  · intro settings ctx params body failure failed
    rcases inferFunction_blames settings ctx params body failure failed with
      misuse | ⟨sub, inside, ty, uncovered, same⟩
    · refine ⟨?_, ?_, ?_⟩
      · rintro source target rfl
        cases misuse
      · rintro input expected rfl
        cases misuse
      · rintro found rfl
        cases misuse
    · subst same
      refine ⟨by simp, by simp, ?_⟩
      intro found named
      cases named
      exact ⟨sub, inside, ty, uncovered, rfl⟩
  · intro invocation left right env file asked
    exact Invocation.run_join asked env file

/-- A constant text where a condition holds, and nothing where it does not. -/
def textOrNothing : Expr := .ifElse (.param 0) (.literal (.string "x")) .na

/-- The literal of the branch is blamed, since no mask covers it. A view has a mask, to which it
converts, and the command line shows how. -/
theorem textOrNothing_refuses_mask :
    (inferFunction ⟨.numeric, {}⟩ .initial [.bool] textOrNothing).1 =
        .error (.unsupportedValue "Literal[str]") ∧
      (∃ sub ∈ textOrNothing.postorder, ∃ ty,
        sub.JoinsUncovered ⟨.numeric, {}⟩ [.bool] ty ∧ "Literal[str]" = ty.name) ∧
      (∃ way, Conversion.classify .numeric .stringView .maskedString = .ok way) ∧
      joinOf "NA" "string_view" = .ok (.null, .stringView, .maskedString) ∧
      (Invocation.run ⟨{}, .join "NA" "string_view"⟩ {} .missing).AnswersJoin false
        (joinQuery .missing "NA" "string_view") := by
  have failed : (inferFunction ⟨.numeric, {}⟩ .initial [.bool] textOrNothing).1 =
      .error (.unsupportedValue "Literal[str]") := by decide +kernel
  have joins : Ty.unify .numeric .null .stringView = .ok .maskedString := rfl
  refine ⟨failed, ?_, ?_, by decide +kernel, ?_⟩
  · exact (joins_always_convert.2.1 _ _ _ _ _ failed).2.2 _ rfl
  · exact (joins_always_convert.1 _ _ _ joins).2
  · exact joins_always_convert.2.2 _ _ _ _ _ rfl

end RowTyping
