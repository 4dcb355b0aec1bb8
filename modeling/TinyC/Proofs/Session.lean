import TinyC.Session

/-!
# Steps of a session

A session is asked for the tokens, the program or the script of a source.  What
it answers and reports is a matter of that source alone: the other sources, the
reports made before, and the order of the steps have no part in it.  Numbers are
handed out in order and keep denoting the sources they were handed out for; one
that was never handed out is refused, and nothing changes.

## Strategy

Each question is answered by one equation, in which the session occurs only as
what is carried along.  A session that holds one source and no reports has the
same equation with the number zero, and reports differ in that number alone.
-/

namespace TinyC

/-- The report with another source in the place of its own. -/
def Report.inSource (id : Nat) (report : Report) : Report :=
  { report with snippets := report.snippets.map fun snippet => { snippet with source := id } }

theorem SourceError.severity_report (id : Nat) (error : SourceError) :
    (error.report id).severity = .error := by
  cases error <;> rfl

namespace Session

variable {session : Session} {source : Source} {id : Nat}

/-! ## Answers -/

/-- The session with more reports. -/
def reporting (session : Session) (reports : List Report) : Session :=
  ⟨session.sources, session.reports ++ reports⟩

@[simp] theorem reporting_nil (session : Session) : session.reporting [] = session := by
  rw [reporting, List.append_nil]

theorem tokens_of_source (hsource : session.sources[id]? = some source) :
    session.tokens id =
      match Token.lex source.text with
      | .ok tokens => (.ok tokens, session)
      | .error error => (.error .hadErrors, session.reporting [.ofLexError id error]) := by
  rw [tokens, hsource]
  rfl

theorem program_of_source (hsource : session.sources[id]? = some source) :
    session.program id =
      match Program.ofText source.text with
      | .error error => (.error .hadErrors, session.reporting [error.report id])
      | .ok program => (.ok program, session) := by
  rw [program, tokens_of_source hsource, Program.ofText]
  cases Token.lex source.text with
  | error error => rfl
  | ok tokens =>
      dsimp only
      cases Program.ofTokens tokens <;> rfl

/-- What is said about a program that starts nowhere. -/
def warnings (source : Source) (program : Program) : List Report :=
  if program.hasMain then [] else [.ofMissingMain source.name]

theorem script_of_source (hsource : session.sources[id]? = some source) :
    session.script id =
      match Program.ofText source.text with
      | .error error => (.error .hadErrors, session.reporting [error.report id])
      | .ok program => (.ok (.ofProgram program), session.reporting (warnings source program)) := by
  rw [script, program_of_source hsource]
  cases Program.ofText source.text with
  | error error => rfl
  | ok program =>
      dsimp only
      rw [warnOfMissingMain, warnings, hsource]
      by_cases hmain : program.hasMain = true
      · rw [if_pos hmain, if_pos hmain, reporting_nil]
      · rw [if_neg hmain, if_neg hmain]
        rfl

/-! ## Runs -/

/-- What a session can be asked about a source. -/
inductive Question
  | tokens
  | program
  | script
  deriving DecidableEq, Repr

/-- A step of a session. -/
inductive Step
  | add (name text : String)
  | ask (question : Question) (id : Nat)
  deriving DecidableEq, Repr

/-- What a step answers. -/
inductive Answer
  | added (id : Nat)
  | tokens (outcome : Except Refusal (List Token))
  | program (outcome : Except Refusal Program)
  | script (outcome : Except Refusal Script)

/-- The answer to a question about a source, and the session after it. -/
def ask (session : Session) (question : Question) (id : Nat) : Answer × Session :=
  match question with
  | .tokens =>
      let (outcome, next) := session.tokens id
      (.tokens outcome, next)
  | .program =>
      let (outcome, next) := session.program id
      (.program outcome, next)
  | .script =>
      let (outcome, next) := session.script id
      (.script outcome, next)

/-- The answer to a question about a source that does not exist. -/
def Question.refused : Question → Answer
  | .tokens => .tokens (.error .unknownSource)
  | .program => .program (.error .unknownSource)
  | .script => .script (.error .unknownSource)

/-- The answer to a step, and the session after it. -/
def perform (session : Session) : Step → Answer × Session
  | .add name text =>
      let (id, next) := session.addSource (.ofText name text)
      (.added id, next)
  | .ask question id => session.ask question id

/-- The answers to steps in a row, and the session after them. -/
def run (session : Session) : List Step → List Answer × Session
  | [] => ([], session)
  | step :: steps =>
      let (answer, next) := session.perform step
      let (answers, last) := next.run steps
      (answer :: answers, last)

/-- The sources that steps add. -/
def added (steps : List Step) : List Source :=
  steps.filterMap fun
    | .add name text => some (.ofText name text)
    | .ask _ _ => none

/-- The session that holds one source and has reported nothing. -/
def holding (source : Source) : Session := (empty.addSource source).2

/-- A question about a source has the answer that it has where there is no other source, and adds
the reports that it makes there. -/
theorem ask_of_source (hsource : session.sources[id]? = some source) (question : Question) :
    session.ask question id =
      (((holding source).ask question 0).1,
        session.reporting
          (((holding source).ask question 0).2.reports.map (Report.inSource id))) := by
  have halone : (holding source).sources[0]? = some source := rfl
  cases question with
  | tokens =>
      rw [ask, ask, tokens_of_source hsource, tokens_of_source halone]
      cases Token.lex source.text with
      | ok tokens => simp [holding, empty, addSource]
      | error error => rfl
  | program =>
      rw [ask, ask, program_of_source hsource, program_of_source halone]
      cases Program.ofText source.text with
      | ok program => simp [holding, empty, addSource]
      | error error => cases error <;> rfl
  | script =>
      rw [ask, ask, script_of_source hsource, script_of_source halone]
      cases Program.ofText source.text with
      | error error => cases error <;> rfl
      | ok program =>
          dsimp only [warnings]
          split <;> rfl

theorem ask_of_unknown (hsource : session.sources[id]? = none) (question : Question) :
    session.ask question id = (question.refused, session) := by
  have htokens : session.tokens id = (.error .unknownSource, session) := by rw [tokens, hsource]
  have hprogram : session.program id = (.error .unknownSource, session) := by
    rw [program, htokens]
  cases question with
  | tokens => rw [ask, htokens]; rfl
  | program => rw [ask, hprogram]; rfl
  | script => rw [ask, script, hprogram]; rfl

/-- A step keeps the sources and adds its own. -/
theorem sources_perform (session : Session) (step : Step) :
    (session.perform step).2.sources = session.sources ++ added [step] := by
  cases step with
  | add name text => rfl
  | ask question id =>
      have hnone : added [.ask question id] = [] := rfl
      rw [perform, hnone, List.append_nil]
      cases hsource : session.sources[id]? with
      | none => rw [ask_of_unknown hsource]
      | some source => rw [ask_of_source hsource]; rfl

/-- After steps there are the sources that they added, in their order. -/
theorem sources_run (session : Session) (steps : List Step) :
    (session.run steps).2.sources = session.sources ++ added steps := by
  induction steps generalizing session with
  | nil => exact (List.append_nil _).symm
  | cons step steps ih =>
      have hadded : added (step :: steps) = added [step] ++ added steps :=
        @List.filterMap_append _ _ [step] steps _
      rw [run, hadded, ← List.append_assoc, ← sources_perform]
      exact ih _

/-- Steps do not influence each other.  After any steps, the sources are those that were added, in
order; the next one gets the next number; a question about one of them has the answer and makes the
reports that it has and makes in a session with this source only, under its number; and a question
about a number that was not handed out is refused and changes nothing. -/
theorem perform_run (earlier : List Step) (step : Step) :
    (empty.run earlier).2.sources = added earlier ∧
      (empty.run earlier).2.perform step =
        match step with
        | .add name text =>
            (.added (added earlier).length,
              ⟨added earlier ++ [.ofText name text], (empty.run earlier).2.reports⟩)
        | .ask question id =>
            match (added earlier)[id]? with
            | none => (question.refused, (empty.run earlier).2)
            | some source =>
                (((holding source).ask question 0).1,
                  ⟨added earlier, (empty.run earlier).2.reports ++
                    ((holding source).ask question 0).2.reports.map (Report.inSource id)⟩) := by
  have hsources : (empty.run earlier).2.sources = added earlier := by
    rw [sources_run]
    rfl
  refine ⟨hsources, ?_⟩
  rw [← hsources]
  cases step with
  | add name text => rfl
  | ask question id =>
      dsimp only [perform]
      cases hsource : (empty.run earlier).2.sources[id]? with
      | none => exact ask_of_unknown hsource question
      | some source => exact ask_of_source hsource question

end Session

end TinyC
