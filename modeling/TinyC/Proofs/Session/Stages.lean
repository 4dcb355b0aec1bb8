import TinyC.Proofs.Script.Lines
import TinyC.Proofs.Session

/-!
# Stages of a compilation

A source is asked for its tokens, its program or its script.  Each of these
stages fails exactly if the text has an error by then, and its answer is what
the text alone determines.  Of an error there is one report, the same from every
stage that comes upon it.  Only the last stage warns: exactly if the script that
it gives does not start anywhere.

## Strategy

The warning looks for a function in the program, and the script is given its
last lines after a search of its own.  Both are tied to the text of the script:
the line that starts it is no first line of a script and no line of a function,
since these are heads of definitions, empty or indented.
-/

namespace TinyC

open ScriptLanguage

variable {session : Session} {source : Source} {id : Nat}

namespace Script

/-- The line with which a script begins to start a function. -/
def startLine : String := "if __name__ == \"__main__\":"

theorem startLine_not_mem_blockLines {function : Function}
    (hnames : ∀ name ∈ function.names, Lexical.IsName name) : startLine ∉ blockLines function := by
  intro hline
  rw [blockLines, List.mem_append] at hline
  rcases hline with hhead | hbody
  · -- A head of a definition begins with another letter.
    simp only [List.mem_cons, List.not_mem_nil, or_false] at hhead
    rcases hhead with hempty | hempty | hhead
    · exact absurd hempty (by decide)
    · exact absurd hempty (by decide)
    · have hletter := congrArg (fun line => line.toList.head?) hhead
      simp [startLine] at hletter
  · have hindented := isIndented_of_mem_bodyLines (List.forall_mem_cons.1 hnames).2 _ hbody
    obtain ⟨first, rest, htext, -⟩ := hindented.1
    simp [startLine] at htext

/-- The line is among those of a script exactly if the program has a function to start at. -/
theorem startLine_mem_lines {program : Program}
    (hnames : ∀ name ∈ program.names, Lexical.IsName name) :
    startLine ∈ (ofProgram program).lines ↔
      ∃ function ∈ program.functions, function.name = "main" := by
  have hfirst : startLine ∉ firstLines := by decide
  have hblocks : startLine ∉ program.functions.flatMap blockLines := by
    intro hline
    obtain ⟨function, hfunction, hline⟩ := List.mem_flatMap.1 hline
    exact startLine_not_mem_blockLines
      (fun name hname => hnames name (List.mem_flatMap.2 ⟨function, hfunction, hname⟩)) hline
  rw [lines_ofProgram, startLines, List.mem_append, List.mem_append]
  by_cases hmain : ∃ function ∈ program.functions, function.name = "main"
  · rw [if_pos hmain]
    exact ⟨fun _ => hmain, fun _ => .inr (by decide)⟩
  · rw [if_neg hmain]
    simp [hfirst, hblocks, hmain]

/-- The same is true of the lines into which the text of the script splits. -/
theorem startLine_mem_splitLines {text : String} {program : Program}
    (hread : Program.ofText text = .ok program) :
    startLine.toList ∈ splitLines (ofProgram program).code.toList ↔
      ∃ function ∈ program.functions, function.name = "main" := by
  have hnames : ∀ name ∈ program.names, Lexical.IsName name := isName_of_ofText hread
  have hempty : startLine.toList ∉ [[]] := by decide
  rw [← startLine_mem_lines hnames, splitLines_code_of_isInline (isInline_of_mem_lines hnames),
    List.mem_append, or_iff_left hempty]
  simp [String.toList_inj]

end Script

namespace Session

/-- The stage comes upon the error: an error of grammar is found only after the tokens. -/
def Question.ComesUpon : Question → SourceError → Prop
  | .tokens, .grammar _ => False
  | _, _ => True

theorem Question.script_comesUpon (error : SourceError) : Question.script.ComesUpon error := by
  cases error <;> exact trivial

/-- The answers of the stages and the reports that they make are what the text determines. -/
structure StagesAgree (session : Session) (id : Nat) (text : String) : Prop where
  tokens_eq : (session.tokens id).1 = (Token.lex text).mapError fun _ => .hadErrors
  program_eq : (session.program id).1 = (Program.ofText text).mapError fun _ => .hadErrors
  script_eq : (session.script id).1.map Script.code =
    ((Program.ofText text).map fun program => (Script.ofProgram program).code).mapError
      fun _ => .hadErrors
  /-- A stage that fails makes one report, which is that of every stage that comes so far. -/
  reports_error : ∀ error, Program.ofText text = .error error →
    ∃ report : Report, report.severity = .error ∧
      ∀ question : Question, question.ComesUpon error →
        (session.ask question id).2 = session.reporting [report]
  tokens_silent : ∀ tokens, Token.lex text = .ok tokens → (session.tokens id).2 = session
  program_silent : ∀ program, Program.ofText text = .ok program → (session.program id).2 = session
  /-- There is one warning if the script does not start anywhere, and nothing else. -/
  script_warns : ∀ program, Program.ofText text = .ok program →
    ∃ warning : Report, warning.severity = .warning ∧
      (session.script id).2 = session.reporting
        (if Script.startLine.toList ∈ splitLines (Script.ofProgram program).code.toList then []
          else [warning])
  starts_iff : ∀ program, Program.ofText text = .ok program →
    (Script.startLine.toList ∈ splitLines (Script.ofProgram program).code.toList ↔
      ∃ function ∈ program.functions, function.name = "main")

theorem lex_of_ofText_error {text : String} {error : LexError}
    (herror : Program.ofText text = .error (.lex error)) : Token.lex text = .error error := by
  rw [Program.ofText] at herror
  cases hlex : Token.lex text with
  | error unexpected =>
      rw [hlex] at herror
      simpa using herror
  | ok tokens =>
      rw [hlex] at herror
      dsimp only at herror
      cases hread : Program.ofTokens tokens <;> simp [hread] at herror

/-- The stages of a compilation agree: each fails exactly if the text has an error by then, and
gives what the text determines if not; all that come upon an error make the same single report of
it; and the script comes with one warning if it does not start anywhere, and without a report if it
does. -/
theorem stages_agree (hsource : session.sources[id]? = some source) :
    StagesAgree session id source.text := by
  have htokens := tokens_of_source hsource
  have hprogram := program_of_source hsource
  have hscript := script_of_source hsource
  constructor
  case tokens_eq =>
    rw [htokens]
    cases Token.lex source.text <;> rfl
  case program_eq =>
    rw [hprogram]
    cases Program.ofText source.text <;> rfl
  case script_eq =>
    rw [hscript]
    cases Program.ofText source.text <;> rfl
  case reports_error =>
    intro error herror
    refine ⟨error.report id, SourceError.severity_report id error, fun question hcomes => ?_⟩
    rw [herror] at hprogram hscript
    cases question with
    | tokens =>
        cases error with
        | lex unexpected =>
            rw [lex_of_ofText_error herror] at htokens
            rw [ask, htokens]
            rfl
        | grammar unmet => exact hcomes.elim
    | program => rw [ask, hprogram]
    | script => rw [ask, hscript]
  case tokens_silent =>
    intro tokens hlex
    rw [htokens, hlex]
  case program_silent =>
    intro program hread
    rw [hprogram, hread]
  case script_warns =>
    intro program hread
    refine ⟨.ofMissingMain source.name, rfl, ?_⟩
    rw [hscript, hread]
    simp only [warnings, Script.startLine_mem_splitLines hread, Script.hasMain_iff]
  case starts_iff => exact fun program hread => Script.startLine_mem_splitLines hread

/-- The second of two sources, whose program has no function to start at, after the first failed. -/
theorem stages_agree_warned :
    let second : Source := .ofText "second" "int f() \x7b return main; \x7d"
    let session : Session := ⟨[.ofText "first" "?", second], [.ofLexError 0 ⟨'?', 0⟩]⟩
    let tokens : List Token :=
      [⟨.intKeyword, "int", 0⟩, ⟨.identifier, "f", 4⟩, ⟨.leftParen, "(", 5⟩, ⟨.rightParen, ")", 6⟩,
        ⟨.leftBrace, "\x7b", 8⟩, ⟨.returnKeyword, "return", 10⟩, ⟨.identifier, "main", 17⟩,
        ⟨.semicolon, ";", 21⟩, ⟨.rightBrace, "\x7d", 23⟩, .endAt 24]
    let program : Program := ⟨[⟨"f", [.returns (some (.name "main"))]⟩]⟩
    let warning : Report :=
      ⟨.warning, some "`second` has no `main` function", [],
        ["the generated program will do nothing when run"]⟩
    session.sources[1]? = some second ∧ StagesAgree session 1 second.text ∧
    session.tokens 1 = (.ok tokens, session) ∧ session.program 1 = (.ok program, session) ∧
    session.script 1 = (.ok (.ofProgram program), session.reporting [warning]) ∧
    (Script.ofProgram program).lines =
      Script.firstLines ++ ["", "", "def f():", "    return main"] := by
  intro second session tokens program warning
  have hsource : session.sources[1]? = some second := rfl
  have hlex : Token.lex second.text = .ok tokens := eq_ok_of_toOption (by decide +kernel)
  have hread : Program.ofText second.text = .ok program :=
    ofText_eq_ok_of_toOption (by decide +kernel)
  refine ⟨hsource, stages_agree hsource, ?_, ?_, ?_, by decide +kernel⟩
  · rw [tokens_of_source hsource, hlex]
  · rw [program_of_source hsource, hread]
  · rw [script_of_source hsource, hread]
    rfl

end Session

end TinyC
