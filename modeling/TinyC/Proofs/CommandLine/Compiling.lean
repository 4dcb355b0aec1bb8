import TinyC.Proofs.CommandLine.Execution
import TinyC.Proofs.CommandLine.Saving

/-!
# What a compilation leaves behind

A compilation writes only what it was asked for.  If the program cannot be read
or has an error, the outcome says so and no file has changed.  If the outcome is
good, the script of the program stands at the output path, or a device that was
there has taken it, and at most directories have been added elsewhere.
-/

namespace TinyC.Invocation

variable {settings : Settings} {files : FileSystem} {input : Input} {coloring : Coloring}
  {path text : String}

/-- A compilation writes nothing but the script of the program, and only if there is one. -/
structure CompilesOnly (settings : Settings) (files : FileSystem) (coloring : Coloring)
    (input : Input) (path : String) : Prop where
  unreadable : ∀ error, readInput files input = .error error →
    execute ⟨.compile path, input, coloring⟩ settings files =
      .ok ⟨1, "", error.message ++ "\n", files⟩
  /-- An error is shown unless it is too far to the right for the screen. -/
  erroneous : ∀ text error, readInput files input = .ok text → Program.ofText text = .error error →
    error.columnsBefore text ≤ 65535 →
      ∃ shown, (error.report 0).render {} [.ofText input.name text] (settings.colored coloring) =
          .ok shown ∧
        execute ⟨.compile path, input, coloring⟩ settings files =
          .ok ⟨1, "compiling " ++ input.name ++ " to " ++ path ++ "...\n",
            shown ++ "errors while compiling\n", files⟩
  good : ∀ outcome, execute ⟨.compile path, input, coloring⟩ settings files = .ok outcome →
    outcome.exitCode = 0 → ∃ text program, readInput files input = .ok text ∧
      Program.ofText text = .ok program ∧
        ∃ place entry, FileSystem.SavedAt files outcome.files path (Script.ofProgram program).code
          place entry
  /-- A program that can be read has a good outcome if its script can be saved. -/
  ends : ∀ text program, readInput files input = .ok text → Program.ofText text = .ok program →
    ∃ outcome, execute ⟨.compile path, input, coloring⟩ settings files = .ok outcome ∧
      (outcome.exitCode = 0 ↔ (files.save path (Script.ofProgram program).code).1 = .ok ())

/-- The outcome of a compilation that came to the point of saving. -/
theorem exists_outcome_of_compile {program : Program} (hread : readInput files input = .ok text)
    (hprogram : Program.ofText text = .ok program) :
    ∃ outcome, execute ⟨.compile path, input, coloring⟩ settings files = .ok outcome ∧
      outcome.files = (files.save path (Script.ofProgram program).code).2.files ∧
      (outcome.exitCode = 0 ↔ (files.save path (Script.ofProgram program).code).1 = .ok ()) := by
  obtain ⟨before, after, hshown⟩ := Report.exists_render_ofMissingMain (settings.colored coloring)
  have hreports := @Session.mapM_render_warnings _ text _ _ program _
    (hshown input.name [.ofText input.name text])
  cases hsaved : files.save path (Script.ofProgram program).code with
  | mk saved written =>
      cases saved with
      | ok done =>
          exact ⟨_, execute_compile hread hprogram hreports hsaved, rfl, iff_of_true rfl rfl⟩
      | error error =>
          exact ⟨_, execute_compile_unsaved hread hprogram hreports hsaved, rfl,
            iff_of_false Nat.one_ne_zero nofun⟩

/-- A good outcome comes of a program, whose script was saved. -/
theorem exists_savedAt_of_compile {outcome : Outcome}
    (houtcome : execute ⟨.compile path, input, coloring⟩ settings files = .ok outcome)
    (hcode : outcome.exitCode = 0) :
    ∃ text program, readInput files input = .ok text ∧ Program.ofText text = .ok program ∧
      ∃ place entry, FileSystem.SavedAt files outcome.files path (Script.ofProgram program).code
        place entry := by
  cases hread : readInput files input with
  | error error =>
      rw [execute_of_unreadable hread] at houtcome
      obtain rfl := Except.ok.inj houtcome
      cases hcode
  | ok text =>
      cases hprogram : Program.ofText text with
      | error error =>
          have hcomes : (Command.compile path).question.ComesUpon error :=
            Session.Question.script_comesUpon error
          have hfailed := exitCode_of_comesUpon hread hprogram hcomes houtcome
          omega
      | ok program =>
          refine ⟨text, program, rfl, hprogram, ?_⟩
          obtain ⟨known, hknown, hfiles, hiff⟩ := @exists_outcome_of_compile settings files input
            coloring path text program hread hprogram
          obtain rfl := Except.ok.inj (houtcome.symm.trans hknown)
          rw [hfiles]
          exact FileSystem.exists_savedAt (Prod.ext (hiff.1 hcode) rfl)

/-- A compilation changes nothing unless the program can be read and compiles; if it ends well, its
output path leads to the script and all else is as it was, directories apart that were missing. -/
theorem compile_writes_only_script (settings : Settings) (files : FileSystem) (coloring : Coloring)
    (input : Input) (path : String) : CompilesOnly settings files coloring input path := by
  constructor
  case unreadable => exact fun error hread => execute_of_unreadable hread
  case erroneous =>
    intro text error hread herror hcolumns
    obtain ⟨before, after, hshown⟩ :=
      SourceError.exists_render (settings.colored coloring) herror hcolumns
    have hcomes : (Command.compile path).question.ComesUpon error :=
      Session.Question.script_comesUpon error
    exact ⟨_, hshown input.name, execute_of_error hread herror hcomes (hshown input.name)⟩
  case good => exact fun outcome houtcome hcode => exists_savedAt_of_compile houtcome hcode
  case ends =>
    intro text program hread hprogram
    obtain ⟨outcome, houtcome, -, hiff⟩ := @exists_outcome_of_compile settings files input coloring
      path text program hread hprogram
    exact ⟨outcome, houtcome, hiff⟩

/-! ## Concrete systems -/

/-- A program that does nothing. -/
def idle : String := "int main() \x7b\x7d"

/-- The tree of that program. -/
def idleProgram : Program := ⟨[⟨"main", []⟩]⟩

theorem ofText_idle : Program.ofText idle = .ok idleProgram :=
  ofText_eq_ok_of_toOption (by decide +kernel)

/-- A text that is no program is left alone, and a program in a file has its script in a directory
that did not exist. -/
theorem compile_writes_only_script_idle :
    let files := (Interpreter.system ["work"]).addFile "idle" (Text.encode idle)
    let error : SourceError := .lex ⟨'?', 0⟩
    ((readInput files ⟨"?", true⟩ = .ok "?" ∧ Program.ofText "?" = .error error ∧
        error.columnsBefore "?" ≤ 65535) ∧
      ∃ shown, execute ⟨.compile "made/script", ⟨"?", true⟩, .auto⟩ {} files =
        .ok ⟨1, "compiling <unnamed> to made/script...\n", shown ++ "errors while compiling\n",
          files⟩) ∧
    (readInput files ⟨"idle", false⟩ = .ok idle ∧
        (files.save "made/script" (Script.ofProgram idleProgram).code).1 = .ok ()) ∧
      ∃ outcome, execute ⟨.compile "made/script", ⟨"idle", false⟩, .auto⟩ {} files = .ok outcome ∧
        outcome.exitCode = 0 ∧ ∃ place entry, FileSystem.SavedAt files outcome.files "made/script"
          (Script.ofProgram idleProgram).code place entry := by
  intro files error
  have hnothing := compile_writes_only_script {} files .auto ⟨"?", true⟩ "made/script"
  have hscript := compile_writes_only_script {} files .auto ⟨"idle", false⟩ "made/script"
  have herror : Program.ofText "?" = .error error := eq_error_of_error? (by decide +kernel)
  have hcolumns : error.columnsBefore "?" ≤ 65535 := by decide +kernel
  have hread : readInput files ⟨"idle", false⟩ = .ok idle :=
    FileSystem.readText_addFile _ idle ⟨by decide, by decide, by decide⟩ (by decide)
  have hsaved : (files.save "made/script" (Script.ofProgram idleProgram).code).1 = .ok () := rfl
  obtain ⟨shown, -, hshown⟩ := hnothing.erroneous "?" error rfl herror hcolumns
  obtain ⟨outcome, houtcome, hiff⟩ := hscript.ends idle idleProgram hread ofText_idle
  refine ⟨⟨⟨rfl, herror, hcolumns⟩, shown, hshown⟩, ⟨hread, hsaved⟩, outcome, houtcome,
    hiff.2 hsaved, ?_⟩
  obtain ⟨text, program, htext, hprogram, hplace⟩ :=
    hscript.good outcome houtcome (hiff.2 hsaved)
  obtain rfl := Except.ok.inj (hread.symm.trans htext)
  obtain rfl := Except.ok.inj (ofText_idle.symm.trans hprogram)
  exact hplace

/-- What a device has taken cannot be found at the output path, although the outcome is good. -/
theorem compile_to_device :
    let files := Interpreter.system ["work"]
    ∃ outcome, execute ⟨.compile "/dev/stdout", ⟨idle, true⟩, .auto⟩ {} files = .ok outcome ∧
      outcome.exitCode = 0 ∧ Program.ofText idle = .ok idleProgram ∧
      outcome.files.find "/dev/stdout" = .ok (["stdout", "dev"], some (.device .output)) ∧
      outcome.files.readText "/dev/stdout" ≠ .ok (Script.ofProgram idleProgram).code := by
  intro files
  have hread : readInput files ⟨idle, true⟩ = .ok idle := rfl
  obtain ⟨outcome, houtcome, hfiles, hiff⟩ :=
    @exists_outcome_of_compile {} files ⟨idle, true⟩ .auto "/dev/stdout" idle idleProgram hread
      ofText_idle
  have hsaved : files.save "/dev/stdout" (Script.ofProgram idleProgram).code =
      (.ok (), ⟨files, (Script.ofProgram idleProgram).code, ""⟩) := rfl
  rw [hsaved] at hfiles hiff
  have hempty : files.readText "/dev/stdout" = .ok "" := rfl
  have hcode : (Script.ofProgram idleProgram).code ≠ "" := by decide +kernel
  refine ⟨outcome, houtcome, hiff.2 rfl, ofText_idle, ?_, ?_⟩
  · rw [hfiles]
    rfl
  · rw [hfiles, hempty]
    exact fun heq => hcode (Except.ok.inj heq).symm

end TinyC.Invocation
