import TinyC.Proofs.ScriptLanguage.Unambiguity

/-!
# Statements and modules

A module is read line by line.  Lines without words do not count; the others are
rows of words with an indentation:

    line    = import name as name, or name = expression, or return, or
              return expression, or expression, or pass
    head    = def name ( parameters ) :
    block   = any number of: line, or head and a block that is indented further

The lines of a block have one indentation, and a block goes on up to the first
line that is indented less.  A parameter with a star is the last one.  Statements
of other forms, and those that go on over several lines, are not read.

Reading a module is no more ambiguous than reading an expression.
-/

namespace TinyC.ScriptLanguage

/-! ## Statements -/

/-- A statement. -/
inductive Statement
  | importAs (library name : String)
  | define (name : String) (parameters : List String) (others : Option String)
      (body : List Statement)
  | assign (name : String) (value : Tree)
  | returns (value : Option Tree)
  | evaluate (tree : Tree)
  | pass
  deriving Repr

/-- Whether a name may be given a value. -/
def isBindable (name : String) : Bool := Script.normalName name ≠ Script.constantName

/-- The words of a line are read as a statement. -/
inductive ReadsLine : List Word → Statement → Prop
  | importAs {library name : String} : isBindable name = true →
      ReadsLine [.keyword "import", .name library, .keyword "as", .name name]
        (.importAs (Script.normalName library) (Script.normalName name))
  | assign {name : String} {words : List Word} {value : Tree} : isBindable name = true →
      Reads .expression words value [] →
      ReadsLine (.name name :: .sign "=" :: words) (.assign (Script.normalName name) value)
  | returns : ReadsLine [.keyword "return"] (.returns none)
  | returnsValue {words : List Word} {value : Tree} : Reads .expression words value [] →
      ReadsLine (.keyword "return" :: words) (.returns (some value))
  | evaluate {words : List Word} {tree : Tree} : Reads .expression words tree [] →
      ReadsLine words (.evaluate tree)
  | pass : ReadsLine [.keyword "pass"] .pass

/-- The parameters in the words after the bracket of a head, and the one that takes all other
arguments. -/
def parameters? : List Word → Option (List String × Option String)
  | [.sign ")", .sign ":"] => some ([], none)
  | [.sign "*", .name name, .sign ")", .sign ":"] =>
      if isBindable name then some ([], some (Script.normalName name)) else none
  | [.name name, .sign ")", .sign ":"] =>
      if isBindable name then some ([Script.normalName name], none) else none
  | .name name :: .sign "," :: rest =>
      if isBindable name then
        (parameters? rest).map (Prod.map (Script.normalName name :: ·) id)
      else none
  | _ => none

/-! ## Blocks -/

/-- A line with words, and how many blanks stand before them. -/
structure Row where
  indentation : Nat
  words : List Word
  deriving DecidableEq, Repr

/-- The row of a line, if it has words.  Only spaces may indent it. -/
def row? (line : List Char) : Option (List Row) :=
  (words? line).bind fun words =>
    let blanks := line.takeWhile isBlank
    if words.isEmpty then some []
    else if blanks.all (· = ' ') then some [⟨blanks.length, words⟩]
    else none

/-- The rows of lines. -/
def rows? : List (List Char) → Option (List Row)
  | [] => some []
  | line :: rest => (row? line).bind fun row => (rows? rest).map (row ++ ·)

theorem rows?_append {before after : List (List Char)} {rows rows₂ : List Row}
    (hbefore : rows? before = some rows) (hafter : rows? after = some rows₂) :
    rows? (before ++ after) = some (rows ++ rows₂) := by
  induction before generalizing rows with
  | nil =>
      obtain rfl := Option.some.inj hbefore
      exact hafter
  | cons line before ih =>
      obtain ⟨row, hrow, hrest⟩ := Option.bind_eq_some_iff.1 hbefore
      obtain ⟨others, hothers, rfl⟩ := Option.map_eq_some_iff.1 hrest
      rw [List.cons_append, rows?, hrow, ih hothers, Option.bind_some, Option.map_some,
        List.append_assoc]

/-- A line with words, and spaces before them. -/
theorem row?_of_words? {text : List Char} {words : List Word} (indentation : Nat)
    (htext : words? text = some words) (hwords : words ≠ [])
    (hfirst : ∀ c ∈ text.head?, isBlank c = false) :
    row? (List.replicate indentation ' ' ++ text) = some [⟨indentation, words⟩] := by
  have hindented : words? (List.replicate indentation ' ' ++ text) = some words := by
    induction indentation with
    | zero => exact htext
    | succ indentation ih => rw [List.replicate_succ, List.cons_append, words?_blank, ih]
  have hblanks : (List.replicate indentation ' ' ++ text).takeWhile isBlank =
      List.replicate indentation ' ' := by
    have hspaces : ∀ c ∈ List.replicate indentation ' ', isBlank c = true := by
      intro c hc
      obtain rfl := List.eq_of_mem_replicate hc
      decide
    rw [List.takeWhile_append_of_pos hspaces]
    cases text with
    | nil => simp
    | cons c text => simp [hfirst c rfl]
  have hempty : words.isEmpty = false := by simpa using hwords
  rw [row?, hindented, Option.bind_some, hblanks]
  simp [hempty]

/-- The rows are read as the statements of a block with the given indentation, before the rest. -/
inductive ReadsBlock : Nat → List Row → List Statement → List Row → Prop
  | nil {indentation : Nat} {rest : List Row} : ReadsBlock indentation rest [] rest
  | line {indentation : Nat} {words : List Word} {rows rest : List Row} {statement : Statement}
      {statements : List Statement} : ReadsLine words statement →
      ReadsBlock indentation rows statements rest →
      ReadsBlock indentation (⟨indentation, words⟩ :: rows) (statement :: statements) rest
  | define {indentation deeper : Nat} {name : String} {words : List Word} {rows mid rest : List Row}
      {parameters : List String} {others : Option String} {body statements : List Statement} :
      isBindable name = true → parameters? words = some (parameters, others) →
      (parameters ++ others.toList).Nodup →
      indentation < deeper → body ≠ [] → ReadsBlock deeper rows body mid →
      (∀ row ∈ mid.head?, row.indentation ≤ indentation) →
      ReadsBlock indentation mid statements rest →
      ReadsBlock indentation
        (⟨indentation, .keyword "def" :: .name name :: .sign "(" :: words⟩ :: rows)
        (.define (Script.normalName name) parameters others body :: statements) rest

/-- The text is read as a module with the statements. -/
def IsModule (text : String) (statements : List Statement) : Prop :=
  ∃ rows, rows? (splitLines text.toList) = some rows ∧ ReadsBlock 0 rows statements []

/-! ## Uniqueness -/

theorem Reads.absurd_of_keyword {keyword : String} {words rest : List Word} {tree : Tree}
    (hreads : Reads .expression (.keyword keyword :: words) tree rest) : False :=
  hreads.absurd_of_begins rfl rfl

theorem Reads.ne_nil {rest : List Word} {tree : Tree} (hreads : Reads .expression [] tree rest) :
    False := by
  obtain ⟨word, hword, -⟩ := hreads.begins rfl
  cases hword

/-- An expression is not the beginning of an assignment to its first name. -/
theorem Reads.absurd_of_assignment {name : String} {words : List Word} {tree : Tree}
    (hreads : Reads .expression (.name name :: .sign "=" :: words) tree []) : False := by
  have hname : Reads .expression (.name name :: .sign "=" :: words)
      (.name (Script.normalName name)) (.sign "=" :: words) :=
    Reads.expression_of_factor (Reads.factor_of_atom .name)
  have hends : Position.expression.Ends (.sign "=" :: words) := Position.ends_cons rfl (by decide)
  obtain ⟨-, heq⟩ := hreads.unique hname (Position.ends_nil rfl) hends
  cases heq

theorem ReadsLine.cases_keyword {keyword : String} {words : List Word} {statement : Statement}
    (hline : ReadsLine (.keyword keyword :: words) statement) :
    (keyword = "import" ∧ ∃ library name, words = [.name library, .keyword "as", .name name] ∧
      statement = .importAs (Script.normalName library) (Script.normalName name)) ∨
    (keyword = "return" ∧ words = [] ∧ statement = .returns none) ∨
    (keyword = "return" ∧ ∃ value, Reads .expression words value [] ∧
      statement = .returns (some value)) ∨
    (keyword = "pass" ∧ words = [] ∧ statement = .pass) := by
  cases hline with
  | importAs hname => exact .inl ⟨rfl, _, _, rfl, rfl⟩
  | returns => exact .inr (.inl ⟨rfl, rfl, rfl⟩)
  | returnsValue hvalue => exact .inr (.inr (.inl ⟨rfl, _, hvalue, rfl⟩))
  | evaluate htree => exact htree.absurd_of_keyword.elim
  | pass => exact .inr (.inr (.inr ⟨rfl, rfl, rfl⟩))

theorem Reads.unique_expression {words : List Word} {first second : Tree}
    (hfirst : Reads .expression words first []) (hsecond : Reads .expression words second []) :
    first = second :=
  (hfirst.unique hsecond (Position.ends_nil rfl) (Position.ends_nil rfl)).1

theorem ReadsLine.ne_nil {words : List Word} {statement : Statement}
    (hline : ReadsLine words statement) : words ≠ [] := by
  rintro rfl
  cases hline with
  | evaluate htree => exact htree.ne_nil

theorem ReadsLine.unique {words : List Word} {first second : Statement}
    (hfirst : ReadsLine words first) (hsecond : ReadsLine words second) : first = second := by
  cases hfirst with
  | importAs _ =>
      obtain ⟨-, _, _, heq, rfl⟩ | ⟨hword, -⟩ | ⟨hword, -⟩ | ⟨hword, -⟩ := hsecond.cases_keyword
      · simp at heq
        obtain ⟨rfl, rfl⟩ := heq
        rfl
      all_goals simp at hword
  | returns =>
      obtain ⟨hword, -⟩ | ⟨-, -, rfl⟩ | ⟨-, _, hvalue, -⟩ | ⟨hword, -⟩ := hsecond.cases_keyword
      · simp at hword
      · rfl
      · exact hvalue.ne_nil.elim
      · simp at hword
  | returnsValue hvalue =>
      obtain ⟨hword, -⟩ | ⟨-, rfl, -⟩ | ⟨-, _, hvalue₂, rfl⟩ | ⟨hword, -⟩ := hsecond.cases_keyword
      · simp at hword
      · exact hvalue.ne_nil.elim
      · rw [hvalue.unique_expression hvalue₂]
      · simp at hword
  | pass =>
      obtain ⟨hword, -⟩ | ⟨hword, -⟩ | ⟨hword, -⟩ | ⟨-, -, rfl⟩ := hsecond.cases_keyword
      · simp at hword
      · simp at hword
      · simp at hword
      · rfl
  | assign _ hvalue =>
      cases hsecond with
      | assign _ hvalue₂ => rw [hvalue.unique_expression hvalue₂]
      | evaluate htree => exact htree.absurd_of_assignment.elim
  | evaluate htree =>
      cases hsecond with
      | importAs | returns | returnsValue | pass => exact htree.absurd_of_keyword.elim
      | assign => exact htree.absurd_of_assignment.elim
      | evaluate htree₂ => rw [htree.unique_expression htree₂]

theorem ReadsLine.absurd_of_head {words : List Word} {statement : Statement}
    (hline : ReadsLine (.keyword "def" :: words) statement) : False := by
  obtain ⟨hword, -⟩ | ⟨hword, -⟩ | ⟨hword, -⟩ | ⟨hword, -⟩ := hline.cases_keyword <;>
    simp at hword

/-- A block that is not empty has the indentation of its first row. -/
theorem ReadsBlock.indentation_of_ne_nil {indentation : Nat} {rows rest : List Row}
    {statements : List Statement} (hreads : ReadsBlock indentation rows statements rest)
    (hne : statements ≠ []) : rows.head?.map Row.indentation = some indentation := by
  cases hreads with
  | nil => exact absurd rfl hne
  | line | define => rfl

theorem ReadsBlock.indentation_eq {first second : Nat} {rows rest rest₂ : List Row}
    {statements statements₂ : List Statement} (hfirst : ReadsBlock first rows statements rest)
    (hsecond : ReadsBlock second rows statements₂ rest₂) (hne : statements ≠ [])
    (hne₂ : statements₂ ≠ []) : first = second :=
  Option.some.inj ((hfirst.indentation_of_ne_nil hne).symm.trans
    (hsecond.indentation_of_ne_nil hne₂))

theorem ReadsBlock.unique {indentation : Nat} {rows rest rest₂ : List Row}
    {first second : List Statement} (hfirst : ReadsBlock indentation rows first rest)
    (hsecond : ReadsBlock indentation rows second rest₂)
    (hrest : ∀ row ∈ rest.head?, row.indentation < indentation)
    (hrest₂ : ∀ row ∈ rest₂.head?, row.indentation < indentation) :
    first = second ∧ rest = rest₂ := by
  induction hfirst generalizing second rest₂ with
  | nil =>
      cases hsecond with
      | nil => exact ⟨rfl, rfl⟩
      | line | define => exact absurd (hrest _ rfl) (Nat.lt_irrefl _)
  | line hline _ ih =>
      cases hsecond with
      | nil => exact absurd (hrest₂ _ rfl) (Nat.lt_irrefl _)
      | line hline₂ hsecond =>
          obtain ⟨rfl, rfl⟩ := ih hsecond hrest hrest₂
          exact ⟨by rw [hline.unique hline₂], rfl⟩
      | define => exact hline.absurd_of_head.elim
  | define _ hparameters _ hdeeper hbody hinner hmid _ ihbody ihstatements =>
      cases hsecond with
      | nil => exact absurd (hrest₂ _ rfl) (Nat.lt_irrefl _)
      | line hline => exact hline.absurd_of_head.elim
      | define _ hparameters₂ _ hdeeper₂ hbody₂ hinner₂ hmid₂ hsecond =>
          obtain rfl := hinner.indentation_eq hinner₂ hbody hbody₂
          obtain ⟨rfl, rfl⟩ := ihbody hinner₂
            (fun row hrow => Nat.lt_of_le_of_lt (hmid row hrow) hdeeper)
            (fun row hrow => Nat.lt_of_le_of_lt (hmid₂ row hrow) hdeeper)
          obtain ⟨rfl, rfl⟩ := ihstatements hsecond hrest hrest₂
          obtain ⟨rfl, rfl⟩ := Prod.mk.inj (Option.some.inj (hparameters.symm.trans hparameters₂))
          exact ⟨rfl, rfl⟩

theorem IsModule.unique {text : String} {first second : List Statement}
    (hfirst : IsModule text first) (hsecond : IsModule text second) : first = second := by
  obtain ⟨rows, hrows, hfirst⟩ := hfirst
  obtain ⟨rows₂, hrows₂, hsecond⟩ := hsecond
  obtain rfl := Option.some.inj (hrows.symm.trans hrows₂)
  exact (hfirst.unique hsecond (by simp) (by simp)).1

end TinyC.ScriptLanguage
