import TinyC.Proofs.Lexical

/-!
# Taking one piece

`Piece.first?` takes a piece off a text exactly if a lexical rule allows it, and
the piece is the stretch that the rule allows.
-/

namespace TinyC.Lexical

/-! ## Literals -/

/-- What stands between quotes is passed as a whole. -/
theorem Denotes.afterLiteral_append {body value : List Char} (hdenotes : Denotes body value)
    (rest : List Char) : Token.afterLiteral (body ++ rest) = Token.afterLiteral rest := by
  induction hdenotes with
  | nil => rfl
  | plain hquote hbackslash _ ih => simp [Token.afterLiteral, hbackslash, ih]
  | lineFeed _ ih => simp [Token.afterLiteral, ih]
  | tab _ ih => simp [Token.afterLiteral, ih]
  | escaped _ _ _ ih => simp [Token.afterLiteral, ih]

theorem Denotes.literalValue_append {body value : List Char} (hdenotes : Denotes body value)
    (rest : List Char) :
    Token.literalValue (body ++ rest) = value ++ Token.literalValue rest := by
  induction hdenotes with
  | nil => rfl
  | plain hquote hbackslash _ ih => simp [Token.literalValue, hbackslash, ih]
  | lineFeed _ ih => simp [Token.literalValue, Token.unescape, ih]
  | tab _ ih => simp [Token.literalValue, Token.unescape, ih]
  | escaped hn ht _ ih => simp [Token.literalValue, Token.unescape, hn, ht, ih]

theorem EndsLiteral.afterLiteral {stop rest : List Char} (hstop : EndsLiteral stop rest) :
    Token.afterLiteral (stop ++ rest) = rest := by
  cases hstop <;> rfl

theorem EndsLiteral.literalValue {stop rest : List Char} (hstop : EndsLiteral stop rest) :
    Token.literalValue stop = [] := by
  cases hstop <;> rfl

/-- Every text after a quote begins with a literal. -/
theorem exists_literal (text : List Char) :
    ∃ body value stop rest, text = body ++ (stop ++ rest) ∧ Denotes body value ∧
      EndsLiteral stop rest := by
  fun_induction Token.afterLiteral text with
  | case1 => exact ⟨[], [], [], [], rfl, .nil, .endOfText⟩
  | case2 rest => exact ⟨[], [], ['"'], rest, rfl, .nil, .quote⟩
  | case3 c rest ih =>
      obtain ⟨body, value, stop, after, rfl, hbody, hstop⟩ := ih
      -- Two escaped characters stand for another one, all others for themselves.
      by_cases hn : c = 'n'
      · subst hn
        exact ⟨_, _, stop, after, rfl, hbody.lineFeed, hstop⟩
      by_cases ht : c = 't'
      · subst ht
        exact ⟨_, _, stop, after, rfl, hbody.tab, hstop⟩
      · exact ⟨_, _, stop, after, rfl, hbody.escaped hn ht, hstop⟩
  | case4 c rest hquote hescape ih =>
      by_cases hbackslash : c = '\\'
      · subst hbackslash
        cases rest with
        | nil =>
            -- A backslash at the end of the text escapes nothing.
            exact ⟨[], [], ['\\'], [], rfl, .nil, .endOfTextInEscape⟩
        | cons next rest => exact absurd rfl (hescape next rest rfl)
      · obtain ⟨body, value, stop, after, rfl, hbody, hstop⟩ := ih
        exact ⟨_, _, stop, after, rfl, hbody.plain hquote hbackslash, hstop⟩

/-- A search for a line feed ends where the line does. -/
theorem skipUntil_lineFeed_iff {body rest : List Char} :
    Cursor.skipUntil ⟨body ++ rest⟩ (· = '\n') = ⟨rest⟩ ↔ EndsLine body rest := by
  rw [Cursor.skipUntil_eq_iff]
  constructor
  · rintro ⟨hbody, hrest⟩
    refine ⟨fun hmem => ?_, fun c hc => ?_⟩
    · simpa using hbody '\n' hmem
    · simpa using hrest c hc
  · rintro ⟨hmem, hnext⟩
    refine ⟨fun c hc => ?_, fun c hc => ?_⟩
    · have hne : c ≠ '\n' := by
        rintro rfl
        exact hmem hc
      simpa using hne
    · simpa using hnext c hc

/-- A search for what does not belong to a class ends where the run of the class does. -/
theorem skipUntil_not_iff {belongs : Char → Bool} {run rest : List Char} :
    Cursor.skipUntil ⟨run ++ rest⟩ (!belongs ·) = ⟨rest⟩ ↔
      (∀ c ∈ run, belongs c = true) ∧ ∀ c ∈ rest.head?, belongs c = false := by
  simp only [Cursor.skipUntil_eq_iff, Bool.not_eq_false', Bool.not_eq_true']

/-! ## Classes of characters -/

theorem punctuation?_eq_some_iff {c : Char} {kind : Token.Kind} :
    Token.punctuation? c = some kind ↔ kind.mark? = some c := by
  constructor
  · intro hmark
    unfold Token.punctuation? at hmark
    split at hmark <;> simp_all [Token.Kind.mark?]
    all_goals subst hmark; rfl
  · intro hmark
    cases kind <;> simp_all [Token.Kind.mark?] <;> subst hmark <;> rfl

theorem isBlank_iff {c : Char} : Token.isBlank c = true ↔ c ∈ [' ', '\t', '\r', '\n'] := by
  simp [Token.isBlank, or_assoc]

/-- A piece that is one character is a blank or a mark. -/
theorem single?_eq_some {c : Char} {piece : List Char → Piece}
    (hsingle : Piece.single? c = some piece) :
    (c ∈ [' ', '\t', '\r', '\n'] ∧ piece = .trivia) ∨
      ∃ kind, kind.mark? = some c ∧ piece = .lexeme kind := by
  rw [Piece.single?] at hsingle
  split at hsingle
  · rename_i hblank
    exact .inl ⟨isBlank_iff.1 hblank, (Option.some.inj hsingle).symm⟩
  · obtain ⟨kind, hmark, rfl⟩ := Option.map_eq_some_iff.1 hsingle
    exact .inr ⟨kind, punctuation?_eq_some_iff.1 hmark, rfl⟩

theorem single?_of_mark {c : Char} {kind : Token.Kind} (hmark : kind.mark? = some c) :
    Piece.single? c = some (.lexeme kind) := by
  have hblank : ¬ Token.isBlank c = true := by
    rw [isBlank_iff]
    cases kind <;> simp [Token.Kind.mark?] at hmark <;> subst hmark <;> decide
  rw [Piece.single?, if_neg hblank, punctuation?_eq_some_iff.2 hmark]
  rfl

/-- The characters that begin something else than a number or a word. -/
def specialCharacters : List Char :=
  ['#', '"', ' ', '\t', '\r', '\n', '(', ')', '\x7b', '\x7d', ';', ',', '=', '+', '-', '*', '/']

theorem not_mem_specialCharacters {belongs : Char → Bool} {c : Char} (hc : belongs c = true)
    (hspecial : specialCharacters.any belongs = false) : c ∉ specialCharacters := by
  intro hmem
  have hany : specialCharacters.any belongs = true := List.any_eq_true.2 ⟨c, hmem, hc⟩
  rw [hspecial] at hany
  exact Bool.noConfusion hany

theorem punctuation?_of_not_mem {c : Char} (hc : c ∉ specialCharacters) :
    Token.punctuation? c = none := by
  unfold Token.punctuation?
  split <;> simp_all [specialCharacters]

theorem single?_of_not_mem {c : Char} (hc : c ∉ specialCharacters) : Piece.single? c = none := by
  have hblank : ¬ Token.isBlank c = true := by
    rw [isBlank_iff]
    simp_all [specialCharacters]
  rw [Piece.single?, if_neg hblank, punctuation?_of_not_mem hc]
  rfl

theorem startsIdentifier_of_isDigit {c : Char} (hdigit : c.isDigit = true) :
    Token.startsIdentifier c = false := by
  have hbounds : 48 ≤ c.val ∧ c.val ≤ 57 := by simpa [Char.isDigit] using hdigit
  have hlow : c.val < 0x80 := UInt32.lt_of_le_of_lt hbounds.2 (by decide)
  have hupper : ¬ ('A'.val ≤ c.val ∧ c.val ≤ 'Z'.val) := fun hupper =>
    absurd (UInt32.le_trans hupper.1 hbounds.2) (by decide)
  have hlower : ¬ 'a'.val ≤ c.val := fun hlower =>
    absurd (UInt32.le_trans hlower hbounds.2) (by decide)
  have hletter : c.isAlpha = false := by
    show (decide ('A'.val ≤ c.val ∧ c.val ≤ 'Z'.val) ||
      (decide ('a'.val ≤ c.val) && decide (c.val ≤ 'z'.val))) = false
    rw [decide_eq_false hupper, decide_eq_false hlower]
    rfl
  have hunderscore : c ≠ '_' := by
    rintro rfl
    simp at hdigit
  simp [Token.startsIdentifier, Unicode.isAlphabetic_of_isAlpha hlow, hletter, hunderscore]

theorem continuesIdentifier_of_starts {c : Char} (hc : Token.startsIdentifier c = true) :
    Token.continuesIdentifier c = true := by
  rw [Token.startsIdentifier, Bool.or_eq_true] at hc
  rw [Token.continuesIdentifier, Unicode.isAlphanumeric]
  obtain hc | hc := hc <;> simp [hc]

theorem isWordKind_wordKind (word : List Char) : IsWordKind (Piece.wordKind word) word := by
  rw [Piece.wordKind, Token.Kind.ofKeyword?]
  split
  · rename_i hword
    obtain rfl : word = ['i', 'n', 't'] := by simpa using congrArg String.toList hword
    exact .int
  · split
    · rename_i hword
      obtain rfl : word = ['r', 'e', 't', 'u', 'r', 'n'] := by
        simpa using congrArg String.toList hword
      exact .return
    · rename_i hint hreturn
      refine .identifier ?_ ?_
      · rintro rfl
        exact hint rfl
      · rintro rfl
        exact hreturn rfl

/-- A word has one kind. -/
theorem IsWordKind.eq_wordKind {kind : Token.Kind} {word : List Char}
    (hkind : IsWordKind kind word) : kind = Piece.wordKind word := by
  cases hkind with
  | int => rfl
  | «return» => rfl
  | identifier hint hreturn =>
      rw [Piece.wordKind, Token.Kind.ofKeyword?, if_neg, if_neg]
      · rfl
      · intro hword
        exact hreturn (by simpa using congrArg String.toList hword)
      · intro hword
        exact hint (by simpa using congrArg String.toList hword)

/-! ## From the rules to the piece -/

/-- No second slash makes a comment of a slash. -/
theorem eat_slash_eq_false {rest : List Char} (hslash : ∀ next ∈ rest.head?, next ≠ '/') :
    (Cursor.eat ⟨rest⟩ '/').1 = false := by
  rw [← Bool.not_eq_true, Cursor.eat_eq_true_iff]
  intro hrest
  have hhead : rest.head? = some '/' := congrArg List.head? hrest
  exact hslash '/' hhead rfl

/-- A character that begins neither a directive nor a comment is a piece by itself or begins a
stretch. -/
theorem rule?_of_ne {c : Char} {cursor : Cursor} (hdirective : c ≠ '#')
    (hcomment : c = '/' → (cursor.eat '/').1 = false) :
    Piece.rule? c cursor =
      match Piece.single? c with
      | some piece => some (piece, cursor)
      | none => Piece.stretch? c cursor := by
  have hno : ¬ (decide (c = '/') && (cursor.eat '/').1) = true := by
    rw [Bool.and_eq_true, decide_eq_true_iff]
    rintro ⟨hslash, heat⟩
    rw [hcomment hslash] at heat
    exact Bool.noConfusion heat
  unfold Piece.rule?
  exact (if_neg hdirective).trans (if_neg hno)

theorem rule?_of_not_mem {c : Char} (cursor : Cursor) (hc : c ∉ specialCharacters) :
    Piece.rule? c cursor = Piece.stretch? c cursor := by
  have hdirective : c ≠ '#' := by
    rintro rfl
    exact hc (by decide)
  have hslash : c ≠ '/' := by
    rintro rfl
    exact hc (by decide)
  rw [rule?_of_ne hdirective fun heq => absurd heq hslash, single?_of_not_mem hc]

theorem stretch?_of_not_mem {c : Char} (cursor : Cursor) (hc : c ∉ specialCharacters) :
    Piece.stretch? c cursor =
      if c.isDigit then some (.lexeme .number, cursor.skipUntil (!·.isDigit))
      else if Token.startsIdentifier c then
        some (fun word => .lexeme (Piece.wordKind word) word,
          cursor.skipUntil (!Token.continuesIdentifier ·))
      else none := by
  rw [Piece.stretch?, if_neg]
  rintro rfl
  exact hc (by decide)

/-- A rule that ends before the rest takes what is up to there. -/
theorem first?_of_rule {c : Char} {run rest : List Char} {make : List Char → Piece}
    (hrule : Piece.rule? c ⟨run ++ rest⟩ = some (make, ⟨rest⟩)) :
    Piece.first? (c :: run ++ rest) = some (make (c :: run), rest) :=
  Piece.first?_eq_some_iff_rule.2 ⟨c, run, make, rfl, hrule, rfl⟩

theorem IsTrivia.first? {raw rest : List Char} (htrivia : IsTrivia raw rest) :
    Piece.first? (raw ++ rest) = some (.trivia raw, rest) := by
  cases htrivia with
  | @blank c _ hmem =>
      have hrule : Piece.rule? c ⟨rest⟩ = some (.trivia, ⟨rest⟩) := by
        simp only [List.mem_cons, List.not_mem_nil, or_false] at hmem
        rcases hmem with rfl | rfl | rfl | rfl <;> rfl
      exact first?_of_rule hrule
  | @directive body _ hline =>
      have hrule : Piece.rule? '#' ⟨body ++ rest⟩ = some (.trivia, ⟨rest⟩) := by
        rw [Piece.rule?, if_pos rfl, skipUntil_lineFeed_iff.2 hline]
      exact first?_of_rule hrule
  | @comment body _ hline =>
      have hrule : Piece.rule? '/' ⟨'/' :: body ++ rest⟩ = some (.trivia, ⟨rest⟩) := by
        show some (Piece.trivia, Cursor.skipUntil ⟨body ++ rest⟩ (· = '\n')) = _
        rw [skipUntil_lineFeed_iff.2 hline]
      exact first?_of_rule hrule

theorem IsRaw.first? {kind : Token.Kind} {lexeme raw rest : List Char}
    (hraw : IsRaw kind lexeme raw rest) :
    Piece.first? (raw ++ rest) = some (.lexeme kind raw, rest) := by
  cases hraw with
  | @mark _ c _ hmark hslash =>
      have hrule : Piece.rule? c ⟨rest⟩ = some (.lexeme kind, ⟨rest⟩) := by
        have hdirective : c ≠ '#' := by
          rintro rfl
          cases kind <;> simp [Token.Kind.mark?] at hmark
        rw [rule?_of_ne hdirective fun heq => eat_slash_eq_false (hslash heq),
          single?_of_mark hmark]
      exact first?_of_rule hrule
  | number hne hdigits hrest =>
      obtain ⟨c, digits, rfl⟩ := List.exists_cons_of_ne_nil hne
      obtain ⟨hc, hdigits⟩ := List.forall_mem_cons.1 hdigits
      have hspecial : c ∉ specialCharacters := not_mem_specialCharacters hc rfl
      have hstop : Cursor.skipUntil ⟨digits ++ rest⟩ (!·.isDigit) = ⟨rest⟩ :=
        skipUntil_not_iff.2 ⟨hdigits, hrest⟩
      refine first?_of_rule ?_
      rw [rule?_of_not_mem _ hspecial, stretch?_of_not_mem _ hspecial, if_pos hc, hstop]
  | @word _ c others _ hc hothers hrest hkind =>
      have hspecial : c ∉ specialCharacters := not_mem_specialCharacters hc rfl
      have hdigit : ¬ c.isDigit = true := by
        intro hdigit
        rw [startsIdentifier_of_isDigit hdigit] at hc
        exact Bool.noConfusion hc
      have hstop : Cursor.skipUntil ⟨others ++ rest⟩ (!Token.continuesIdentifier ·) = ⟨rest⟩ :=
        skipUntil_not_iff.2 ⟨hothers, hrest⟩
      have hrule : Piece.rule? c ⟨others ++ rest⟩ =
          some (fun word => .lexeme (Piece.wordKind word) word, ⟨rest⟩) := by
        rw [rule?_of_not_mem _ hspecial, stretch?_of_not_mem _ hspecial, if_neg hdigit, if_pos hc,
          hstop]
      have hfirst := first?_of_rule hrule
      rwa [← hkind.eq_wordKind] at hfirst
  | @string body value stop _ hdenotes hstop =>
      have hrule : Piece.rule? '"' ⟨body ++ stop ++ rest⟩ = some (.lexeme .string, ⟨rest⟩) := by
        have hend : Token.afterLiteral (body ++ stop ++ rest) = rest := by
          rw [List.append_assoc, hdenotes.afterLiteral_append, hstop.afterLiteral]
        show some (Piece.lexeme .string, Cursor.mk (Token.afterLiteral (body ++ stop ++ rest))) = _
        rw [hend]
      exact first?_of_rule hrule

theorem IsRaw.lexemeValue {kind : Token.Kind} {lexeme raw rest : List Char}
    (hraw : IsRaw kind lexeme raw rest) : Piece.lexemeValue kind raw = String.ofList lexeme := by
  cases hraw with
  | mark hmark _ =>
      have hkind : kind ≠ .string := by
        rintro rfl
        simp [Token.Kind.mark?] at hmark
      rw [Piece.lexemeValue, if_neg hkind]
  | number _ _ _ => rfl
  | word _ _ _ hkind => cases hkind <;> rfl
  | string hdenotes hstop =>
      rw [Piece.lexemeValue, if_pos rfl, List.tail_cons, hdenotes.literalValue_append,
        hstop.literalValue, List.append_nil]

/-! ## From the piece to the rules -/

/-- What a piece is before the rest, as the rules have it. -/
def IsPiece : Piece → List Char → Prop
  | .trivia raw, rest => IsTrivia raw rest
  | .lexeme kind raw, rest => ∃ lexeme, IsRaw kind lexeme raw rest

theorem isPiece_of_stretch {c : Char} {run rest : List Char} {make : List Char → Piece}
    (hstretch : Piece.stretch? c ⟨run ++ rest⟩ = some (make, ⟨rest⟩)) :
    IsPiece (make (c :: run)) rest := by
  unfold Piece.stretch? at hstretch
  split at hstretch
  · rename_i hquote
    simp only [Option.some.injEq, Prod.mk.injEq, Cursor.mk.injEq] at hstretch
    obtain ⟨rfl, hend⟩ := hstretch
    obtain ⟨body, value, stop, after, htext, hdenotes, hstop⟩ := exists_literal (run ++ rest)
    rw [htext, hdenotes.afterLiteral_append, hstop.afterLiteral] at hend
    subst hend
    rw [← List.append_assoc] at htext
    rw [List.append_cancel_right htext, hquote]
    exact ⟨value, .string hdenotes hstop⟩
  · split at hstretch
    · rename_i hdigit
      simp only [Option.some.injEq, Prod.mk.injEq] at hstretch
      obtain ⟨rfl, hstop⟩ := hstretch
      obtain ⟨hdigits, hrest⟩ := skipUntil_not_iff.1 hstop
      exact ⟨_, .number (List.cons_ne_nil c run) (List.forall_mem_cons.2 ⟨hdigit, hdigits⟩) hrest⟩
    · split at hstretch
      · rename_i hstarts
        simp only [Option.some.injEq, Prod.mk.injEq] at hstretch
        obtain ⟨rfl, hstop⟩ := hstretch
        obtain ⟨hothers, hrest⟩ := skipUntil_not_iff.1 hstop
        exact ⟨_, .word hstarts hothers hrest (isWordKind_wordKind _)⟩
      · simp at hstretch

theorem isPiece_of_single {c : Char} {rest : List Char} {make : List Char → Piece}
    (hsingle : Piece.single? c = some make)
    (hslash : c = '/' → ∀ next ∈ rest.head?, next ≠ '/') : IsPiece (make [c]) rest := by
  obtain ⟨hblank, rfl⟩ | ⟨kind, hmark, rfl⟩ := single?_eq_some hsingle
  · exact .blank hblank
  · exact ⟨[c], .mark hmark hslash⟩

/-- A rule that ends before the rest has taken what is allowed there. -/
theorem isPiece_of_rule {c : Char} {run rest : List Char} {make : List Char → Piece}
    (hrule : Piece.rule? c ⟨run ++ rest⟩ = some (make, ⟨rest⟩)) :
    IsPiece (make (c :: run)) rest := by
  unfold Piece.rule? at hrule
  split at hrule
  · rename_i hdirective
    simp only [Option.some.injEq, Prod.mk.injEq] at hrule
    obtain ⟨rfl, hstop⟩ := hrule
    rw [hdirective]
    exact .directive (skipUntil_lineFeed_iff.1 hstop)
  · split at hrule
    · rename_i hcomment
      obtain ⟨hslash, heat⟩ := Bool.and_eq_true_iff.1 hcomment
      rw [Cursor.eat_eq_true_iff] at heat
      simp only [Option.some.injEq, Prod.mk.injEq] at hrule
      obtain ⟨rfl, hstop⟩ := hrule
      obtain ⟨body, hbody⟩ := Cursor.skipUntil_suffix (Cursor.eat ⟨run ++ rest⟩ '/').2 (· = '\n')
      rw [hstop] at hbody
      have hrest : run ++ rest = '/' :: body ++ rest := by rw [List.cons_append, hbody, ← heat]
      obtain rfl : run = '/' :: body := List.append_cancel_right hrest
      rw [of_decide_eq_true hslash]
      exact .comment (skipUntil_lineFeed_iff.1 hstop)
    · rename_i hno
      split at hrule
      · rename_i hsingle
        simp only [Option.some.injEq, Prod.mk.injEq, Cursor.mk.injEq] at hrule
        obtain ⟨rfl, happend⟩ := hrule
        obtain rfl : run = [] := by simpa using happend
        refine isPiece_of_single hsingle ?_
        -- A slash before another one was taken for a comment.
        rintro rfl next hnext rfl
        obtain ⟨after, rfl⟩ := List.head?_eq_some_iff.1 hnext
        exact hno rfl
      · exact isPiece_of_stretch hrule

theorem isPiece_of_first? {text rest : List Char} {piece : Piece}
    (hfirst : Piece.first? text = some (piece, rest)) : IsPiece piece rest := by
  obtain ⟨c, run, make, -, hrule, rfl⟩ := Piece.first?_eq_some_iff_rule.1 hfirst
  exact isPiece_of_rule hrule

/-- A piece is taken off a text exactly if the rules allow it there. -/
theorem first?_eq_some_iff {text rest : List Char} {piece : Piece} :
    Piece.first? text = some (piece, rest) ↔ piece.raw ++ rest = text ∧ IsPiece piece rest := by
  constructor
  · intro hfirst
    exact ⟨(Piece.first?_eq_some hfirst).1, isPiece_of_first? hfirst⟩
  · rintro ⟨rfl, hpiece⟩
    cases piece with
    | trivia raw => exact IsTrivia.first? hpiece
    | lexeme kind raw =>
        obtain ⟨lexeme, hraw⟩ := hpiece
        exact hraw.first?

/-! ## Characters that start nothing -/

theorem rule?_isSome_of_mem {c : Char} (cursor : Cursor) (hc : c ∈ specialCharacters) :
    (Piece.rule? c cursor).isSome = true := by
  have hall : (specialCharacters.all fun c => c = '#' || c = '"' || (Piece.single? c).isSome) =
      true := rfl
  have hclass : c = '#' ∨ c = '"' ∨ (Piece.single? c).isSome = true := by
    simpa [or_assoc] using List.all_eq_true.1 hall c hc
  unfold Piece.rule?
  split
  · rfl
  · split
    · rfl
    · split
      · rfl
      · rename_i hdirective _ _ hsingle
        rw [hsingle] at hclass
        obtain rfl : c = '"' := by simpa [hdirective] using hclass
        rfl

/-- Whether nothing can be taken off a text is decided by its first character. -/
theorem first?_eq_none_iff {c : Char} {rest : List Char} :
    Piece.first? (c :: rest) = none ↔
      c ∉ specialCharacters ∧ c.isDigit = false ∧ Token.startsIdentifier c = false := by
  have hrule : Piece.first? (c :: rest) = none ↔ Piece.rule? c ⟨rest⟩ = none := by
    simp [Piece.first?, Cursor.next?]
  rw [hrule]
  by_cases hc : c ∈ specialCharacters
  · have hsome := rule?_isSome_of_mem ⟨rest⟩ hc
    simp [hc, Option.isSome_iff_ne_none.1 hsome]
  · rw [rule?_of_not_mem ⟨rest⟩ hc, stretch?_of_not_mem ⟨rest⟩ hc]
    cases c.isDigit <;> cases Token.startsIdentifier c <;> simp [hc]

theorem startsNothing_of_first? {c : Char} {rest : List Char}
    (hnone : Piece.first? (c :: rest) = none) : StartsNothing c := by
  have hnever : ∀ after, Piece.first? (c :: after) = none := fun after =>
    first?_eq_none_iff.2 (first?_eq_none_iff.1 hnone)
  intro body after
  constructor
  · intro htrivia
    have hfirst := htrivia.first?
    rw [List.cons_append, hnever] at hfirst
    simp at hfirst
  · intro kind lexeme hraw
    have hfirst := hraw.first?
    rw [List.cons_append, hnever] at hfirst
    simp at hfirst

end TinyC.Lexical
