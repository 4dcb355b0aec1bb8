import TinyC.Proofs.Grammar.Acceptance
import TinyC.Proofs.Grammar.Lexemes
import TinyC.Proofs.Lexical.Splitting
import TinyC.Session

/-!
# The names of a program that was read

The names in a program are the lexemes of the identifiers among its words, in
the same order, since the grammar copies them and nothing else into the places
for names.  Lexing takes every identifier from a stretch of text that has the
shape of a name, so every name of a program that was read is a name.
-/

namespace TinyC

/-! ## Identifiers are names -/

namespace Lexical

theorem IsRaw.isName {lexeme : String} {raw rest : List Char}
    (hraw : IsRaw .identifier lexeme.toList raw rest) : IsName lexeme := by
  generalize htext : lexeme.toList = text at hraw
  cases hraw with
  | mark hmark _ => simp [Token.Kind.mark?] at hmark
  | word hfirst hothers _ hkind =>
      cases hkind with
      | identifier hint hreturn =>
          refine ⟨by simpa [htext] using hfirst, by simpa [htext] using hothers, ?_, ?_⟩
          · rintro rfl
            exact hint htext.symm
          · rintro rfl
            exact hreturn htext.symm

end Lexical

/-! ## Programs that were read -/

/-- That a result is one can be found out by evaluation. -/
theorem eq_ok_of_toOption {ε α : Type} {result : Except ε α} {value : α}
    (hresult : result.toOption = some value) : result = .ok value := by
  cases result with
  | error error => cases hresult
  | ok found => exact congrArg Except.ok (Option.some.inj hresult)

/-- The error of a result that is one. -/
def error? {ε α : Type} : Except ε α → Option ε
  | .ok _ => none
  | .error error => some error

/-- That a result is an error can be found out by evaluation. -/
theorem eq_error_of_error? {ε α : Type} {result : Except ε α} {error : ε}
    (hresult : error? result = some error) : result = .error error := by
  cases result with
  | error found => exact congrArg Except.error (Option.some.inj hresult)
  | ok value => cases hresult

/-- That a text was read as a program can be found out by evaluation. -/
theorem ofText_eq_ok_of_toOption {source : String} {program : Program}
    (hread : (Program.ofText source).toOption = some program) :
    Program.ofText source = .ok program :=
  eq_ok_of_toOption hread

theorem exists_tokens_of_ofText {source : String} {program : Program}
    (hread : Program.ofText source = .ok program) :
    ∃ tokens, Token.lex source = .ok tokens ∧ Program.ofTokens tokens = .ok program := by
  rw [Program.ofText] at hread
  cases hlex : Token.lex source with
  | error error => simp [hlex] at hread
  | ok tokens =>
      refine ⟨tokens, rfl, ?_⟩
      cases hprogram : Program.ofTokens tokens with
      | error error => simp [hlex, hprogram] at hread
      | ok found => simpa [hlex, hprogram] using hread

/-- The identifiers and the strings of a program that was read are those of its words. -/
theorem lexemes_of_ofTokens {kind : Token.Kind} (hkind : kind = .identifier ∨ kind = .string)
    {tokens : List Token} {program : Program} (hread : Program.ofTokens tokens = .ok program) :
    program.lexemes kind = Grammar.lexemes kind (Syntax.words tokens) := by
  have hwithin := Grammar.functions_eq_ok_iff.1 (Grammar.ofTokens_eq_ok.1 hread)
  obtain ⟨nesting, -, hforms⟩ := hwithin.forms
  exact Grammar.FormsProgram.lexemes_eq hkind hforms

/-- No expression of a program that was read is higher than 256. -/
theorem height_le_of_ofText {source : String} {program : Program}
    (hread : Program.ofText source = .ok program) :
    ∀ expression ∈ program.expressions, expression.height ≤ 256 := by
  obtain ⟨tokens, -, hprogram⟩ := exists_tokens_of_ofText hread
  exact (Grammar.functions_eq_ok_iff.1 (Grammar.ofTokens_eq_ok.1 hprogram)).height_le

/-- Every name of a program that was read is a name. -/
theorem isName_of_ofText {source : String} {program : Program}
    (hread : Program.ofText source = .ok program) :
    ∀ name ∈ program.names, Lexical.IsName name := by
  obtain ⟨tokens, hlex, hprogram⟩ := exists_tokens_of_ofText hread
  intro name hname
  rw [Program.names_eq_lexemes, lexemes_of_ofTokens (.inl rfl) hprogram] at hname
  obtain ⟨word, hword, hlexeme⟩ := List.mem_filterMap.1 hname
  obtain ⟨hkind, rfl⟩ : word.kind = .identifier ∧ word.lexeme = name := by simpa using hlexeme
  rcases Lexical.exists_isRaw_of_lex hlex word ((List.takeWhile_sublist _).mem hword) with
    ⟨offset, rfl⟩ | ⟨raw, after, hraw⟩
  · cases hkind
  · rw [hkind] at hraw
    exact hraw.isName

end TinyC
