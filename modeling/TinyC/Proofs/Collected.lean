import TinyC.Script.Compilation

/-!
# What is collected from expressions

Names, calls and numbers are collected from an expression in one way: first what
the expression holds itself, then what its operands hold, in their order.  So
two lists that are collected are the same as soon as they are the same at every
single expression (`IsCollected.eq`), and no further induction along the tree is
needed to compare them.

What is collected from the counterparts of expressions is collected from the
expressions (`IsCollected.ofExpr`), and what is kept of a list item by item is
collected too (`IsCollected.image`).  The lists of a program and of its script
are compared in this way.
-/

namespace TinyC

/-- The expressions that an expression is put together from, in order. -/
def Expr.operands : Expr → List Expr
  | .number _ | .name _ | .string _ => []
  | .binary _ left right => [left, right]
  | .call _ arguments => arguments

/-- The expressions that an expression is put together from, in order. -/
def Script.Expr.operands : Script.Expr → List Script.Expr
  | .integer _ | .name _ | .text _ => []
  | .arithmetic _ left right => [left, right]
  | .call _ arguments => arguments

/-- The counterpart of an expression is put together from the counterparts of its operands. -/
theorem Script.Expr.operands_ofExpr (expression : TinyC.Expr) :
    (Script.Expr.ofExpr expression).operands = Script.Expr.ofExprs expression.operands := by
  cases expression with
  | number value => rfl
  | name identifier => rfl
  | string value => rfl
  | binary operator left right => cases operator <;> rfl
  | call function arguments => rfl

namespace Expr

variable {motive : Expr → Prop}

mutual

/-- What is passed on from the operands to the expression holds of every expression. -/
theorem of_operands (hstep : ∀ expression, (∀ operand ∈ expression.operands, motive operand) →
    motive expression) (expression : Expr) : motive expression := by
  refine hstep expression ?_
  cases expression with
  | number value => simp [operands]
  | name identifier => simp [operands]
  | string value => simp [operands]
  | binary operator left right =>
      simpa [operands] using ⟨of_operands hstep left, of_operands hstep right⟩
  | call function arguments => exact forall_of_operands hstep arguments

theorem forall_of_operands (hstep : ∀ expression, (∀ operand ∈ expression.operands,
    motive operand) → motive expression) (expressions : List Expr) :
    ∀ expression ∈ expressions, motive expression := by
  cases expressions with
  | nil => simp
  | cons first rest =>
      exact List.forall_mem_cons.2 ⟨of_operands hstep first, forall_of_operands hstep rest⟩

end

end Expr

/-- A list is collected from a tree: what is found at the tree itself, then what is collected from
its parts in a row. -/
structure IsCollected {τ α : Type} (parts : τ → List τ) (found collect : τ → List α)
    (collectAll : List τ → List α) : Prop where
  node : ∀ tree, collect tree = found tree ++ collectAll (parts tree)
  nil : collectAll [] = []
  cons : ∀ first rest, collectAll (first :: rest) = collect first ++ collectAll rest

namespace IsCollected

section

variable {τ α β : Type} {parts : τ → List τ} {found found₂ collect collect₂ : τ → List α}
  {collectAll collectAll₂ : List τ → List α}

/-- What is collected from trees in a row depends on what is collected from each. -/
theorem all_congr (hfirst : IsCollected parts found collect collectAll)
    (hsecond : IsCollected parts found₂ collect₂ collectAll₂) {trees : List τ}
    (htrees : ∀ tree ∈ trees, collect tree = collect₂ tree) :
    collectAll trees = collectAll₂ trees := by
  induction trees with
  | nil => rw [hfirst.nil, hsecond.nil]
  | cons first rest ih =>
      obtain ⟨htree, htrees⟩ := List.forall_mem_cons.1 htrees
      rw [hfirst.cons, hsecond.cons, htree, ih htrees]

/-- What is kept of a list is collected, if it is kept of each part of the list for itself. -/
theorem image (hcollected : IsCollected parts found collect collectAll)
    (keep : List α → List β) (hnil : keep [] = [])
    (happend : ∀ before after, keep (before ++ after) = keep before ++ keep after) :
    IsCollected parts (fun tree => keep (found tree)) (fun tree => keep (collect tree))
      (fun trees => keep (collectAll trees)) where
  node tree := by rw [hcollected.node, happend]
  nil := by rw [hcollected.nil, hnil]
  cons first rest := by rw [hcollected.cons, happend]

end

variable {α : Type}

/-- What is collected from counterparts is collected from the expressions. -/
theorem ofExpr {found collect : Script.Expr → List α} {collectAll : List Script.Expr → List α}
    (hcollected : IsCollected Script.Expr.operands found collect collectAll) :
    IsCollected Expr.operands (fun expression => found (.ofExpr expression))
      (fun expression => collect (.ofExpr expression))
      (fun expressions => collectAll (Script.Expr.ofExprs expressions)) where
  node expression := by rw [hcollected.node, Script.Expr.operands_ofExpr]
  nil := hcollected.nil
  cons first rest := by rw [Script.Expr.ofExprs, hcollected.cons]

/-- Lists that are the same at every single expression are the same for all expressions. -/
theorem eq {found found₂ collect collect₂ : Expr → List α}
    {collectAll collectAll₂ : List Expr → List α}
    (hfirst : IsCollected Expr.operands found collect collectAll)
    (hsecond : IsCollected Expr.operands found₂ collect₂ collectAll₂)
    (hfound : ∀ expression, found expression = found₂ expression) (expression : Expr) :
    collect expression = collect₂ expression := by
  induction expression using Expr.of_operands with
  | hstep expression ih => rw [hfirst.node, hsecond.node, hfound, hfirst.all_congr hsecond ih]

end IsCollected

end TinyC
