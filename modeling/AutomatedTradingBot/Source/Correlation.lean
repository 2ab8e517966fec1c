import AutomatedTradingBot.Framework.DecimalValue
import AutomatedTradingBot.Framework.Outcome

/-!
# The check of a correlation matrix

`_positive_semidefinite` of `research/portfolio_construction.py`: an elimination without
square roots, in the decimal arithmetic of the caller's context. The context is the
default one or one that traps `Inexact`, which raises at the first operation whose
result is rounded to another number.
-/

namespace ATB.Correlation

structure Context where
  trapsInexact : Bool
deriving DecidableEq

/-- How the function ends before its loops do. -/
inductive Exit where
  | returned (answer : Bool)
  /-- `decimal.Inexact`. -/
  | inexact
deriving DecidableEq

namespace Context

variable (ctx : Context)

/-- An operation whose result is `exact` before it is rounded. -/
def rounded (exact : ℚ) (result : Decimal) : Except Exit Decimal := do
  raiseIf (ctx.trapsInexact = true ∧ result.value ≠ exact) .inexact
  return result

def add (a b : Decimal) : Except Exit Decimal := ctx.rounded (a.value + b.value) (a + b)
def sub (a b : Decimal) : Except Exit Decimal := ctx.rounded (a.value - b.value) (a - b)
def mul (a b : Decimal) : Except Exit Decimal := ctx.rounded (a.value * b.value) (a * b)
def div (a b : Decimal) : Except Exit Decimal := ctx.rounded (a.value / b.value) (a / b)

end Context

/-- A row of `lower` up to its diagonal, and the row's entry of `diagonal`. -/
structure Factor where
  lower : List Decimal
  diagonal : Decimal
deriving DecidableEq

def entry (matrix : List (List Decimal)) (row col : Nat) : Decimal := (matrix.getD row []).getD col 0

/-- The checks before the elimination. -/
def wellFormed (matrix : List (List Decimal)) : Bool :=
  let size := matrix.length
  !matrix.isEmpty && matrix.all (fun row => row.length == size) &&
    (List.range size).all fun row => (List.range size).all fun col =>
      let value := entry matrix row col
      value == entry matrix col row && !decide (value < Decimal.ofInt (-1) ∨ Decimal.ofInt 1 < value) &&
        (row != col || value == Decimal.ofInt 1)

variable (ctx : Context)

/-- `sum((left[k] * right[k] * diagonal[k] for k in …), _ZERO)`. -/
def total (left right diagonal : List Decimal) : Except Exit Decimal :=
  (left.zip (right.zip diagonal)).foldlM (fun sum (l, r, d) => do
    let product ← ctx.mul l r
    let product ← ctx.mul product d
    ctx.add sum product) 0

/-- One iteration over the columns, with the entries of the row so far. -/
def eliminate (diagonal : List Decimal) (lower : List Decimal) (column : Decimal × Factor) :
    Except Exit (List Decimal) := do
  let sum ← total ctx lower column.2.lower diagonal
  let residual ← ctx.sub column.1 sum
  if column.2.diagonal == 0 then do
    raiseIf ((residual == 0) = false) (.returned false)
    return lower ++ [0]
  else do
    let quotient ← ctx.div residual column.2.diagonal
    return lower ++ [quotient]

/-- One iteration over the rows. -/
def eliminateRow (factors : List Factor) (row : List Decimal) : Except Exit (List Factor) := do
  let diagonal := factors.map Factor.diagonal
  let lower ← (row.zip factors).foldlM (eliminate ctx diagonal) []
  let sum ← total ctx lower lower diagonal
  let pivot ← ctx.sub (row.getD factors.length 0) sum
  raiseIf (pivot < 0) (.returned false)
  return factors ++ [⟨lower, pivot⟩]

/-- `_positive_semidefinite`: its answer, or nothing when `Inexact` is raised. -/
def positiveSemidefinite (matrix : List (List Decimal)) : Option Bool :=
  if wellFormed matrix = false then some false
  else
    match matrix.foldlM (eliminateRow ctx) [] with
    | .ok _ => some true
    | .error (.returned answer) => some answer
    | .error .inexact => none

end ATB.Correlation
