import FilterQuery.Formula
import FilterQuery.Operator
import FilterQuery.Quoting

/-!
# Queries

* `Comparison` : a selector, an operator and arguments, as a query writes them;
* `Placed` : a comparison with the places of its parts in the query;
* `Query` : a formula of placed comparisons, and `Query.bare`, the formula without the places;
* `Query.text` : a query in canonical form.
-/

set_option autoImplicit false

namespace FilterQuery

/-- A test of the attribute that `selector` leads to. -/
structure Comparison where
  /-- The path to the attribute, its segments joined by points. -/
  selector : String
  operator : Operator
  arguments : List String
deriving DecidableEq, Repr

/-- A comparison and where its parts stand. -/
structure Placed extends Comparison where
  selectorSpan : Span
  operatorSpan : Span
  argumentSpans : List Span
deriving DecidableEq, Repr

/-- The text of a comparison: one argument stands alone unless the operator wants a pair, any other
number of arguments in parentheses. -/
def Comparison.text (c : Comparison) : List Char :=
  let arguments := c.arguments.map fun a => quoteIfNeeded a.toList
  c.selector.toList ++ c.operator.symbol.toList ++
    match arguments with
    | [only] => if c.operator.arity = .pair then '(' :: only ++ [')'] else only
    | arguments => '(' :: [','].intercalate arguments ++ [')']

/-- A formula of comparisons. -/
abbrev Query := Formula Placed

namespace Query

/-- The comparisons without their places. -/
def bare (q : Query) : Formula Comparison := q.map Placed.toComparison

/-- The canonical text of a query. -/
def text (q : Query) : String := String.ofList (q.render fun p => p.toComparison.text)

/-- The number of comparisons. -/
def size (q : Query) : Nat := q.atoms.length

end Query
end FilterQuery
