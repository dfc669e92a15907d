import FilterQuery.Value.Coercion

/-!
# Comparing values of records with values of queries

`Value.order record query` : how a value that a record holds stands to one that a query gives.
Values of one type have their own order, and integers and decimals are compared as decimals. A
string of a record is first read as a value of the query's type; any other value of a record is
compared with a string of a query by its text. Otherwise, and with null, there is no order.
-/

set_option autoImplicit false

namespace FilterQuery
namespace Value

/-- How two values of one type stand, or an integer and a decimal. -/
def orderAlike : Value → Value → Option Ordering
  | string a, string b => some (compare a b)
  | integer a, integer b => some (compare a.toInt b.toInt)
  | decimal x, decimal y => x.order y
  | integer n, decimal y => (Binary64.ofInt n.toInt).order y
  | decimal x, integer n => x.order (Binary64.ofInt n.toInt)
  | date a, date b => some (a.order b)
  | boolean a, boolean b => some (compare a b)
  | _, _ => none

/-- How a value of a record stands to a value of a query. -/
def order : (record query : Value) → Option Ordering
  | null, _ => none
  | _, null => none
  | string a, string b => some (compare a b)
  | string literal, query =>
    match query.type? with
    | some type =>
      match coerce literal type with
      | .ok v => v.orderAlike query
      | .error _ => none
    | none => none
  | record, string b => some (compare (String.ofList record.text) b)
  | record, query => record.orderAlike query

end Value
end FilterQuery
