/-!
# Comparison operators

* `Operator` : the fourteen tests a query can make, `Operator.all` in their listing order;
* `Operator.spellings` : how each may be written, the canonical spelling first;
* `Operator.ofSpelling?` : the operator that a spelling names;
* `Arity` : how many arguments an operator takes, and in which form;
* `Operator.isOrdering`, `isPattern`, `isNullCheck`, `foldsCase` : the families that decide which
  attributes an operator applies to and how it compares.
-/

set_option autoImplicit false

namespace FilterQuery

/-- A test of an attribute against the arguments of a comparison. -/
inductive Operator where
  | equal | notEqual
  | greater | greaterEqual | less | lessEqual
  | oneOf | noneOf
  | like | notLike
  | isNull | notNull
  | between | notBetween
deriving DecidableEq, Repr, Inhabited

/-- The number and form of an operator's arguments. -/
inductive Arity where
  /-- One value. -/
  | single
  /-- A parenthesised list of at least one value, or one bare value. -/
  | list
  /-- A parenthesised list of two values. -/
  | pair
deriving DecidableEq, Repr

namespace Operator

/-- Every operator, in the order in which messages list them. -/
def all : List Operator :=
  [equal, notEqual, greater, greaterEqual, less, lessEqual, oneOf, noneOf, like, notLike,
    isNull, notNull, between, notBetween]

/-- The canonical spelling, then the others. -/
def spellings : Operator → String × List String
  | equal => ("==", [])
  | notEqual => ("!=", [])
  | greater => ("=gt=", [">"])
  | greaterEqual => ("=ge=", [">="])
  | less => ("=lt=", ["<"])
  | lessEqual => ("=le=", ["<="])
  | oneOf => ("=in=", [])
  | noneOf => ("=out=", [])
  | like => ("=like=", [])
  | notLike => ("=notlike=", [])
  | isNull => ("=isnull=", ["=null="])
  | notNull => ("=notnull=", ["=nonnull="])
  | between => ("=bt=", [])
  | notBetween => ("=nb=", [])

/-- The canonical spelling. -/
def symbol (op : Operator) : String := op.spellings.1

/-- Whether `text` is one of the spellings of `op`. -/
def IsSpelling (op : Operator) (text : String) : Prop :=
  text = op.symbol ∨ text ∈ op.spellings.2

instance (op : Operator) (text : String) : Decidable (op.IsSpelling text) :=
  inferInstanceAs (Decidable (_ ∨ _))

/-- The operator that `text` names. -/
def ofSpelling? (text : String) : Option Operator := all.find? (IsSpelling · text)

theorem ofSpelling?_eq_some_iff {text : String} {op : Operator} :
    ofSpelling? text = some op ↔ op.IsSpelling text := by
  constructor
  · intro h
    rw [ofSpelling?] at h
    simpa using List.find?_some h
  · rintro (rfl | h)
    · cases op <;> decide
    · cases op <;> simp only [spellings, List.not_mem_nil, List.mem_singleton] at h <;>
        subst h <;> decide

/-- The number and form of the arguments. -/
def arity : Operator → Arity
  | oneOf | noneOf => .list
  | between | notBetween => .pair
  | _ => .single

/-- The operators that need an order on the attribute's values. -/
def isOrdering : Operator → Bool
  | greater | greaterEqual | less | lessEqual | between | notBetween => true
  | _ => false

/-- The operators whose argument is a pattern. -/
def isPattern : Operator → Bool
  | like | notLike => true
  | _ => false

/-- The operators whose argument is a placeholder. -/
def isNullCheck : Operator → Bool
  | isNull | notNull => true
  | _ => false

/-- The operators that honour case-insensitive attributes. -/
def foldsCase : Operator → Bool
  | equal | notEqual | oneOf | noneOf | like | notLike => true
  | _ => false

end Operator
end FilterQuery
