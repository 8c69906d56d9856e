import FilterClause.Json.Number
import FilterClause.Value

/-!
Operators, literals and values as documents. A value is read by kind: an array whose items are all
literals is a list, and a number is an integer exactly when it is written as one and fits into a signed
64-bit word.
-/

namespace FilterClause

open Json (Document Fault)

def wrong {α : Type} (found : Document) (expected : String) : Except Fault α :=
  .error (.wrongKind found expected)

def Operator.toDocument (op : Operator) : Document :=
  .string op.name

/-- The operator that a token names, as reading reports it. -/
def Operator.ofName (s : String) : Except Fault Operator :=
  (Operator.ofToken s).mapError Fault.unknownOperator

namespace Scalar

def toDocument : Scalar → Document
  | bool b => .bool b
  | int n => .integer n.toInt
  | float x => .float x
  | string s => .string s

/-- The nearest floating-point number, for an integer of more than a signed word. -/
def wideInteger (n : Int) : Float :=
  Decimal.signedFloat (n < 0) (Decimal.nearestFloat n.natAbs 1)

def ofInteger (n : Int) : Scalar :=
  if Int64.minValue.toInt ≤ n ∧ n ≤ Int64.maxValue.toInt then int (Int64.ofInt n) else float (wideInteger n)

def ofDocument? : Document → Option Scalar
  | .bool b => some (bool b)
  | .integer n => some (ofInteger n)
  | .float x => some (float x)
  | .string s => some (string s)
  | .null | .array _ | .object _ => none

def ofDocument (d : Document) : Except Fault Scalar :=
  match ofDocument? d with
  | some s => .ok s
  | none => .error (.noVariantMatches "Scalar")

end Scalar

namespace Value

def toDocument : Value → Document
  | list items => .array (items.map Scalar.toDocument)
  | scalar s => s.toDocument

def ofDocument? : Document → Option Value
  | .array items => (items.mapM Scalar.ofDocument?).map list
  | d => (Scalar.ofDocument? d).map scalar

def ofDocument (d : Document) : Except Fault Value :=
  match ofDocument? d with
  | some v => .ok v
  | none => .error (.noVariantMatches "Value")

end Value

end FilterClause
