/-!
Closed ranges of character codes, the form in which character classes are tabulated.
-/

namespace FilterClause.Text

/-- First and last code, both included. -/
abbrev Span := Nat × Nat

def Span.holds (span : Span) (c : Char) : Bool :=
  span.1 ≤ c.toNat && c.toNat ≤ span.2

def Span.anyHolds (spans : List Span) (c : Char) : Bool :=
  spans.any fun span => span.holds c

end FilterClause.Text
