import FilterClause.Expression
import FilterClause.Key

/-!
The comparisons of a tree, and what is asked of all their keys and literals.
-/

namespace FilterClause.Expression

def comparisons : Expression → List Comparison
  | comparison c => [c]
  | logical left _ right => left.comparisons ++ right.comparisons
  | group inner => inner.comparisons

def FloatFree (e : Expression) : Prop :=
  ∀ c ∈ e.comparisons, ∀ s ∈ c.value.literals, s.isFloat = false

instance : DecidablePred FloatFree := fun e =>
  inferInstanceAs (Decidable (∀ c ∈ e.comparisons, ∀ s ∈ c.value.literals, s.isFloat = false))

/-- The property holds of every key, once unwrapped, and of every literal as it is written. -/
def Throughout (write : Scalar → String) (p : String → Prop) (e : Expression) : Prop :=
  ∀ c ∈ e.comparisons,
    p (Key.stripOuterQuotes c.key) ∧ ∀ s ∈ c.value.literals, p (write s)

instance (write : Scalar → String) (p : String → Prop) [DecidablePred p] :
    DecidablePred (Throughout write p) := fun e =>
  inferInstanceAs (Decidable (∀ c ∈ e.comparisons,
    p (Key.stripOuterQuotes c.key) ∧ ∀ s ∈ c.value.literals, p (write s)))

theorem forall_comparisons_logical {p : Comparison → Prop} {left right : Expression}
    {op : Operator} :
    (∀ c ∈ (logical left op right).comparisons, p c) ↔
      (∀ c ∈ left.comparisons, p c) ∧ ∀ c ∈ right.comparisons, p c :=
  List.forall_mem_append

theorem forall_comparisons_comparison {p : Comparison → Prop} {c : Comparison} :
    (∀ x ∈ (comparison c).comparisons, p x) ↔ p c :=
  List.forall_mem_singleton

end FilterClause.Expression
