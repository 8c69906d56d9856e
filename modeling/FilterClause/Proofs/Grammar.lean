import FilterClause.Proofs.Clause

/-!
A clause as its reader meets it: a line of comparisons, connectives and delimiters, without the nesting
of the tree that was written. The grammar of such a line has three tiers, and the tokens of every
well-formed tree have a reading in it.
-/

namespace FilterClause

/-- What a clause consists of, comparisons being taken as a whole. -/
inductive Token
  | atom (c : Comparison)
  | connective (op : Operator)
  | openGroup
  | closeGroup

def Token.text (dialect : Dialect) : Token → String
  | atom c => c.clause dialect
  | connective op => op.symbol
  | openGroup => dialect.openGroup
  | closeGroup => dialect.closeGroup

def Expression.tokens : Expression → List Token
  | comparison c => [.atom c]
  | logical left op right => left.tokens ++ .connective op :: right.tokens
  | group inner => .openGroup :: (inner.tokens ++ [.closeGroup])

theorem clause_eq_join_tokens (dialect : Dialect) (e : Expression) :
    e.clause dialect = String.join (e.tokens.map (Token.text dialect)) := by
  apply String.toList_injective
  induction e with
  | comparison c => simp [Expression.clause, Expression.tokens, Token.text]
  | logical left op right ihl ihr =>
      simp [Expression.clause, Expression.tokens, Token.text, ihl, ihr]
  | group inner ih => simp [Expression.clause, Expression.tokens, Token.text, ih]

inductive Tier
  | operand
  | conjunction
  | disjunction
  deriving DecidableEq

/-- The grammar of a line. A conjunction is made of operands, a disjunction of conjunctions, and only
delimiters make an operand of a disjunction. -/
inductive Reads : Tier → List Token → Expression → Prop
  | atom (c : Comparison) : Reads .operand [.atom c] (.comparison c)
  | group {ts e} : Reads .disjunction ts e →
      Reads .operand (.openGroup :: (ts ++ [.closeGroup])) (.group e)
  | operand {ts e} : Reads .operand ts e → Reads .conjunction ts e
  | and {ts us left right} : Reads .conjunction ts left → Reads .operand us right →
      Reads .conjunction (ts ++ .connective .and :: us) (left.and right)
  | conjunction {ts e} : Reads .conjunction ts e → Reads .disjunction ts e
  | or {ts us left right} : Reads .disjunction ts left → Reads .conjunction us right →
      Reads .disjunction (ts ++ .connective .or :: us) (left.or right)

/-- An operand behind an AND goes into the last conjunction of what stands before. -/
theorem Reads.and_operand {ts us : List Token} {left right : Expression}
    (hl : Reads .disjunction ts left) (hr : Reads .operand us right) :
    ∃ e, Reads .disjunction (ts ++ .connective .and :: us) e := by
  cases hl with
  | conjunction hl => exact ⟨_, .conjunction (.and hl hr)⟩
  | @or ts₁ ts₂ _ _ h₁ h₂ =>
      rw [List.append_assoc, List.cons_append]
      exact ⟨_, .or h₁ (.and h₂ hr)⟩

theorem Reads.join_operand {op : Operator} (hop : op.isLogical) {ts us : List Token}
    {left right : Expression} (hl : Reads .disjunction ts left) (hr : Reads .operand us right) :
    ∃ e, Reads .disjunction (ts ++ .connective op :: us) e := by
  cases op with
  | and => exact hl.and_operand hr
  | or => exact ⟨_, .or hl (.operand hr)⟩
  | _ => cases hop

theorem exists_reads {e : Expression} (h : e.WellFormed) :
    (∃ r, Reads .disjunction e.tokens r) ∧
      ∀ {op : Operator} {ts : List Token} {left : Expression}, op.isLogical →
        Reads .disjunction ts left → ∃ r, Reads .disjunction (ts ++ .connective op :: e.tokens) r := by
  induction e with
  | comparison c =>
      exact ⟨⟨_, .conjunction (.operand (.atom c))⟩,
        fun hop hl => Reads.join_operand hop hl (.atom c)⟩
  | logical left op right ihl ihr =>
      obtain ⟨hop, wl, wr⟩ := h
      refine ⟨?_, ?_⟩
      · obtain ⟨l, hl⟩ := (ihl wl).1
        exact (ihr wr).2 hop hl
      · intro op' ts l hop' hl
        obtain ⟨l', hl'⟩ := (ihl wl).2 hop' hl
        obtain ⟨r, hr⟩ := (ihr wr).2 hop hl'
        rw [List.append_assoc, List.cons_append] at hr
        exact ⟨r, hr⟩
  | group inner ih =>
      obtain ⟨r, hr⟩ := (ih h).1
      exact ⟨⟨_, .conjunction (.operand (.group hr))⟩,
        fun hop hl => Reads.join_operand hop hl (.group hr)⟩

end FilterClause
