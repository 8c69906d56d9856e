import FilterClause.Proofs.Clause
import FilterClause.Proofs.Comparisons
import FilterClause.Proofs.Lexeme

/-!
What a clause tells about the tree it was written for. The frontier of a tree is its operands from left
to right with the connectives between them, groups with a frontier of their own; how the operands were
nested without a group is forgotten, and so is one layer of quotes around a key. In a built-in dialect
the clause and the frontier determine each other, whatever a key is opened with, if only that differs
from the delimiter of a group.
-/

namespace FilterClause

mutual

/-- A comparison, its key unwrapped, or a group. -/
inductive Operand
  | comparison (key : String) (op : Operator) (value : Value)
  | group (inner : Frontier)

/-- Operands from left to right with a connective between each two. -/
inductive Frontier
  | last (x : Operand)
  | next (x : Operand) (op : Operator) (rest : Frontier)

end

def Frontier.append : Frontier → Operator → Frontier → Frontier
  | last x, op, g => next x op g
  | next x op' rest, op, g => next x op' (rest.append op g)

def Expression.frontier : Expression → Frontier
  | comparison c => .last (.comparison (Key.stripOuterQuotes c.key) c.op c.value)
  | logical left op right => left.frontier.append op right.frontier
  | group inner => .last (.group inner.frontier)

section Text

variable (dialect : Dialect)

mutual

def Operand.text : Operand → String
  | .comparison key op value => dialect.renderKey key ++ op.symbol ++ value.clause dialect
  | .group inner => dialect.openGroup ++ inner.text ++ dialect.closeGroup

def Frontier.text : Frontier → String
  | .last x => x.text
  | .next x op rest => x.text ++ op.symbol ++ rest.text

end

theorem Frontier.text_append (f : Frontier) (op : Operator) (g : Frontier) :
    (f.append op g).text dialect = f.text dialect ++ op.symbol ++ g.text dialect := by
  induction f, op, g using Frontier.append.induct with
  | case1 x op g => simp only [append, text]
  | case2 x op' rest op g ih => simp only [append, text, ih, String.append_assoc]

theorem text_frontier (e : Expression) : e.frontier.text dialect = e.clause dialect := by
  induction e with
  | comparison c => rfl
  | logical left op right ihl ihr =>
      rw [Expression.frontier, Frontier.text_append, ihl, ihr]
      rfl
  | group inner ih =>
      simp only [Expression.frontier, Frontier.text, Operand.text, ih]
      rfl

end Text

/-- Keys in single quotes behind a fixed opening, literals as they are quoted, parentheses. -/
def Dialect.quoting (name opening : String) : Dialect where
  name := name
  renderKey key := opening ++ key ++ "'"
  renderScalar := quoteSingle
  openGroup := "("
  closeGroup := ")"
  openRange := "("
  closeRange := ")"

def DialectKind.opening (kind : DialectKind) (column : String) : String :=
  match kind with
  | pgVector => column ++ "::jsonb->>'"
  | mySql => column ++ "->>'$."

theorem build_eq_quoting (kind : DialectKind) (column : String) :
    kind.build (some column) = .quoting (kind.build none).name (kind.opening column) := by
  cases kind <;> rfl

/-- The opening of a key has a first character, and with it a key is told from a group. -/
theorem exists_opening_eq_cons (kind : DialectKind) {column : String}
    (h : column.toList.head? ≠ some '(') :
    ∃ c cs, (kind.opening column).toList = c :: cs ∧ c ≠ '(' := by
  have hmark : ∀ mark : Char, ∀ rest : List Char, mark ≠ '(' →
      ∃ c cs, column.toList ++ mark :: rest = c :: cs ∧ c ≠ '(' := by
    intro mark rest hm
    cases hc : column.toList with
    | nil => exact ⟨mark, rest, rfl, hm⟩
    | cons c cs =>
        refine ⟨c, cs ++ mark :: rest, rfl, ?_⟩
        rintro rfl
        exact h (by rw [hc]; rfl)
  cases kind with
  | pgVector =>
      rw [DialectKind.opening, String.toList_append]
      exact hmark ':' _ (by decide)
  | mySql =>
      rw [DialectKind.opening, String.toList_append]
      exact hmark '-' _ (by decide)

theorem symbol_initial : ∀ a b : Operator, a.symbol.toList <+: b.symbol.toList → a = b := by
  intro a b h
  cases a <;> cases b <;> first | rfl | (revert h; decide)

theorem symbol_append_inj {a b : Operator} {r s : List Char}
    (h : a.symbol.toList ++ r = b.symbol.toList ++ s) : a = b ∧ r = s := by
  have hab : a = b := by
    have hb : b.symbol.toList <+: a.symbol.toList ++ r := ⟨s, h.symm⟩
    rcases List.prefix_or_prefix_of_prefix (List.prefix_append _ r) hb with hp | hp
    · exact symbol_initial a b hp
    · exact (symbol_initial b a hp).symm
  subst hab
  exact ⟨rfl, List.append_cancel_left h⟩

theorem symbol_eq_cons (op : Operator) : ∃ cs, op.symbol.toList = ' ' :: cs := by
  cases op <;> exact ⟨_, rfl⟩

/-- A literal that can be told from the text behind it. -/
def Scalar.Plain (s : Scalar) : Prop :=
  s.isFloat = false ∧ s.QuoteFree

def Value.Plain (v : Value) : Prop :=
  ∀ s ∈ v.literals, s.Plain

theorem literal_append_inj {a b : Scalar} {r s : List Char} (ha : a.Plain) (hb : b.Plain)
    (hr : Text.Stops Char.isDigit r) (hs : Text.Stops Char.isDigit s)
    (h : (quoteSingle a).toList ++ r = (quoteSingle b).toList ++ s) : a = b ∧ r = s :=
  Scalar.quoteSingle_append_inj ha.1 hb.1 ha.2 hb.2 hr hs h

def itemsTail : List Scalar → List Char
  | [] => [')']
  | s :: items => ',' :: ((quoteSingle s).toList ++ itemsTail items)

theorem intercalate_items (s : Scalar) (items : List Scalar) :
    (String.intercalate "," ((s :: items).map quoteSingle)).toList ++ [')'] =
      (quoteSingle s).toList ++ itemsTail items := by
  induction items generalizing s with
  | nil => simp only [List.map_cons, List.map_nil, String.intercalate_singleton, itemsTail]
  | cons t items ih =>
      rw [List.map_cons, List.map_cons, String.intercalate_cons_cons, ← List.map_cons,
        String.toList_append, String.toList_append, List.append_assoc, ih, List.append_assoc]
      rfl

theorem stops_itemsTail (items : List Scalar) (r : List Char) :
    Text.Stops Char.isDigit (itemsTail items ++ r) := by
  cases items <;> exact Text.stops_cons _ rfl

theorem itemsTail_append_inj {xs ys : List Scalar} {r s : List Char} (hx : ∀ x ∈ xs, x.Plain)
    (hy : ∀ y ∈ ys, y.Plain) (h : itemsTail xs ++ r = itemsTail ys ++ s) : xs = ys ∧ r = s := by
  induction xs generalizing ys with
  | nil =>
      cases ys with
      | nil => exact ⟨rfl, List.tail_eq_of_cons_eq h⟩
      | cons y ys => cases List.head_eq_of_cons_eq h
  | cons x xs ih =>
      cases ys with
      | nil => cases List.head_eq_of_cons_eq h
      | cons y ys =>
          simp only [itemsTail, List.cons_append, List.append_assoc, List.cons.injEq,
            true_and] at h
          rw [List.forall_mem_cons] at hx hy
          obtain ⟨rfl, ht⟩ := literal_append_inj hx.1 hy.1 (stops_itemsTail xs r)
            (stops_itemsTail ys s) h
          obtain ⟨rfl, hrs⟩ := ih hx.2 hy.2 ht
          exact ⟨rfl, hrs⟩

def Value.spelled : Value → List Char
  | scalar a => (quoteSingle a).toList
  | list [] => ['(', ')']
  | list (a :: items) => '(' :: ((quoteSingle a).toList ++ itemsTail items)

theorem spelled_value (name opening : String) (v : Value) :
    (v.clause (.quoting name opening)).toList = v.spelled := by
  cases v with
  | scalar a => rfl
  | list items =>
      cases items with
      | nil => simp [Value.clause, Dialect.quoting, Value.spelled]
      | cons a items =>
          rw [Value.spelled, ← intercalate_items]
          simp [Value.clause, Dialect.quoting]

theorem literal_append_ne {a : Scalar} (ha : a.Plain) {c : Char} (hc : c = '(' ∨ c = ')')
    (t u : List Char) : (quoteSingle a).toList ++ t ≠ c :: u := by
  intro h
  obtain ⟨d, ds, hd, -, hopen, hclose⟩ := Scalar.exists_quoteSingle_eq_cons ha.1
  rw [hd, List.cons_append, List.cons.injEq] at h
  rcases hc with rfl | rfl
  · exact hopen h.1
  · exact hclose h.1

theorem list_append_inj {xs ys : List Scalar} {r s : List Char} (hx : ∀ x ∈ xs, x.Plain)
    (hy : ∀ y ∈ ys, y.Plain)
    (h : (Value.list xs).spelled ++ r = (Value.list ys).spelled ++ s) : xs = ys ∧ r = s := by
  cases xs with
  | nil =>
      cases ys with
      | nil => exact ⟨rfl, List.append_cancel_left h⟩
      | cons y ys =>
          simp only [Value.spelled, List.cons_append, List.append_assoc, List.cons.injEq,
            true_and] at h
          exact absurd h.symm (literal_append_ne (hy y List.mem_cons_self) (.inr rfl) _ _)
  | cons x xs =>
      cases ys with
      | nil =>
          simp only [Value.spelled, List.cons_append, List.append_assoc, List.cons.injEq,
            true_and] at h
          exact absurd h (literal_append_ne (hx x List.mem_cons_self) (.inr rfl) _ _)
      | cons y ys =>
          simp only [Value.spelled, List.cons_append, List.append_assoc, List.cons.injEq,
            true_and] at h
          rw [List.forall_mem_cons] at hx hy
          obtain ⟨rfl, ht⟩ := literal_append_inj hx.1 hy.1 (stops_itemsTail xs r)
            (stops_itemsTail ys s) h
          obtain ⟨rfl, hrs⟩ := itemsTail_append_inj hx.2 hy.2 ht
          exact ⟨rfl, hrs⟩

theorem value_append_inj {v w : Value} {r s : List Char} (hv : v.Plain) (hw : w.Plain)
    (hr : Text.Stops Char.isDigit r) (hs : Text.Stops Char.isDigit s)
    (h : v.spelled ++ r = w.spelled ++ s) : v = w ∧ r = s := by
  have opened : ∀ (items : List Scalar) (t : List Char),
      ∃ u, (Value.list items).spelled ++ t = '(' :: u := by
    intro items t
    cases items <;> exact ⟨_, rfl⟩
  cases v with
  | scalar a =>
      have ha := hv a List.mem_cons_self
      cases w with
      | scalar b =>
          obtain ⟨rfl, hrs⟩ := literal_append_inj ha (hw b List.mem_cons_self) hr hs h
          exact ⟨rfl, hrs⟩
      | list ys =>
          obtain ⟨u, hu⟩ := opened ys s
          exact absurd (h.trans hu) (literal_append_ne ha (.inl rfl) r u)
  | list xs =>
      cases w with
      | scalar b =>
          obtain ⟨u, hu⟩ := opened xs r
          exact absurd (h.symm.trans hu)
            (literal_append_ne (hw b List.mem_cons_self) (.inl rfl) s u)
      | list ys =>
          obtain ⟨rfl, hrs⟩ := list_append_inj hv hw h
          exact ⟨rfl, hrs⟩

section Spelled

variable (opening : List Char)

mutual

def Operand.spelled : Operand → List Char
  | .comparison key op value =>
      opening ++ (key.toList ++ '\'' :: (op.symbol.toList ++ value.spelled))
  | .group inner => '(' :: (inner.spelled ++ [')'])

def Frontier.spelled : Frontier → List Char
  | .last x => x.spelled
  | .next x op rest => x.spelled ++ (op.symbol.toList ++ rest.spelled)

end

end Spelled

section

variable (name opening : String)

mutual

theorem spelled_operand : ∀ x : Operand,
    (x.text (.quoting name opening)).toList = x.spelled opening.toList
  | .comparison key op value => by
      rw [Operand.text, Operand.spelled, String.toList_append, String.toList_append, spelled_value]
      simp [Dialect.quoting]
  | .group inner => by
      rw [Operand.text, Operand.spelled, String.toList_append, String.toList_append,
        spelled_frontier inner]
      simp [Dialect.quoting]

theorem spelled_frontier : ∀ f : Frontier,
    (f.text (.quoting name opening)).toList = f.spelled opening.toList
  | .last x => spelled_operand x
  | .next x op rest => by
      rw [Frontier.text, Frontier.spelled, String.toList_append, String.toList_append,
        spelled_operand x, spelled_frontier rest, List.append_assoc]

end

end

mutual

def Operand.Plain : Operand → Prop
  | .comparison key _ value => '\'' ∉ key.toList ∧ value.Plain
  | .group inner => inner.Plain

def Frontier.Plain : Frontier → Prop
  | .last x => x.Plain
  | .next x _ rest => x.Plain ∧ rest.Plain

end

/-- A line ends with the text, or where a group does. -/
def LineEnds (rest : List Char) : Prop :=
  ∀ c, rest.head? = some c → c = ')'

theorem LineEnds.stops {rest : List Char} (h : LineEnds rest) : Text.Stops Char.isDigit rest := by
  intro c hc
  rw [h c hc]
  rfl

theorem lineEnds_close (rest : List Char) : LineEnds (')' :: rest) := by
  intro c hc
  cases hc
  rfl

theorem stops_symbol (op : Operator) (rest : List Char) :
    Text.Stops Char.isDigit (op.symbol.toList ++ rest) := by
  obtain ⟨cs, h⟩ := symbol_eq_cons op
  rw [h]
  exact Text.stops_cons _ rfl

theorem not_lineEnds_symbol (op : Operator) (rest : List Char) :
    ¬ LineEnds (op.symbol.toList ++ rest) := by
  obtain ⟨cs, h⟩ := symbol_eq_cons op
  intro he
  rw [h] at he
  cases he ' ' rfl

mutual

theorem Operand.spelled_append_inj {c : Char} {cs : List Char} (hc : c ≠ '(') :
    ∀ (x y : Operand) {r s : List Char}, x.Plain → y.Plain →
    Text.Stops Char.isDigit r → Text.Stops Char.isDigit s →
    x.spelled (c :: cs) ++ r = y.spelled (c :: cs) ++ s → x = y ∧ r = s
  | .comparison k op v, .comparison k' op' v', r, s, hx, hy, hr, hs, h => by
      simp only [Operand.spelled, List.append_assoc, List.cons_append, List.cons.injEq,
        true_and] at h
      obtain ⟨hk, hop⟩ := Text.marked_append_inj hx.1 hy.1 (List.append_cancel_left h)
      obtain ⟨rfl, hv⟩ := symbol_append_inj hop
      obtain ⟨rfl, hrs⟩ := value_append_inj hx.2 hy.2 hr hs hv
      exact ⟨by rw [String.toList_inj.mp hk], hrs⟩
  | .comparison k op v, .group inner, r, s, _, _, _, _, h => by
      exact absurd (List.head_eq_of_cons_eq h) hc
  | .group inner, .comparison k op v, r, s, _, _, _, _, h => by
      exact absurd (List.head_eq_of_cons_eq h).symm hc
  | .group inner, .group inner', r, s, hx, hy, _, _, h => by
      simp only [Operand.spelled, List.append_assoc, List.cons_append, List.cons.injEq,
        true_and] at h
      obtain ⟨rfl, ht⟩ := Frontier.spelled_append_inj hc inner inner' hx hy (lineEnds_close r)
        (lineEnds_close s) h
      exact ⟨rfl, List.tail_eq_of_cons_eq ht⟩

theorem Frontier.spelled_append_inj {c : Char} {cs : List Char} (hc : c ≠ '(') :
    ∀ (f g : Frontier) {r s : List Char}, f.Plain → g.Plain → LineEnds r → LineEnds s →
    f.spelled (c :: cs) ++ r = g.spelled (c :: cs) ++ s → f = g ∧ r = s
  | .last x, .last y, r, s, hf, hg, hr, hs, h => by
      obtain ⟨rfl, hrs⟩ := Operand.spelled_append_inj hc x y hf hg hr.stops hs.stops h
      exact ⟨rfl, hrs⟩
  | .last x, .next y op rest, r, s, hf, hg, hr, _, h => by
      simp only [Frontier.spelled, List.append_assoc] at h
      -- One line ends where the other goes on with a connective, which is no place to end.
      obtain ⟨-, h⟩ := Operand.spelled_append_inj hc x y hf hg.1 hr.stops (stops_symbol op _) h
      rw [h] at hr
      exact absurd hr (not_lineEnds_symbol op _)
  | .next x op rest, .last y, r, s, hf, hg, _, hs, h => by
      simp only [Frontier.spelled, List.append_assoc] at h
      obtain ⟨-, h⟩ := Operand.spelled_append_inj hc x y hf.1 hg (stops_symbol op _) hs.stops h
      rw [← h] at hs
      exact absurd hs (not_lineEnds_symbol op _)
  | .next x op rest, .next y op' rest', r, s, hf, hg, hr, hs, h => by
      simp only [Frontier.spelled, List.append_assoc] at h
      obtain ⟨rfl, ht⟩ := Operand.spelled_append_inj hc x y hf.1 hg.1 (stops_symbol op _)
        (stops_symbol op' _) h
      obtain ⟨rfl, htail⟩ := symbol_append_inj ht
      obtain ⟨rfl, hrs⟩ := Frontier.spelled_append_inj hc rest rest' hf.2 hg.2 hr hs htail
      exact ⟨rfl, hrs⟩

end

/-- Neither a key, once unwrapped, nor a string has a single quote in it. -/
def Expression.QuoteFree (e : Expression) : Prop :=
  ∀ c ∈ e.comparisons,
    '\'' ∉ (Key.stripOuterQuotes c.key).toList ∧ ∀ s ∈ c.value.literals, s.QuoteFree

instance (s : Scalar) : Decidable s.QuoteFree :=
  match s with
  | .string text => inferInstanceAs (Decidable ('\'' ∉ text.toList))
  | .bool _ | .int _ | .float _ => .isTrue trivial

instance : DecidablePred Expression.QuoteFree := fun e =>
  inferInstanceAs (Decidable (∀ c ∈ e.comparisons,
    '\'' ∉ (Key.stripOuterQuotes c.key).toList ∧ ∀ s ∈ c.value.literals, s.QuoteFree))

theorem Frontier.plain_append {f g : Frontier} (op : Operator) (hf : f.Plain) (hg : g.Plain) :
    (f.append op g).Plain := by
  induction f, op, g using Frontier.append.induct with
  | case1 x op g => exact ⟨hf, hg⟩
  | case2 x op' rest op g ih => exact ⟨hf.1, ih hf.2 hg⟩

theorem plain_frontier {e : Expression} (hf : e.FloatFree) (hq : e.QuoteFree) :
    e.frontier.Plain := by
  induction e with
  | comparison c =>
      have hf := Expression.forall_comparisons_comparison.mp hf
      have hq := Expression.forall_comparisons_comparison.mp hq
      exact ⟨hq.1, fun s hs => ⟨hf s hs, hq.2 s hs⟩⟩
  | logical left op right ihl ihr =>
      have hf := Expression.forall_comparisons_logical.mp hf
      have hq := Expression.forall_comparisons_logical.mp hq
      exact Frontier.plain_append op (ihl hf.1 hq.1) (ihr hf.2 hq.2)
  | group inner ih => exact ih hf hq

/-- The clauses of two trees are equal exactly when their frontiers are. The column is any text that
does not start as a group does; it may hold quotes, blanks and operator symbols. -/
theorem clause_eq_iff_frontier_eq {kind : DialectKind} {column : String}
    (hcolumn : column.toList.head? ≠ some '(') {e₁ e₂ : Expression}
    {settings₁ settings₂ : ConverterSettings} {text₁ text₂ : String}
    (h₁ : convertWith e₁ (kind.build (some column)) settings₁ = .ok text₁)
    (h₂ : convertWith e₂ (kind.build (some column)) settings₂ = .ok text₂)
    (float₁ : e₁.FloatFree) (float₂ : e₂.FloatFree)
    (quote₁ : e₁.QuoteFree) (quote₂ : e₂.QuoteFree) :
    text₁ = text₂ ↔ e₁.frontier = e₂.frontier := by
  obtain ⟨-, -, rfl⟩ := convertWith_eq_ok_iff.mp h₁
  obtain ⟨-, -, rfl⟩ := convertWith_eq_ok_iff.mp h₂
  rw [← text_frontier, ← text_frontier, build_eq_quoting]
  obtain ⟨c, cs, hopen, hc⟩ := exists_opening_eq_cons kind hcolumn
  constructor
  · intro h
    have hs := congrArg String.toList h
    rw [spelled_frontier, spelled_frontier, hopen] at hs
    have hend : LineEnds [] := fun c hc => (nomatch hc)
    exact (Frontier.spelled_append_inj hc e₁.frontier e₂.frontier
      (plain_frontier float₁ quote₁) (plain_frontier float₂ quote₂) hend hend
      (congrArg (· ++ []) hs)).1
  · intro h
    rw [h]

/-- A test of a string that reads like the rest of a clause. -/
def shutGate : Expression :=
  .test "gate" .eq ") AND (b IN (1,2"

def oneOrTwo (key : String) : Expression :=
  .comparison ⟨key, .isIn, .ofList [(1 : Int64), 2]⟩

/-- A chain nested to the left and one nested to the right, with a key in quotes, have one clause; with
a group around its end the chain has another. -/
theorem clause_of_reassociated :
    ∃ chain grouped : String,
      convertWith ((shutGate.and (oneOrTwo "a")).or (oneOrTwo "b"))
        (DialectKind.mySql.build (some "m")) {} = .ok chain ∧
      convertWith (shutGate.and ((oneOrTwo "a").or (oneOrTwo " 'b' ")))
        (DialectKind.mySql.build (some "m")) {} = .ok chain ∧
      convertWith (shutGate.and (.group ((oneOrTwo "a").or (oneOrTwo "b"))))
        (DialectKind.mySql.build (some "m")) {} = .ok grouped ∧
      chain ≠ grouped := by
  have converts : ∀ e : Expression, e.depth ≤ 64 → e.WellFormed →
      convertWith e (DialectKind.mySql.build (some "m")) {} =
        .ok (e.clause (DialectKind.mySql.build (some "m"))) := by
    intro e hd hw
    exact convertWith_eq_ok_iff.mpr ⟨hd, hw, rfl⟩
  have hl := converts ((shutGate.and (oneOrTwo "a")).or (oneOrTwo "b")) (by decide) (by decide)
  have hr := converts (shutGate.and ((oneOrTwo "a").or (oneOrTwo " 'b' "))) (by decide) (by decide)
  have hg := converts (shutGate.and (.group ((oneOrTwo "a").or (oneOrTwo "b")))) (by decide)
    (by decide)
  refine ⟨_, _, hl, ?_, hg, ?_⟩
  · have h := (clause_eq_iff_frontier_eq (by decide) hl hr (by decide) (by decide) (by decide)
      (by decide)).mpr rfl
    rw [hr, h]
  · intro h
    have he := (clause_eq_iff_frontier_eq (by decide) hl hg (by decide) (by decide) (by decide)
      (by decide)).mp h
    cases he

end FilterClause
