import FilterClause.Proofs.Grammar

/-!
What a clause says to a reader for whom groups bind first, then AND, then OR. Its reading has the
meaning of the tree exactly when no operand of an AND is an OR without a group around it.

Nothing is claimed about what a comparison says: each one is a truth value of its own.
-/

namespace FilterClause

namespace Expression

def width : Expression → Nat
  | comparison _ => 1
  | logical left _ right => left.width + right.width
  | group inner => inner.width

end Expression

/-- Of the two connectives; no other operator stands between operands. -/
def Operator.connect : Operator → Bool → Bool → Bool
  | .or, a, b => a || b
  | _, a, b => a && b

namespace Expression

/-- Truth when the comparisons have the values `v n`, `v (n + 1)` and so on from the left. -/
def truth (v : Nat → Bool) (n : Nat) : Expression → Bool
  | comparison _ => v n
  | logical left op right => op.connect (left.truth v n) (right.truth v (n + left.width))
  | group inner => inner.truth v n

def isOr : Expression → Bool
  | logical _ .or _ => true
  | _ => false

/-- No operand of an AND is an OR without a group around it. -/
def OrGrouped : Expression → Prop
  | comparison _ => True
  | logical left op right =>
      (op = .and → left.isOr = false ∧ right.isOr = false) ∧ left.OrGrouped ∧ right.OrGrouped
  | group inner => inner.OrGrouped

end Expression

/-- A line read so far: whether a conjunction before the last OR holds, and whether all operands since
then hold. -/
structure Line where
  any : Bool := false
  all : Bool := true

namespace Line

def value (l : Line) : Bool :=
  l.any || l.all

def operand (l : Line) (b : Bool) : Line :=
  ⟨l.any, l.all && b⟩

def join (l : Line) : Operator → Line
  | .or => ⟨l.value, true⟩
  | _ => l

theorem operand_operand (l : Line) (a b : Bool) :
    (l.operand a).operand b = l.operand (a && b) := by
  simp only [operand, Bool.and_assoc]

theorem value_operand {l : Line} (h : l.all = true) (b : Bool) :
    (l.operand b).value = (l.any || b) := by
  simp only [operand, value, h, Bool.true_and]

theorem value_operand_fresh (b : Bool) : (operand {} b).value = b := by
  rw [value_operand rfl, Bool.false_or]

end Line

/-- A pass over a line: the comparisons met, the line that is being read, and those around it with the
innermost first. -/
structure Scan where
  met : Nat
  line : Line
  outer : List Line

def Scan.step (v : Nat → Bool) (s : Scan) : Token → Scan
  | .atom _ => ⟨s.met + 1, s.line.operand (v s.met), s.outer⟩
  | .connective op => ⟨s.met, s.line.join op, s.outer⟩
  | .openGroup => ⟨s.met, {}, s.line :: s.outer⟩
  | .closeGroup =>
    match s.outer with
    | [] => s
    | l :: outer => ⟨s.met, l.operand s.line.value, outer⟩

/-- A pass computes the truth of any reading of its tokens. The line it starts in matters only to a
disjunction, which has to start a line. -/
theorem Reads.scan {t : Tier} {ts : List Token} {e : Expression} (h : Reads t ts e)
    (v : Nat → Bool) (n : Nat) (l : Line) (outer : List Line) :
    ∃ l', ts.foldl (Scan.step v) ⟨n, l, outer⟩ = ⟨n + e.width, l', outer⟩ ∧
      (t ≠ .disjunction → l' = l.operand (e.truth v n)) ∧ (l = {} → l'.value = e.truth v n) := by
  induction h generalizing n l outer with
  | atom c =>
      refine ⟨_, rfl, fun _ => rfl, ?_⟩
      rintro rfl
      exact Line.value_operand_fresh _
  | @group ts e _ ih =>
      obtain ⟨l', hs, -, hv⟩ := ih n {} (l :: outer)
      refine ⟨l.operand (e.truth v n), ?_, fun _ => rfl, ?_⟩
      · simp only [List.foldl_cons, List.foldl_append, List.foldl_nil, Scan.step, hs, hv rfl]
        rfl
      · rintro rfl
        exact Line.value_operand_fresh _
  | operand _ ih =>
      obtain ⟨l', hs, hl, hv⟩ := ih n l outer
      exact ⟨l', hs, fun _ => hl (by decide), hv⟩
  | @and ts us left right _ _ ihl ihr =>
      obtain ⟨l₁, hs₁, hl₁, -⟩ := ihl n l outer
      obtain ⟨l₂, hs₂, hl₂, -⟩ := ihr (n + left.width) l₁ outer
      have hl : l₂ = l.operand ((left.and right).truth v n) := by
        rw [hl₂ (by decide), hl₁ (by decide), Line.operand_operand]
        rfl
      refine ⟨l₂, ?_, fun _ => hl, ?_⟩
      · simp only [List.foldl_append, List.foldl_cons, hs₁, Scan.step, Line.join, hs₂,
          Expression.and, Expression.width, Nat.add_assoc]
      · rintro rfl
        rw [hl, Line.value_operand_fresh]
  | conjunction _ ih =>
      obtain ⟨l', hs, hl, hv⟩ := ih n l outer
      exact ⟨l', hs, fun h => absurd rfl h, hv⟩
  | @or ts us left right _ _ ihl ihr =>
      obtain ⟨l₁, hs₁, -, hv₁⟩ := ihl n l outer
      obtain ⟨l₂, hs₂, hl₂, -⟩ := ihr (n + left.width) ⟨l₁.value, true⟩ outer
      refine ⟨l₂, ?_, fun h => absurd rfl h, ?_⟩
      · simp only [List.foldl_append, List.foldl_cons, hs₁, Scan.step, Line.join, hs₂,
          Expression.or, Expression.width, Nat.add_assoc]
      · rintro rfl
        rw [hl₂ (by decide), hv₁ rfl]
        simp only [Line.operand, Line.value, Bool.true_and, Expression.or, Expression.truth,
          Operator.connect]

/-- The line after the tokens of a tree, by recursion on the tree. -/
def Expression.extend (v : Nat → Bool) (n : Nat) : Expression → Line → Line
  | comparison _, l => l.operand (v n)
  | logical left op right, l => right.extend v (n + left.width) ((left.extend v n l).join op)
  | group inner, l => l.operand (inner.extend v n {}).value

section Equations

variable (v : Nat → Bool) (n : Nat) (left right : Expression)

theorem extend_and (l : Line) : (Expression.logical left .and right).extend v n l =
    right.extend v (n + left.width) (left.extend v n l) := rfl

theorem extend_or (l : Line) : (Expression.logical left .or right).extend v n l =
    right.extend v (n + left.width) ⟨(left.extend v n l).value, true⟩ := rfl

theorem truth_and : (Expression.logical left .and right).truth v n =
    (left.truth v n && right.truth v (n + left.width)) := rfl

theorem truth_or : (Expression.logical left .or right).truth v n =
    (left.truth v n || right.truth v (n + left.width)) := rfl

end Equations

theorem scan_tokens (v : Nat → Bool) (e : Expression) (n : Nat) (l : Line) (outer : List Line) :
    e.tokens.foldl (Scan.step v) ⟨n, l, outer⟩ = ⟨n + e.width, e.extend v n l, outer⟩ := by
  induction e generalizing n l outer with
  | comparison c => rfl
  | logical left op right ihl ihr =>
      simp only [Expression.tokens, List.foldl_append, List.foldl_cons, ihl, Scan.step, ihr,
        Expression.extend, Expression.width, Nat.add_assoc]
  | group inner ih =>
      simp only [Expression.tokens, List.foldl_append, List.foldl_cons, List.foldl_nil, Scan.step,
        ih, Expression.extend, Expression.width]

theorem Reads.truth_eq {e r : Expression} (h : Reads .disjunction e.tokens r) (v : Nat → Bool) :
    r.truth v 0 = (e.extend v 0 {}).value := by
  obtain ⟨l, hs, -, hv⟩ := h.scan v 0 {} []
  rw [scan_tokens] at hs
  rw [← hv rfl, (Scan.mk.inj hs).2.1]

theorem extend_of_orGrouped {e : Expression} (hw : e.WellFormed) (hg : e.OrGrouped)
    (v : Nat → Bool) (n : Nat) :
    (e.isOr = false → ∀ l : Line, e.extend v n l = l.operand (e.truth v n)) ∧
      ∀ l : Line, l.all = true → (e.extend v n l).value = (l.any || e.truth v n) := by
  induction e generalizing n with
  | comparison c => exact ⟨fun _ l => rfl, fun l hl => Line.value_operand hl _⟩
  | logical left op right ihl ihr =>
      obtain ⟨hop, wl, wr⟩ := hw
      obtain ⟨hand, gl, gr⟩ := hg
      have il := ihl wl gl n
      have ir := ihr wr gr (n + left.width)
      cases op with
      | and =>
          obtain ⟨hl, hr⟩ := hand rfl
          have he : ∀ l : Line, (Expression.logical left .and right).extend v n l =
              l.operand ((Expression.logical left .and right).truth v n) := by
            intro l
            simp only [Expression.extend, il.1 hl, Line.join, ir.1 hr, Line.operand_operand,
              Expression.truth, Operator.connect]
          refine ⟨fun _ => he, ?_⟩
          intro l hall
          rw [he, Line.value_operand hall]
      | or =>
          refine ⟨fun h => (nomatch h), ?_⟩
          intro l hall
          simp only [Expression.extend, Line.join]
          rw [ir.2 ⟨_, true⟩ rfl, il.2 l hall, Bool.or_assoc]
          rfl
      | _ => cases hop
  | group inner ih =>
      have hv : (inner.extend v n {}).value = inner.truth v n := by
        rw [(ih hw hg n).2 {} rfl]
        rfl
      have he : ∀ l : Line, inner.group.extend v n l = l.operand (inner.truth v n) := by
        intro l
        rw [Expression.extend, hv]
      refine ⟨fun _ => he, ?_⟩
      intro l hl
      rw [he, Line.value_operand hl]
      rfl

/-- Once a conjunction before an OR holds, the line holds whatever follows. -/
theorem any_extend (v : Nat → Bool) (e : Expression) (n : Nat) {l : Line} (h : l.any = true) :
    (e.extend v n l).any = true := by
  induction e generalizing n l with
  | comparison c => exact h
  | logical left op right ihl ihr =>
      apply ihr
      have hl := ihl n h
      cases op <;> simp only [Line.join, Line.value, hl, Bool.true_or]
  | group inner ih => exact h

theorem Line.value_of_any {l : Line} (h : l.any = true) : l.value = true := by
  simp only [Line.value, h, Bool.true_or]

/-- A line that holds still holds behind a tree that holds. The converse fails, and that is how a
clause is misread: never as too narrow. -/
theorem value_extend {v : Nat → Bool} {e : Expression} {n : Nat} {l : Line} (hw : e.WellFormed)
    (hl : l.value = true) (he : e.truth v n = true) : (e.extend v n l).value = true := by
  induction e generalizing n l with
  | comparison c =>
      have hv : v n = true := he
      simpa only [Expression.extend, Line.operand, Line.value, hv, Bool.and_true] using hl
  | logical left op right ihl ihr =>
      obtain ⟨hop, wl, wr⟩ := hw
      cases op with
      | and =>
          simp only [Expression.truth, Operator.connect, Bool.and_eq_true] at he
          exact ihr wr (ihl wl hl he.1) he.2
      | or =>
          simp only [Expression.truth, Operator.connect, Bool.or_eq_true] at he
          rcases he with ha | hb
          · apply Line.value_of_any
            exact any_extend v right _ (ihl wl hl ha)
          · refine ihr wr ?_ hb
            simp only [Line.join, Line.value, Bool.or_true]
      | _ => cases hop
  | group inner ih =>
      have hi : (inner.extend v n {}).value = true := ih hw rfl he
      simpa only [Expression.extend, Line.operand, hi, Bool.and_true] using hl

theorem truth_congr {v w : Nat → Bool} {e : Expression} {n : Nat}
    (h : ∀ i, n ≤ i → i < n + e.width → v i = w i) :
    e.truth v n = e.truth w n ∧ ∀ l, e.extend v n l = e.extend w n l := by
  induction e generalizing n with
  | comparison c =>
      have hn : v n = w n := h n (Nat.le_refl n) (Nat.lt_succ_self n)
      exact ⟨hn, fun l => by simp only [Expression.extend, hn]⟩
  | logical left op right ihl ihr =>
      simp only [Expression.width] at h
      have hl := ihl (n := n) fun i h₁ h₂ => h i h₁ (by omega)
      have hr := ihr (n := n + left.width) fun i h₁ h₂ => h i (by omega) (by omega)
      exact ⟨by simp only [Expression.truth, hl.1, hr.1],
        fun l => by simp only [Expression.extend, hl.2, hr.2]⟩
  | group inner ih =>
      have hi := ih h
      exact ⟨hi.1, fun l => by simp only [Expression.extend, hi.2]⟩

theorem truth_of_const {v : Nat → Bool} {b : Bool} {e : Expression} {n : Nat}
    (h : ∀ i, n ≤ i → i < n + e.width → v i = b) : e.truth v n = b := by
  induction e generalizing n with
  | comparison c => exact h n (Nat.le_refl n) (Nat.lt_succ_self n)
  | logical left op right ihl ihr =>
      simp only [Expression.width] at h
      have hl := ihl (n := n) fun i h₁ h₂ => h i h₁ (by omega)
      have hr := ihr (n := n + left.width) fun i h₁ h₂ => h i (by omega) (by omega)
      cases op <;> simp only [Expression.truth, hl, hr, Operator.connect, Bool.and_self, Bool.or_self]
  | group inner ih => exact ih h

/-- The values of `v` before place `m` and of `w` from there on. -/
def splice (m : Nat) (v w : Nat → Bool) (i : Nat) : Bool :=
  if i < m then v i else w i

theorem splice_left {m i : Nat} (v w : Nat → Bool) (h : i < m) : splice m v w i = v i :=
  if_pos h

theorem splice_right {m i : Nat} (v w : Nat → Bool) (h : m ≤ i) : splice m v w i = w i :=
  if_neg (Nat.not_lt.mpr h)

/-- An OR as the left operand of an AND is misread: its own left operand makes the line hold. -/
theorem misread_left {l₁ l₂ right : Expression} (h₁ : l₁.WellFormed) (n : Nat) :
    ∃ v, ((Expression.logical (.logical l₁ .or l₂) .and right).extend v n {}).value = true ∧
      (Expression.logical (.logical l₁ .or l₂) .and right).truth v n = false := by
  refine ⟨splice (n + (l₁.width + l₂.width)) (fun _ => true) fun _ => false, ?_, ?_⟩
  · rw [extend_and, extend_or]
    apply Line.value_of_any
    apply any_extend
    apply any_extend
    exact value_extend h₁ rfl (truth_of_const fun i _ hi => splice_left _ _ (by omega))
  · rw [truth_and, Bool.and_eq_false_iff]
    exact .inr (truth_of_const fun i hi _ => splice_right _ _ hi)

/-- An OR as the right operand of an AND is misread: its own right operand makes the line hold. -/
theorem misread_right {left r₁ r₂ : Expression} (h₂ : r₂.WellFormed) (n : Nat) :
    ∃ v, ((Expression.logical left .and (.logical r₁ .or r₂)).extend v n {}).value = true ∧
      (Expression.logical left .and (.logical r₁ .or r₂)).truth v n = false := by
  refine ⟨splice (n + left.width + r₁.width) (fun _ => false) fun _ => true, ?_, ?_⟩
  · rw [extend_and, extend_or]
    refine value_extend h₂ ?_ (truth_of_const fun i hi _ => splice_right _ _ hi)
    exact Bool.or_true _
  · rw [truth_and, Bool.and_eq_false_iff]
    exact .inl (truth_of_const fun i _ hi => splice_left _ _ (by omega))

theorem misread_of_left {left right : Expression} {op : Operator} (hop : op.isLogical)
    (wr : right.WellFormed) {n : Nat}
    (h : ∃ v, (left.extend v n {}).value = true ∧ left.truth v n = false) :
    ∃ v, ((Expression.logical left op right).extend v n {}).value = true ∧
      (Expression.logical left op right).truth v n = false := by
  obtain ⟨v, hv, ht⟩ := h
  let w := splice (n + left.width) v fun _ => op = .and
  have hl := truth_congr (v := w) (w := v) (e := left) (n := n)
    fun i _ hi => splice_left _ _ hi
  have hr : right.truth w (n + left.width) = (op = .and : Bool) :=
    truth_of_const fun i hi _ => splice_right _ _ hi
  refine ⟨w, ?_, ?_⟩
  · cases op with
    | and =>
        rw [extend_and, hl.2]
        exact value_extend wr hv hr
    | or =>
        rw [extend_or, hl.2, hv]
        exact Line.value_of_any (any_extend _ _ _ rfl)
    | _ => cases hop
  · cases op with
    | and => rw [truth_and, hl.1, ht, Bool.false_and]
    | or =>
        rw [truth_or, hl.1, ht, hr]
        rfl
    | _ => cases hop

/-- A misread right operand. Behind a line that has not been decided it is read as if it stood alone. -/
theorem misread_of_right {left right : Expression} {op : Operator} (hop : op.isLogical)
    (wl : left.WellFormed) {n : Nat}
    (h : ∃ v, (right.extend v (n + left.width) {}).value = true ∧
      right.truth v (n + left.width) = false) :
    ∃ v, ((Expression.logical left op right).extend v n {}).value = true ∧
      (Expression.logical left op right).truth v n = false := by
  obtain ⟨v, hv, ht⟩ := h
  let w := splice (n + left.width) (fun _ => op = .and) v
  have hr := truth_congr (v := w) (w := v) (e := right) (n := n + left.width)
    fun i hi _ => splice_right _ _ hi
  have hl : left.truth w n = (op = .and : Bool) :=
    truth_of_const fun i _ hi => splice_left _ _ hi
  have behind : ∀ l : Line, l.all = true →
      (right.extend w (n + left.width) l).value = true := by
    rintro ⟨any, all⟩ hall
    cases hall
    cases any with
    | true => exact Line.value_of_any (any_extend _ _ _ rfl)
    | false =>
        rw [hr.2]
        exact hv
  refine ⟨w, ?_, ?_⟩
  · cases op with
    | and =>
        rw [extend_and]
        have hline : (left.extend w n {}).value = true := value_extend wl rfl hl
        cases hany : (left.extend w n {}).any with
        | true => exact Line.value_of_any (any_extend _ _ _ hany)
        | false =>
            apply behind
            rwa [Line.value, hany, Bool.false_or] at hline
    | or => exact behind _ rfl
    | _ => cases hop
  · cases op with
    | and => rw [truth_and, hr.1, ht, Bool.and_false]
    | or =>
        rw [truth_or, hr.1, ht, hl]
        rfl
    | _ => cases hop

theorem Expression.eq_or_of_isOr {e : Expression} (h : e.isOr = true) :
    ∃ left right, e = .logical left .or right := by
  unfold Expression.isOr at h
  split at h
  · exact ⟨_, _, rfl⟩
  · cases h

theorem exists_misread {e : Expression} (hw : e.WellFormed) (hg : ¬ e.OrGrouped) (n : Nat) :
    ∃ v, (e.extend v n {}).value = true ∧ e.truth v n = false := by
  induction e generalizing n with
  | comparison c => exact absurd trivial hg
  | logical left op right ihl ihr =>
      -- The OR is below on the left, below on the right, or an operand of this very node.
      obtain ⟨hop, wl, wr⟩ := hw
      by_cases gl : left.OrGrouped
      · by_cases gr : right.OrGrouped
        · have hand : ¬ (op = .and → left.isOr = false ∧ right.isOr = false) :=
            fun h => hg ⟨h, gl, gr⟩
          simp only [Classical.not_imp, Classical.not_and_iff_not_or_not,
            Bool.not_eq_false] at hand
          obtain ⟨rfl, hl | hr⟩ := hand
          · obtain ⟨l₁, l₂, rfl⟩ := Expression.eq_or_of_isOr hl
            exact misread_left wl.2.1 n
          · obtain ⟨r₁, r₂, rfl⟩ := Expression.eq_or_of_isOr hr
            exact misread_right wr.2.2 n
        · exact misread_of_right hop wl (ihr wr gr _)
      · exact misread_of_left hop wr (ihl wl gl n)
  | group inner ih =>
      obtain ⟨v, hv, ht⟩ := ih hw hg n
      refine ⟨v, ?_, ht⟩
      rw [Expression.extend, hv]
      rfl

/-- The tokens of a well-formed tree write its clause and have a reading; and a reading agrees with
the tree on every assignment exactly when each OR below an AND is grouped. -/
theorem reading_agrees_iff_orGrouped {e : Expression} (hw : e.WellFormed) :
    (∀ dialect settings, e.depth ≤ settings.maxDepth →
      convertWith e dialect settings = .ok (String.join (e.tokens.map (Token.text dialect)))) ∧
    (∃ r, Reads .disjunction e.tokens r) ∧
    ∀ r, Reads .disjunction e.tokens r →
      ((∀ v, r.truth v 0 = e.truth v 0) ↔ e.OrGrouped) := by
  refine ⟨?_, (exists_reads hw).1, ?_⟩
  · intro dialect settings hd
    exact convertWith_eq_ok_iff.mpr ⟨hd, hw, (clause_eq_join_tokens dialect e).symm⟩
  · intro r hr
    constructor
    · intro hv
      by_cases hg : e.OrGrouped
      · exact hg
      · obtain ⟨v, hread, htree⟩ := exists_misread hw hg 0
        rw [← hr.truth_eq v, hv v, htree] at hread
        cases hread
    · intro hg v
      rw [hr.truth_eq v, (extend_of_orGrouped hw hg v 0).2 {} rfl]
      rfl

def flag (key : String) : Expression :=
  .test key .eq true

/-- `a OR b AND c` is read as `a OR (b AND c)`, which is not what the tree means that writes it with
the OR inside; a group around the OR restores the meaning. -/
theorem reading_of_ungrouped_or :
    (((flag "a").or (flag "b")).and (flag "c")).WellFormed ∧
    Reads .disjunction (((flag "a").or (flag "b")).and (flag "c")).tokens
      ((flag "a").or ((flag "b").and (flag "c"))) ∧
    (¬ ∀ v, ((flag "a").or ((flag "b").and (flag "c"))).truth v 0 =
      (((flag "a").or (flag "b")).and (flag "c")).truth v 0) ∧
    ∃ r, Reads .disjunction ((Expression.group ((flag "a").or (flag "b"))).and (flag "c")).tokens r ∧
      ∀ v, r.truth v 0 =
        ((Expression.group ((flag "a").or (flag "b"))).and (flag "c")).truth v 0 := by
  have hr : Reads .disjunction (((flag "a").or (flag "b")).and (flag "c")).tokens
      ((flag "a").or ((flag "b").and (flag "c"))) :=
    .or (.conjunction (.operand (.atom _))) (.and (.operand (.atom _)) (.atom _))
  refine ⟨by decide, hr, ?_, ?_⟩
  · intro h
    have hg := ((reading_agrees_iff_orGrouped (by decide)).2.2 _ hr).mp h
    exact absurd (hg.1 rfl).1 (by decide)
  · obtain ⟨-, ⟨r, hr⟩, hv⟩ := reading_agrees_iff_orGrouped
      (e := (Expression.group ((flag "a").or (flag "b"))).and (flag "c")) (by decide)
    refine ⟨r, hr, (hv r hr).mpr ⟨fun _ => ⟨rfl, rfl⟩, ?_, trivial⟩⟩
    exact ⟨fun h => (nomatch h), trivial, trivial⟩

end FilterClause
