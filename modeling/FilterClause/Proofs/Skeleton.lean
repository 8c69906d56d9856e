import FilterClause.Proofs.Frontier
import Mathlib.Algebra.Group.Nat.Even
import Mathlib.Data.List.Forall2

/-!
What a clause shows once the contents of its quoted spans are deleted. In the built-in dialects keys and
strings stand between single quotes and are not escaped; as long as they have no such quote inside, a
reader of the clause is back outside of quotes behind every piece of it, and what he has seen there does
not depend on them.

A key is looked at after one layer of its own quotes has been taken off. Nothing is claimed for a key or
a string with a single quote in it.
-/

namespace FilterClause

/-- The text without what stands inside of quoted spans, read from inside or outside of one. The quotes
themselves stay. -/
def skeletonFrom : Bool → List Char → List Char
  | _, [] => []
  | inside, c :: cs =>
    if c = '\'' then c :: skeletonFrom (!inside) cs
    else if inside then skeletonFrom inside cs
    else c :: skeletonFrom inside cs

/-- Spans go from the first quote to the second, from the third to the fourth, and so on. -/
def skeleton (cs : List Char) : List Char :=
  skeletonFrom false cs

theorem skeletonFrom_inside {cs : List Char} (h : '\'' ∉ cs) (ds : List Char) :
    skeletonFrom true (cs ++ ds) = skeletonFrom true ds := by
  induction cs with
  | nil => rfl
  | cons c cs ih =>
      rw [List.mem_cons, not_or] at h
      rw [List.cons_append, skeletonFrom, if_neg (Ne.symm h.1), if_pos rfl, ih h.2]

/-- Each quote takes the reader from outside to inside or back, so that parity tells where he is. -/
theorem skeletonFrom_append (inside : Bool) (cs ds : List Char) :
    skeletonFrom inside (cs ++ ds) = skeletonFrom inside cs ++
      skeletonFrom (if Even (cs.count '\'') then inside else !inside) ds := by
  induction cs generalizing inside with
  | nil => rfl
  | cons c cs ih =>
      by_cases hc : c = '\''
      · subst hc
        rw [List.cons_append, skeletonFrom, if_pos rfl, ih, skeletonFrom, if_pos rfl,
          List.count_cons_self, List.cons_append]
        by_cases h : Even (cs.count '\'')
        · rw [if_pos h, if_neg (Nat.even_add_one.not.mpr (not_not_intro h))]
        · rw [if_neg h, if_pos (Nat.even_add_one.mpr h), Bool.not_not]
      · rw [List.cons_append, skeletonFrom, if_neg hc, skeletonFrom, if_neg hc, ih,
          List.count_cons_of_ne hc]
        cases inside with
        | false => rfl
        | true => rfl

theorem skeleton_append {cs : List Char} (h : Even (cs.count '\'')) (ds : List Char) :
    skeleton (cs ++ ds) = skeleton cs ++ skeleton ds := by
  rw [skeleton, skeletonFrom_append, if_pos h]
  rfl

/-- Two texts that leave their reader outside of quotes and show him the same. -/
structure SameSkeleton (cs ds : List Char) : Prop where
  even_left : Even (cs.count '\'')
  even_right : Even (ds.count '\'')
  eq : skeleton cs = skeleton ds

namespace SameSkeleton

variable {cs ds cs' ds' : List Char}

theorem of_even (h : Even (cs.count '\'')) : SameSkeleton cs cs :=
  ⟨h, h, rfl⟩

theorem of_notMem (h : '\'' ∉ cs) : SameSkeleton cs cs := by
  apply of_even
  rw [List.count_eq_zero.mpr h]
  exact Even.zero

theorem append (h : SameSkeleton cs ds) (h' : SameSkeleton cs' ds') :
    SameSkeleton (cs ++ cs') (ds ++ ds') := by
  constructor
  · rw [List.count_append]
    exact h.even_left.add h'.even_left
  · rw [List.count_append]
    exact h.even_right.add h'.even_right
  · have heq := h.eq
    have heq' := h'.eq
    rw [skeleton_append h.even_left, skeleton_append h.even_right, heq, heq']

theorem quoted (hc : '\'' ∉ cs) (hd : '\'' ∉ ds) :
    SameSkeleton ('\'' :: (cs ++ ['\''])) ('\'' :: (ds ++ ['\''])) := by
  have hcount : ∀ xs : List Char, '\'' ∉ xs → ('\'' :: (xs ++ ['\''])).count '\'' = 2 := by
    intro xs hx
    rw [List.count_cons_self, List.count_append, List.count_eq_zero.mpr hx]
    rfl
  have hskeleton : ∀ xs : List Char, '\'' ∉ xs → skeleton ('\'' :: (xs ++ ['\''])) = ['\'', '\''] := by
    intro xs hx
    rw [skeleton, skeletonFrom, if_pos rfl, Bool.not_false, skeletonFrom_inside hx]
    rfl
  constructor
  · rw [hcount cs hc]
    exact ⟨1, rfl⟩
  · rw [hcount ds hd]
    exact ⟨1, rfl⟩
  · rw [hskeleton cs hc, hskeleton ds hd]

end SameSkeleton

/-- The same literal, or two strings. -/
inductive Scalar.SameShape : Scalar → Scalar → Prop
  | string (s t : String) : SameShape (.string s) (.string t)
  | refl (s : Scalar) : SameShape s s

/-- The same lengths, with strings at the same places and otherwise the same literals. -/
inductive Value.SameShape : Value → Value → Prop
  | scalar {s t : Scalar} (h : s.SameShape t) : SameShape (.scalar s) (.scalar t)
  | list {xs ys : List Scalar} (h : List.Forall₂ Scalar.SameShape xs ys) :
      SameShape (.list xs) (.list ys)

/-- The same nodes with the same operators, over values of the same shape. Keys may differ. -/
inductive Expression.SameShape : Expression → Expression → Prop
  | comparison (k l : String) (op : Operator) {v w : Value} (h : v.SameShape w) :
      SameShape (.comparison ⟨k, op, v⟩) (.comparison ⟨l, op, w⟩)
  | logical {left left' right right' : Expression} (op : Operator) (hl : SameShape left left')
      (hr : SameShape right right') : SameShape (.logical left op right) (.logical left' op right')
  | group {inner inner' : Expression} (h : SameShape inner inner') :
      SameShape (.group inner) (.group inner')

theorem sameSkeleton_symbol (op : Operator) : SameSkeleton op.symbol.toList op.symbol.toList :=
  .of_notMem (by cases op <;> decide)

theorem sameSkeleton_literal {s t : Scalar} (h : s.SameShape t) (hs : '\'' ∉ s.display.toList)
    (ht : '\'' ∉ t.display.toList) :
    SameSkeleton (quoteSingle s).toList (quoteSingle t).toList := by
  have hstring : ∀ a : String, (quoteSingle (.string a)).toList = '\'' :: (a.toList ++ ['\'']) := by
    intro a
    simp [quoteSingle]
  cases h with
  | string a b =>
      rw [hstring, hstring]
      exact .quoted hs ht
  | refl =>
      cases s with
      | string a =>
          rw [hstring]
          exact .quoted hs hs
      | bool b => exact .of_notMem hs
      | int n => exact .of_notMem hs
      | float x => exact .of_notMem hs

theorem sameSkeleton_items {xs ys : List Scalar} (h : List.Forall₂ Scalar.SameShape xs ys)
    (hx : ∀ s ∈ xs, '\'' ∉ s.display.toList) (hy : ∀ s ∈ ys, '\'' ∉ s.display.toList) :
    SameSkeleton (String.intercalate "," (xs.map quoteSingle)).toList
      (String.intercalate "," (ys.map quoteSingle)).toList := by
  induction h with
  | nil => exact .of_notMem (by decide)
  | cons hst h ih =>
      rw [List.forall_mem_cons] at hx hy
      have hfirst := sameSkeleton_literal hst hx.1 hy.1
      have hrest := ih hx.2 hy.2
      cases h with
      | nil =>
          simp only [List.map_cons, List.map_nil, String.intercalate_singleton]
          exact hfirst
      | cons _ _ =>
          simp only [List.map_cons, String.intercalate_cons_cons, String.toList_append] at hrest ⊢
          exact (hfirst.append (.of_notMem (by decide))).append hrest

theorem exists_opening_eq (kind : DialectKind) (column : String) :
    ∃ front path, (kind.opening column).toList = column.toList ++ (front ++ '\'' :: path) ∧
      '\'' ∉ front ∧ '\'' ∉ path := by
  cases kind with
  | pgVector => exact ⟨"::jsonb->>".toList, [], String.toList_append, by decide, by decide⟩
  | mySql => exact ⟨"->>".toList, "$.".toList, String.toList_append, by decide, by decide⟩

section

variable (name : String)

theorem sameSkeleton_key (kind : DialectKind) {column k l : String} (hcolumn : '\'' ∉ column.toList)
    (hk : '\'' ∉ k.toList) (hl : '\'' ∉ l.toList) :
    SameSkeleton (kind.opening column ++ k ++ "'").toList (kind.opening column ++ l ++ "'").toList := by
  obtain ⟨front, path, hopening, hfront, hpath⟩ := exists_opening_eq kind column
  have hspelled : ∀ key : String, (kind.opening column ++ key ++ "'").toList =
      (column.toList ++ front) ++ '\'' :: ((path ++ key.toList) ++ ['\'']) := by
    intro key
    simp [hopening]
  have hquoted : SameSkeleton ('\'' :: ((path ++ k.toList) ++ ['\'']))
      ('\'' :: ((path ++ l.toList) ++ ['\''])) :=
    .quoted (by simp [hpath, hk]) (by simp [hpath, hl])
  rw [hspelled, hspelled]
  exact ((SameSkeleton.of_notMem hcolumn).append (.of_notMem hfront)).append hquoted

theorem sameSkeleton_value (opening : String) {v w : Value} (h : v.SameShape w)
    (hv : ∀ s ∈ v.literals, '\'' ∉ s.display.toList) (hw : ∀ s ∈ w.literals, '\'' ∉ s.display.toList) :
    SameSkeleton (v.clause (.quoting name opening)).toList
      (w.clause (.quoting name opening)).toList := by
  cases h with
  | scalar h => exact sameSkeleton_literal h (hv _ List.mem_cons_self) (hw _ List.mem_cons_self)
  | list h =>
      have hopen : SameSkeleton "(".toList "(".toList := .of_notMem (by decide)
      have hclose : SameSkeleton ")".toList ")".toList := .of_notMem (by decide)
      have hwhole := (hopen.append (sameSkeleton_items h hv hw)).append hclose
      simpa only [Value.clause, Dialect.quoting, String.toList_append] using hwhole

theorem sameSkeleton_clause (kind : DialectKind) {column : String} (hcolumn : '\'' ∉ column.toList)
    {e f : Expression} (h : e.SameShape f)
    (he : e.Throughout Scalar.display fun s => '\'' ∉ s.toList)
    (hf : f.Throughout Scalar.display fun s => '\'' ∉ s.toList) :
    SameSkeleton (e.clause (.quoting name (kind.opening column))).toList
      (f.clause (.quoting name (kind.opening column))).toList := by
  induction h with
  | comparison k l op h =>
      obtain ⟨hk, hv⟩ := Expression.forall_comparisons_comparison.mp he
      obtain ⟨hl, hw⟩ := Expression.forall_comparisons_comparison.mp hf
      have hwhole := ((sameSkeleton_key kind hcolumn hk hl).append (sameSkeleton_symbol op)).append
        (sameSkeleton_value name (kind.opening column) h hv hw)
      simpa only [Expression.clause, Comparison.clause, Dialect.quoting, String.toList_append]
        using hwhole
  | logical op _ _ ihl ihr =>
      obtain ⟨hel, her⟩ := Expression.forall_comparisons_logical.mp he
      obtain ⟨hfl, hfr⟩ := Expression.forall_comparisons_logical.mp hf
      have hwhole := ((ihl hel hfl).append (sameSkeleton_symbol op)).append (ihr her hfr)
      simpa only [Expression.clause, String.toList_append] using hwhole
  | group _ ih =>
      have hopen : SameSkeleton "(".toList "(".toList := .of_notMem (by decide)
      have hclose : SameSkeleton ")".toList ")".toList := .of_notMem (by decide)
      have hwhole := (hopen.append (ih he hf)).append hclose
      simpa only [Expression.clause, Dialect.quoting, String.toList_append] using hwhole

end

/-- Two trees of one shape, without single quotes in the column, in a key or in the plain text of a
literal, have clauses with an even number of quotes each and, but for what stands inside of quotes, with
the same text. -/
theorem skeleton_eq_of_sameShape {kind : DialectKind} {column : String}
    (hcolumn : '\'' ∉ column.toList) {e f : Expression} (shape : e.SameShape f)
    {settings settings' : ConverterSettings} {text text' : String}
    (h : convertWith e (kind.build (some column)) settings = .ok text)
    (h' : convertWith f (kind.build (some column)) settings' = .ok text')
    (he : e.Throughout Scalar.display fun s => '\'' ∉ s.toList)
    (hf : f.Throughout Scalar.display fun s => '\'' ∉ s.toList) :
    Even (text.toList.count '\'') ∧ Even (text'.toList.count '\'') ∧
      skeleton text.toList = skeleton text'.toList := by
  obtain ⟨-, -, rfl⟩ := convertWith_eq_ok_iff.mp h
  obtain ⟨-, -, rfl⟩ := convertWith_eq_ok_iff.mp h'
  rw [build_eq_quoting]
  have hsame := sameSkeleton_clause (kind.build none).name kind hcolumn shape he hf
  exact ⟨hsame.even_left, hsame.even_right, hsame.eq⟩

/-- A key and two strings, the second in a list behind a number. -/
def guarded (key s t : String) : Expression :=
  (Expression.test key .eq s).or (.group (.comparison ⟨"b", .isIn, .list [.bool true, .string t]⟩))

/-- A key in quotes and strings that read like operators and parentheses leave the clause as it is for
plain ones. -/
theorem skeleton_of_guarded :
    ∃ text text',
      convertWith (guarded "'a) OR \"1\"'" ") OR (1 = 1" "x,(y")
        (DialectKind.mySql.build (some "m")) {} = .ok text ∧
      convertWith (guarded "k" "" "z") (DialectKind.mySql.build (some "m")) {} = .ok text' ∧
      text ≠ text' ∧ skeleton text.toList = skeleton text'.toList := by
  have converts : ∀ key s t, convertWith (guarded key s t) (DialectKind.mySql.build (some "m")) {} =
      .ok ((guarded key s t).clause (DialectKind.mySql.build (some "m"))) := by
    intro key s t
    exact convertWith_eq_ok_iff.mpr ⟨(by decide : 3 ≤ 64), ⟨rfl, rfl, rfl⟩, rfl⟩
  have shape : ∀ k s t l u v, (guarded k s t).SameShape (guarded l u v) := fun k s t l u v =>
    .logical .or (.comparison k l .eq (.scalar (.string s u)))
      (.group (.comparison "b" "b" .isIn (.list (.cons (.refl _) (.cons (.string t v) .nil)))))
  refine ⟨_, _, converts _ _ _, converts _ _ _, by decide, ?_⟩
  exact (skeleton_eq_of_sameShape (by decide) (shape _ _ _ _ _ _) (converts _ _ _) (converts _ _ _)
    (by decide) (by decide)).2.2

end FilterClause
