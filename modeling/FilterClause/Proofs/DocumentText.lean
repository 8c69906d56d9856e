import FilterClause.Proofs.Atom

/-!
The text of a document: how deep its brackets nest, what stands between its items, what it starts with
and what may stand behind it.
-/

namespace FilterClause.Json

open Document

/-- Every number is an integer of a 64-bit word, signed or unsigned. -/
inductive Document.Exact : Document → Prop
  | null : Exact .null
  | bool (b : Bool) : Exact (.bool b)
  | integer (n : Int) (hlow : Int64.minValue.toInt ≤ n) (hhigh : n < UInt64.size) : Exact (.integer n)
  | string (s : String) : Exact (.string s)
  | array (items : List Document) (h : ∀ d ∈ items, Exact d) : Exact (.array items)
  | object (ms : List (String × Document)) (h : ∀ m ∈ ms, Exact m.2) : Exact (.object ms)

namespace Document

mutual

/-- Brackets inside one another, at most. -/
def nesting : Document → Nat
  | .array items => itemsNesting items + 1
  | .object ms => membersNesting ms + 1
  | _ => 0

def itemsNesting : List Document → Nat
  | [] => 0
  | d :: ds => max d.nesting (itemsNesting ds)

def membersNesting : List (String × Document) → Nat
  | [] => 0
  | (_, d) :: ms => max d.nesting (membersNesting ms)

end

theorem itemsNesting_le_iff {ds : List Document} {n : Nat} :
    itemsNesting ds ≤ n ↔ ∀ d ∈ ds, d.nesting ≤ n := by
  induction ds with
  | nil => simp [itemsNesting]
  | cons d ds ih => rw [itemsNesting, Nat.max_le, ih, List.forall_mem_cons]

theorem membersNesting_le_iff {ms : List (String × Document)} {n : Nat} :
    membersNesting ms ≤ n ↔ ∀ m ∈ ms, m.2.nesting ≤ n := by
  induction ms with
  | nil => simp [membersNesting]
  | cons m ms ih => rw [membersNesting, Nat.max_le, ih, List.forall_mem_cons]

end Document

theorem skipBlanks_cons {c : Char} (h : isBlank c = false) (rest : List Char) :
    skipBlanks (c :: rest) = c :: rest :=
  List.dropWhile_cons_of_neg (by rw [h]; exact Bool.false_ne_true)

theorem skipBlanks_lineBreak (indent : Indent) (rest : List Char) :
    skipBlanks (indent.lineBreak rest) = skipBlanks rest := by
  cases indent with
  | none => rfl
  | some level =>
      rw [Indent.lineBreak, skipBlanks, List.cons_append, List.dropWhile_cons_of_pos rfl]
      exact List.dropWhile_append_of_pos
        (fun c hc => by rw [List.eq_of_mem_replicate hc]; rfl)

theorem readColon_colon (indent : Indent) (rest : List Char) :
    ∃ blanks, readColon (indent.colon rest) = .ok blanks ∧ skipBlanks blanks = skipBlanks rest := by
  cases indent with
  | none => exact ⟨rest, rfl, rfl⟩
  | some level => exact ⟨' ' :: rest, rfl, rfl⟩

section Layout

variable (indent : Indent)

/-- What stands before an item that is the first or not. -/
def lead (first : Bool) (rest : List Char) : List Char :=
  if first then indent.deeper.lineBreak rest else ',' :: indent.deeper.lineBreak rest

/-- What stands before the closing bracket of a body that is empty or not. -/
def trail (empty : Bool) (rest : List Char) : List Char :=
  if empty then rest else indent.lineBreak rest

/-- The items of an array from one on that is the first or not, and the closing bracket. -/
def elementsText (first : Bool) : List Document → List Char → List Char
  | [], rest => trail indent first (']' :: rest)
  | d :: ds, rest => lead indent first (d.text indent.deeper (itemsText indent ds rest))

def fieldsText (first : Bool) : List (String × Document) → List Char → List Char
  | [], rest => trail indent first ('\x7d' :: rest)
  | (name, d) :: ms, rest =>
    lead indent first
      (stringText name (indent.colon (d.text indent.deeper (membersText indent ms rest))))

theorem text_array (items : List Document) (rest : List Char) :
    (Document.array items).text indent rest = '[' :: elementsText indent true items rest := by
  cases items <;> rfl

theorem itemsText_eq (ds : List Document) (rest : List Char) :
    itemsText indent ds rest = elementsText indent false ds rest := by
  cases ds <;> rfl

theorem text_object (ms : List (String × Document)) (rest : List Char) :
    (Document.object ms).text indent rest = '\x7b' :: fieldsText indent true ms rest := by
  cases ms with
  | nil => rfl
  | cons m ms => rfl

theorem membersText_eq (ms : List (String × Document)) (rest : List Char) :
    membersText indent ms rest = fieldsText indent false ms rest := by
  cases ms with
  | nil => rfl
  | cons m ms => rfl

theorem skipBlanks_trail (empty : Bool) (rest : List Char) :
    skipBlanks (trail indent empty rest) = skipBlanks rest := by
  cases empty
  · exact skipBlanks_lineBreak indent rest
  · rfl

end Layout

theorem exists_integerText_append_eq_cons (n : Int) (rest : List Char) :
    ∃ c cs, integerText n ++ rest = c :: cs ∧
      isBlank c = false ∧ c ≠ ']' ∧ c ≠ '[' ∧ c ≠ '\x7b' := by
  obtain ⟨c, cs, hc, hd⟩ := exists_integerText_eq_cons n
  have hne : ∀ k : Char, '-' ≠ k → k.isDigit = false → c ≠ k :=
    fun _ => ne_of_startsInteger hd
  refine ⟨c, cs ++ rest, by rw [hc, List.cons_append], ?_, hne _ (by decide) rfl,
    hne _ (by decide) rfl, hne _ (by decide) rfl⟩
  simp [isBlank, hne ' ' (by decide) rfl, hne '\n' (by decide) rfl, hne '\t' (by decide) rfl,
    hne '\r' (by decide) rfl]

theorem exists_text_eq_cons {d : Document} (h : d.Exact) (indent : Indent) (rest : List Char) :
    ∃ c cs, d.text indent rest = c :: cs ∧ isBlank c = false ∧ c ≠ ']' := by
  cases h with
  | null => exact ⟨_, _, rfl, rfl, by decide⟩
  | bool b => cases b <;> exact ⟨_, _, rfl, rfl, by decide⟩
  | string s => exact ⟨_, _, rfl, rfl, by decide⟩
  | array items => exact ⟨_, _, text_array indent items rest, rfl, by decide⟩
  | object ms => exact ⟨_, _, text_object indent ms rest, rfl, by decide⟩
  | integer n =>
      obtain ⟨c, cs, hc, hblank, hclose, -⟩ := exists_integerText_append_eq_cons n rest
      exact ⟨c, cs, hc, hblank, hclose⟩

theorem le_length_lineBreak (indent : Indent) (rest : List Char) :
    rest.length ≤ (indent.lineBreak rest).length := by
  cases indent with
  | none => exact Nat.le_refl _
  | some level =>
      simp only [Indent.lineBreak, List.cons_append, List.length_cons, List.length_append]
      omega

theorem le_length_named (indent : Indent) (name : String) (rest : List Char) :
    rest.length ≤ (indent.deeper.lineBreak (stringText name (indent.colon rest))).length := by
  have hbreak := le_length_lineBreak indent.deeper (stringText name (indent.colon rest))
  have hcolon : rest.length ≤ (indent.colon rest).length := by
    cases indent <;> simp only [Indent.colon, List.length_cons] <;> omega
  simp only [stringText_eq, List.length_cons, List.length_append] at hbreak ⊢
  omega

mutual

theorem le_length_text : ∀ (indent : Indent) (d : Document) (rest : List Char),
    rest.length ≤ (d.text indent rest).length
  | _, .null, rest => by
      simp only [Document.text, List.length_cons]
      omega
  | _, .bool true, rest => by
      simp only [Document.text, List.length_cons]
      omega
  | _, .bool false, rest => by
      simp only [Document.text, List.length_cons]
      omega
  | _, .integer n, rest => by
      simp only [Document.text, List.length_append]
      omega
  | _, .float x, rest => by
      simp only [Document.text, List.length_append]
      omega
  | _, .string s, rest => by
      simp only [Document.text, stringText_eq, List.length_cons, List.length_append]
      omega
  | _, .array [], rest => by
      simp only [Document.text, List.length_cons]
      omega
  | indent, .array (d :: ds), rest => by
      have hitems := length_add_lt_itemsText indent ds rest
      have htext := le_length_text indent.deeper d (itemsText indent ds rest)
      have hbreak := le_length_lineBreak indent.deeper
        (d.text indent.deeper (itemsText indent ds rest))
      simp only [Document.text, List.length_cons]
      omega
  | _, .object [], rest => by
      simp only [Document.text, List.length_cons]
      omega
  | indent, .object ((name, d) :: ms), rest => by
      have hmembers := length_add_lt_membersText indent ms rest
      have htext := le_length_text indent.deeper d (membersText indent ms rest)
      have hname := le_length_named indent name
        (d.text indent.deeper (membersText indent ms rest))
      simp only [Document.text, List.length_cons]
      omega

/-- Every item takes a character at least, if only its comma, and the bracket takes one. -/
theorem length_add_lt_itemsText : ∀ (indent : Indent) (ds : List Document) (rest : List Char),
    ds.length + rest.length < (itemsText indent ds rest).length
  | indent, [], rest => by
      have hbreak := le_length_lineBreak indent (']' :: rest)
      simp only [itemsText, List.length_nil, List.length_cons] at hbreak ⊢
      omega
  | indent, d :: ds, rest => by
      have hitems := length_add_lt_itemsText indent ds rest
      have htext := le_length_text indent.deeper d (itemsText indent ds rest)
      have hbreak := le_length_lineBreak indent.deeper
        (d.text indent.deeper (itemsText indent ds rest))
      simp only [itemsText, List.length_cons]
      omega

theorem length_add_lt_membersText :
    ∀ (indent : Indent) (ms : List (String × Document)) (rest : List Char),
    ms.length + rest.length < (membersText indent ms rest).length
  | indent, [], rest => by
      have hbreak := le_length_lineBreak indent ('\x7d' :: rest)
      simp only [membersText, List.length_nil, List.length_cons] at hbreak ⊢
      omega
  | indent, (name, d) :: ms, rest => by
      have hmembers := length_add_lt_membersText indent ms rest
      have htext := le_length_text indent.deeper d (membersText indent ms rest)
      have hname := le_length_named indent name
        (d.text indent.deeper (membersText indent ms rest))
      simp only [membersText, List.length_cons]
      omega

end

theorem numberEnds_lineBreak (indent : Indent) {rest : List Char} (h : NumberEnds rest) :
    NumberEnds (indent.lineBreak rest) := by
  cases indent with
  | none => exact h
  | some level => exact Text.stops_cons _ rfl

theorem numberEnds_itemsText (indent : Indent) (ds : List Document) (rest : List Char) :
    NumberEnds (itemsText indent ds rest) := by
  cases ds with
  | nil => exact numberEnds_lineBreak indent (Text.stops_cons _ rfl)
  | cons d ds => exact Text.stops_cons _ rfl

theorem numberEnds_membersText (indent : Indent) (ms : List (String × Document))
    (rest : List Char) : NumberEnds (membersText indent ms rest) := by
  cases ms with
  | nil => exact numberEnds_lineBreak indent (Text.stops_cons _ rfl)
  | cons m ms => exact Text.stops_cons _ rfl

end FilterClause.Json
