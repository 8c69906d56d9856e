import FilterClause.Proofs.Nesting
import FilterClause.Proofs.Stages

/-!
What the command prints of a tree, as an input of the command. Every text that is read is a tree that the
reader has room for when it is written in full; without floating-point numbers the text that is printed is
read as the same tree, line break and all, and printed again as it is.
-/

namespace FilterClause

namespace Json

theorem Indent.lineBreak_append (indent : Indent) (rest last : List Char) :
    indent.lineBreak rest ++ last = indent.lineBreak (rest ++ last) := by
  cases indent with
  | none => rfl
  | some level => simp only [lineBreak, List.cons_append, List.append_assoc]

theorem Indent.colon_append (indent : Indent) (rest last : List Char) :
    indent.colon rest ++ last = indent.colon (rest ++ last) := by
  cases indent <;> rfl

theorem stringText_append (s : String) (rest last : List Char) :
    stringText s rest ++ last = stringText s (rest ++ last) := by
  simp only [stringText_eq, List.cons_append, List.append_assoc]

namespace Document

mutual

theorem text_append : ∀ (indent : Indent) (d : Document) (rest last : List Char),
    d.text indent rest ++ last = d.text indent (rest ++ last)
  | _, .null, _, _ => rfl
  | _, .bool true, _, _ => rfl
  | _, .bool false, _, _ => rfl
  | _, .integer n, rest, last => List.append_assoc (integerText n) rest last
  | _, .float x, rest, last => List.append_assoc (floatText x) rest last
  | _, .string s, rest, last => stringText_append s rest last
  | _, .array [], _, _ => rfl
  | indent, .array (d :: ds), rest, last => by
      simp only [text, List.cons_append, Indent.lineBreak_append,
        text_append indent.deeper d _ last, itemsText_append indent ds rest last]
  | _, .object [], _, _ => rfl
  | indent, .object ((name, d) :: ms), rest, last => by
      simp only [text, List.cons_append, Indent.lineBreak_append, stringText_append,
        Indent.colon_append, text_append indent.deeper d _ last,
        membersText_append indent ms rest last]

theorem itemsText_append : ∀ (indent : Indent) (ds : List Document) (rest last : List Char),
    itemsText indent ds rest ++ last = itemsText indent ds (rest ++ last)
  | indent, [], rest, last => indent.lineBreak_append (']' :: rest) last
  | indent, d :: ds, rest, last => by
      simp only [itemsText, List.cons_append, Indent.lineBreak_append,
        text_append indent.deeper d _ last, itemsText_append indent ds rest last]

theorem membersText_append :
    ∀ (indent : Indent) (ms : List (String × Document)) (rest last : List Char),
    membersText indent ms rest ++ last = membersText indent ms (rest ++ last)
  | indent, [], rest, last => indent.lineBreak_append ('\x7d' :: rest) last
  | indent, (name, d) :: ms, rest, last => by
      simp only [membersText, List.cons_append, Indent.lineBreak_append, stringText_append,
        Indent.colon_append, text_append indent.deeper d _ last,
        membersText_append indent ms rest last]

end

theorem indented_append (d : Document) (s : String) :
    d.indented ++ s = String.ofList (d.text (some 0) s.toList) := by
  apply String.toList_injective
  rw [indented, String.toList_append, String.toList_ofList, String.toList_ofList, text_append,
    List.nil_append]

end Document

end Json

theorem parseJson_indented_append {e : Expression} (h : e.FloatFree) (hnesting : e.nesting ≤ 127)
    {blanks : String} (hblanks : Json.skipBlanks blanks.toList = []) :
    parseJson (e.toDocument.indented ++ blanks) = .ok e := by
  have hread := (Source.readExpression_text Json.nestingLimit (some 0) blanks.toList h).ok hnesting
  rw [Json.Document.indented_append]
  apply parseJson_eq_ok_iff.mpr
  apply Json.readText_eq_ok_iff.mpr
  rw [String.toList_ofList]
  exact ⟨blanks.toList, hread, hblanks⟩

namespace Command

theorem ast_prints {w : Surroundings} {o : AstOptions} {text : String} {e : Expression}
    (hinput : readInput w o.input = .ok text) (h : parseJson text = .ok e) (filter : LogFilter) :
    ((Invocation.ast o).run w filter).Prints e.toDocument.indented := by
  have hread : readExpression w o.input = .ok e := by
    simp only [readExpression, hinput, Except.ok_bind, h, Except.mapError]
  simp only [Invocation.run, runAst, hread]
  exact ⟨rfl, rfl, rfl⟩

/-- Whatever text a tree is read from, the tree is no deeper than the reader's limit, and the command
prints the tree in full. Without floating-point numbers what is printed is read as the same tree again, so
that given as an input to another run of the command it is printed once more, character for character. -/
theorem ast_reproduces {text : String} {e : Expression} (h : parseJson text = .ok e) :
    e.depth ≤ 127 ∧
    (∀ w o filter, readInput w o.input = .ok text →
      ((Invocation.ast o).run w filter).Prints e.toDocument.indented) ∧
    (e.FloatFree → parseJson e.toDocument.indented = .ok e ∧
      ∀ w o filter, readInput w o.input = .ok text →
        let out := (Invocation.ast o).run w filter
        parseJson out.stdout = .ok e ∧
        ∀ w' o' filter', readInput w' o'.input = .ok out.stdout →
          let again := (Invocation.ast o').run w' filter'
          again.exitCode = 0 ∧ again.error = none ∧ again.stdout = out.stdout) := by
  have hnesting := nesting_le_of_parseJson h
  refine ⟨Nat.le_trans e.depth_le_nesting hnesting, ?_, ?_⟩
  · intro w o filter hinput
    exact ast_prints hinput h filter
  · intro hfree
    have hindented := (parseJson_text hfree (some 0)).1 hnesting
    refine ⟨hindented, ?_⟩
    intro w o filter hinput out
    have hprints : out.Prints e.toDocument.indented := ast_prints hinput h filter
    have hstdout : parseJson out.stdout = .ok e := by
      rw [hprints.stdout]
      exact parseJson_indented_append hfree hnesting rfl
    refine ⟨hstdout, ?_⟩
    intro w' o' filter' hinput' again
    have hagain : again.Prints e.toDocument.indented := ast_prints hinput' hstdout filter'
    exact ⟨hagain.exitCode, hagain.error, hagain.stdout.trans hprints.stdout.symm⟩

/-- A conjunction in array form, its operands in the two forms with numbers for their tags. -/
def mixed : Json.Document :=
  .array [.string "logical",
    .object [("op", .string "EQ"), ("left", .null), ("value", .integer 1), ("key", .string "k"),
      ("type", .integer 0)],
    .string " And ",
    .array [.integer 2, .array [.integer 0, .string "j", .string "iN\n", .array [.string "a"]]]]

/-- The conjunction is printed by one run, and by another that is given what the first has printed. -/
theorem ast_reproduces_mixed :
    let e : Expression := .and (.test "k" .eq (1 : Int64))
      (.group (.comparison ⟨"j", .isIn, .list [.string "a"]⟩))
    let w : Surroundings := ⟨nowhere.readFile, .ok mixed.compact.toUTF8⟩
    let out := (Invocation.ast {}).run w LogFilter.usual
    let w' : Surroundings := ⟨nowhere.readFile, .ok out.stdout.toUTF8⟩
    parseJson mixed.compact = .ok e ∧ e.depth ≤ 127 ∧ e.FloatFree ∧
      out.Prints e.toDocument.indented ∧
      ((Invocation.ast {}).run w' LogFilter.usual).stdout = out.stdout := by
  intro e w out w'
  have h : parseJson mixed.compact = .ok e := by
    apply parseJson_eq_ok_iff.mpr
    apply Json.readText_eq_ok_iff.mpr
    rw [Json.Document.compact, String.toList_ofList]
    exact ⟨[], rfl, rfl⟩
  have hinput : ∀ text, readInput ⟨nowhere.readFile, .ok text.toUTF8⟩ none = .ok text := by
    intro text
    simp only [readInput, decode, fromUTF8?_toUTF8]
  have hfree : e.FloatFree := by decide
  obtain ⟨hdepth, hprints, hagain⟩ := ast_reproduces h
  have hsame := ((hagain hfree).2 w {} LogFilter.usual (hinput _)).2 w' {} LogFilter.usual (hinput _)
  exact ⟨h, hdepth, hfree, hprints w {} LogFilter.usual (hinput _), hsame.2.2⟩

end Command

end FilterClause
