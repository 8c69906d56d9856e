import FilterClause.Proofs.Decoding
import FilterClause.Proofs.Token
import FilterClause.Schema.Source
import Mathlib.Data.List.Nodup

/-!
The operator that a text names. It is the one whose name stands in the text between blanks, in letters of
any case; no text names two, so that the order in which the operators are tried is of no effect, and a
text that names none is given back without its outer blanks. A string of JSON is read as the text that it
stands for, wherever an operator is expected.
-/

namespace FilterClause

/-- How an unknown operator is told where it has no place: its message, and no position unless the message
itself ends in one. -/
def UnknownOperator.report (e : UnknownOperator) : Json.Report :=
  (Json.Failure.unplaced (.unknownOperator e) []).report []

theorem Json.splitLast?_eq_none {mark cs : List Char} (h : ¬ mark <:+: cs) :
    splitLast? mark cs = none := by
  induction cs with
  | nil => rfl
  | cons c cs ih =>
      rw [List.infix_cons_iff, not_or] at h
      rw [splitLast?, ih h.2]
      simp only [List.isPrefixOf_iff_prefix, if_neg h.1]

theorem Json.statedPosition?_eq_none {message : List Char}
    (h : ¬ " at line ".toList <:+: message) : statedPosition? message = none := by
  have hsplit := splitLast?_eq_none h
  rw [statedPosition?, hsplit]
  rfl

theorem Json.Failure.report_unplaced {fault : Fault} {rest : List Char}
    (h : ¬ " at line ".toList <:+: fault.message.toList) (source : List Char) :
    (unplaced fault rest).report source = ⟨fault.message, 0, 0, fault.category⟩ := by
  rw [report, unplaced, statedPosition?_eq_none h]
  rfl

theorem UnknownOperator.report_eq {e : UnknownOperator}
    (h : ¬ " at line ".toList <:+: e.message.toList) : e.report = ⟨e.message, 0, 0, .data⟩ := by
  have hfault : ¬ " at line ".toList <:+: (Json.Fault.unknownOperator e).message.toList := h
  exact Json.Failure.report_unplaced hfault []

theorem Json.spelled_string_text (indent : Indent) (s : String) :
    Spelled (.string s) (Document.text indent (.string s) []) := by
  obtain ⟨body, hbody, heq⟩ := stringText_of_readString (readString_escaped s.toList [])
  rw [Document.text, stringText_eq, heq]
  have hs := Spelled.string hbody
  rw [String.ofList_toList] at hs
  exact hs

namespace Operator

open Text (Blanks SameSpelling TrimsTo)

/-- The name of the operator in letters of any case, with nothing but blanks around it. -/
def Named (s : String) (op : Operator) : Prop :=
  ∃ before token after, Blanks before ∧ SameSpelling op.name.toList token ∧ Blanks after ∧
    s.toList = before ++ (token ++ after)

theorem isAlpha_of_mem_name {op : Operator} : ∀ c ∈ op.name.toList, c.isAlpha = true := by
  have hall : op.name.toList.all Char.isAlpha = true := by
    cases op <;> rfl
  exact List.all_eq_true.mp hall

theorem name_ne_nil (op : Operator) : op.name.toList ≠ [] := by
  cases op <;> decide

theorem name_inj {op op' : Operator}
    (h : op.name.toList.map Char.toLower = op'.name.toList.map Char.toLower) : op = op' := by
  have hnodup : (all.map fun op => op.name.toList.map Char.toLower).Nodup := by decide
  exact List.inj_on_of_nodup_map hnodup (mem_all op) (mem_all op') h

def answersTo (s : String) (op : Operator) : Bool :=
  sameLetters op.name.toList (Text.trimmed s.toList)

theorem answersTo_iff {s : String} {op : Operator} : answersTo s op = true ↔ Named s op := by
  rw [answersTo, Text.sameLetters_iff]
  constructor
  · intro h
    obtain ⟨before, after, hbefore, hafter, hs⟩ := Text.exists_blanks_trimmed s.toList
    exact ⟨before, _, after, hbefore, h, hafter, hs⟩
  · rintro ⟨before, token, after, hbefore, htoken, hafter, hs⟩
    have hblank : ∀ c ∈ token, Text.isBlank c = false := by
      intro c hc
      exact (Text.plain_of_isAlpha (htoken.isAlpha isAlpha_of_mem_name c hc)).2
    have hne : token ≠ [] := by
      rintro rfl
      exact name_ne_nil op (List.forall₂_nil_right_iff.mp htoken)
    rw [hs, Text.trimmed_between hbefore hafter hne]
    · exact htoken
    · intro c hc
      exact hblank c (List.mem_of_head? hc)
    · intro c hc
      exact hblank c (List.mem_of_getLast? hc)

theorem eq_of_named {s : String} {op op' : Operator} (h : Named s op) (h' : Named s op') :
    op = op' := by
  rw [← answersTo_iff, answersTo, Text.sameLetters_iff, Text.sameSpelling_iff] at h h'
  exact name_inj (h.trans h'.symm)

/-- The operator that a text names, if the operators are tried in the order of this list. -/
def ofTokenAmong (ops : List Operator) (s : String) : Except UnknownOperator Operator :=
  match ops.find? (answersTo s) with
  | some op => .ok op
  | none => .error ⟨Text.trim s⟩

theorem ofTokenAmong_all (s : String) : ofTokenAmong all s = ofToken s :=
  rfl

section Search

variable {ops : List Operator} {s : String}

theorem find?_answersTo_eq_some_iff (hops : ∀ op, op ∈ ops) {op : Operator} :
    ops.find? (answersTo s) = some op ↔ Named s op := by
  constructor
  · intro h
    exact answersTo_iff.mp (List.find?_some h)
  · intro h
    cases hfind : ops.find? (answersTo s) with
    | none => exact absurd (answersTo_iff.mpr h) (List.find?_eq_none.mp hfind op (hops op))
    | some op' => rw [eq_of_named h (answersTo_iff.mp (List.find?_some hfind))]

/-- Every operator stands in the list, and where is of no effect. -/
theorem ofTokenAmong_eq (hops : ∀ op, op ∈ ops) (s : String) : ofTokenAmong ops s = ofToken s := by
  have hfind : ops.find? (answersTo s) = all.find? (answersTo s) := by
    ext op
    rw [find?_answersTo_eq_some_iff hops, find?_answersTo_eq_some_iff mem_all]
  rw [ofTokenAmong, hfind, ← ofTokenAmong, ofTokenAmong_all]

theorem ofToken_eq_ok_iff {op : Operator} : ofToken s = .ok op ↔ Named s op := by
  rw [← find?_answersTo_eq_some_iff mem_all, ← ofTokenAmong_all, ofTokenAmong]
  cases all.find? (answersTo s) with
  | none => exact ⟨fun h => (nomatch h), fun h => (nomatch h)⟩
  | some op' => rw [Except.ok.injEq, Option.some.injEq]

theorem ofToken_eq_error_iff {e : UnknownOperator} :
    ofToken s = .error e ↔ (∀ op, ¬ Named s op) ∧ TrimsTo s.toList e.token.toList := by
  have hcore : TrimsTo s.toList e.token.toList ↔ ⟨Text.trim s⟩ = e := by
    obtain ⟨token⟩ := e
    rw [Text.trimsTo_iff, UnknownOperator.mk.injEq, ← String.toList_inj, Text.trim,
      String.toList_ofList, eq_comm]
  simp only [hcore, ← find?_answersTo_eq_some_iff mem_all]
  rw [← ofTokenAmong_all, ofTokenAmong]
  cases all.find? (answersTo s) with
  | none => simp only [Except.error.injEq, reduceCtorEq, not_false_eq_true, implies_true, true_and]
  | some op => simp only [reduceCtorEq, Option.some.injEq, forall_eq', false_and]

end Search

theorem readOperator_spelled {s : String} {pad t : List Char} (hpad : Json.Blanks pad)
    (ht : Json.Spelled (.string s) t) (rest : List Char) :
    Source.readOperator (pad ++ (t ++ rest)) =
      Json.settle ((ofToken s).mapError Json.Fault.unknownOperator) rest := by
  cases ht with
  | @string body cs h =>
      have hskip : Json.skipBlanks (pad ++ ('"' :: (body ++ ['"']) ++ rest)) =
          '"' :: (body ++ '"' :: rest) := by
        rw [hpad.skipBlanks_append, List.cons_append, List.append_assoc, List.singleton_append]
        exact Json.skipBlanks_cons rfl _
      rw [Source.readOperator, Json.readStringValue, hskip]
      simp only [h.readString, Except.map]
      rfl

theorem parse_readOperator_spelled {s text : String} {t : List Char}
    (htext : Json.Padded t text.toList) (ht : Json.Spelled (.string s) t) :
    Source.parse (fun _ => Source.readOperator) text =
      (ofToken s).mapError UnknownOperator.report := by
  obtain ⟨pad, rest, hpad, hrest, htext⟩ := htext
  rw [Source.parse, Json.readText, htext, readOperator_spelled hpad ht]
  cases ofToken s with
  | ok op =>
      simp only [Except.mapError, Json.settle, Json.skipBlanks_eq_nil_iff.mpr hrest]
  | error e => rfl

theorem parse_readOperator_text (op : Operator) (indent : Json.Indent) :
    Source.parse (fun _ => Source.readOperator) (String.ofList (op.toDocument.text indent [])) =
      .ok op := by
  have hpadded : ∀ t : List Char, Json.Padded t (String.ofList t).toList := fun t =>
    ⟨[], [], List.forall_mem_nil _, List.forall_mem_nil _, by
      rw [String.toList_ofList, List.nil_append, List.append_nil]⟩
  have hname : ofToken op.name = .ok op := by
    cases op <;> rfl
  rw [toDocument, parse_readOperator_spelled (hpadded _) (Json.spelled_string_text indent op.name), hname]
  rfl

/-- An operator is read from a text exactly if its name stands there between blanks, in letters of any
case. No text names two operators, so that they may be tried in any order; a text that names none is
refused with what is left of it between its blanks, to the letter. From JSON the string that a text
spells is read as that string itself would be, in a document, anywhere in a text and as a whole text,
with the same error, whose message is told unchanged unless it speaks of a line. What is written for an
operator is read back as it. -/
theorem ofToken_by_name (s : String) :
    (∀ op, ofToken s = .ok op ↔ Named s op) ∧
    (∀ op op', Named s op → Named s op' → op = op') ∧
    (∀ ops, (∀ op, op ∈ ops) → ofTokenAmong ops s = ofToken s) ∧
    (∀ e, ofToken s = .error e ↔ (∀ op, ¬ Named s op) ∧ TrimsTo s.toList e.token.toList) ∧
    ofDocument (.string s) = (ofToken s).mapError .unknownOperator ∧
    (∀ pad t rest, Json.Blanks pad → Json.Spelled (.string s) t →
      Source.readOperator (pad ++ (t ++ rest)) =
        Json.settle ((ofToken s).mapError .unknownOperator) rest) ∧
    (∀ text t, Json.Padded t text.toList → Json.Spelled (.string s) t →
      Source.parse (fun _ => Source.readOperator) text =
        (ofToken s).mapError UnknownOperator.report) ∧
    (∀ e : UnknownOperator, ¬ " at line ".toList <:+: e.message.toList →
      e.report = ⟨e.message, 0, 0, .data⟩) ∧
    ∀ op indent, Source.parse (fun _ => Source.readOperator)
      (String.ofList (op.toDocument.text indent [])) = .ok op := by
  refine ⟨fun _ => ofToken_eq_ok_iff, fun _ _ => eq_of_named, ?_, fun _ => ofToken_eq_error_iff, rfl,
    ?_, fun _ _ => parse_readOperator_spelled, fun _ => UnknownOperator.report_eq,
    parse_readOperator_text⟩
  · intro ops hops
    exact ofTokenAmong_eq hops s
  · intro pad t rest hpad ht
    exact readOperator_spelled hpad ht rest

/-- A name with an escaped letter, in the other case and with a blank inside of the quotes. -/
theorem ofToken_of_escaped_name :
    Json.Padded "\"\\u006ein\\t\"".toList " \"\\u006ein\\t\"".toList ∧
    Json.Spelled (.string "nin\t") "\"\\u006ein\\t\"".toList ∧
    Source.parse (fun _ => Source.readOperator) " \"\\u006ein\\t\"" = .ok .notIn := by
  have hpadded : Json.Padded "\"\\u006ein\\t\"".toList " \"\\u006ein\\t\"".toList :=
    ⟨[' '], [], List.forall_mem_singleton.mpr rfl, List.forall_mem_nil _, rfl⟩
  have hspelled : Json.Spelled (.string "nin\t") "\"\\u006ein\\t\"".toList :=
    .string (.unit (n := 0x6E) (by decide) rfl rfl (.plain (by decide) (by decide) (by decide)
      (.plain (by decide) (by decide) (by decide) (.escape rfl .nil))))
  refine ⟨hpadded, hspelled, ?_⟩
  obtain ⟨-, -, -, -, -, -, hparse, -⟩ := ofToken_by_name "nin\t"
  rw [hparse _ _ hpadded hspelled]
  rfl

end Operator

end FilterClause
