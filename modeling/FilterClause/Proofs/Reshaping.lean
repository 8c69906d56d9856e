import FilterClause.Proofs.Schema
import Mathlib.Data.List.Perm.Basic

/-!
What the spelling of a tree leaves open: the order of the members of a node, and the members that are no
fields of its variant. Documents that differ in nothing else spell the same trees.
-/

namespace FilterClause

open Json (Document valuesOf)

/-- The names under which a variant has anything else than expressions. -/
def Variant.leaves : Variant → List String
  | comparison => ["key", "op", "value"]
  | logical => ["op"]
  | group => []

theorem Variant.not_mem_leaves (v : Variant) : ∀ name ∈ ["left", "right", "inner"], name ∉ v.leaves := by
  cases v <;> decide

namespace Json.Document

/-- The same document up to the order of members and to members that the node has no field for, at the
root and in operands at any depth. -/
inductive Reshaped : Document → Document → Prop
  | refl (d : Document) : Reshaped d d
  | symm {d d' : Document} (h : Reshaped d d') : Reshaped d' d
  | trans {d d' d'' : Document} (h : Reshaped d d') (h' : Reshaped d' d'') : Reshaped d d''
  | order {ms ms' : List (String × Document)} (h : ms.Perm ms') : Reshaped (.object ms) (.object ms')
  | foreign {ms : List (String × Document)} {v : Variant}
      (htype : valuesOf "type" ms = [.string v.name]) {name : String}
      (hname : name ≠ "type" ∧ name ∉ v.leaves ∧ name ∉ v.operands) (d : Document) :
      Reshaped (.object ms) (.object ((name, d) :: ms))
  | operand {name : String} (hname : name ∈ ["left", "right", "inner"]) {d d' : Document}
      (h : Reshaped d d') (before after : List (String × Document)) :
      Reshaped (.object (before ++ (name, d) :: after)) (.object (before ++ (name, d') :: after))

/-- Nothing tells the documents apart as expressions. -/
structure Alike (d d' : Document) : Prop where
  spells : ∀ e, d.Spells e ↔ d'.Spells e
  tagged : d.Tagged ↔ d'.Tagged

namespace Alike

@[refl]
theorem refl (d : Document) : Alike d d :=
  ⟨fun _ => Iff.rfl, Iff.rfl⟩

theorem symm {d d' : Document} (h : Alike d d') : Alike d' d :=
  ⟨fun e => (h.spells e).symm, h.tagged.symm⟩

theorem trans {d d' d'' : Document} (h : Alike d d') (h' : Alike d' d'') : Alike d d'' :=
  ⟨fun e => (h.spells e).trans (h'.spells e), h.tagged.trans h'.tagged⟩

end Alike

/-- Each of the documents has its like on the other side, up to order. -/
def Matched (ds ds' : List Document) : Prop :=
  ∃ es, ds.Perm es ∧ List.Forall₂ Alike es ds'

namespace Matched

variable {ds ds' : List Document} {d d' : Document}

theorem of_perm (h : ds.Perm ds') : Matched ds ds' :=
  ⟨ds', h, List.forall₂_same.mpr fun d _ => .refl d⟩

theorem symm (h : Matched ds ds') : Matched ds' ds := by
  obtain ⟨es, hperm, hes⟩ := h
  obtain ⟨es', hes', hperm'⟩ := List.perm_comp_forall₂ hperm hes
  exact ⟨es', hperm'.symm, hes'.flip.imp fun _ _ h => h.symm⟩

theorem of_singleton (h : Matched [d] ds') : ∃ d', ds' = [d'] ∧ Alike d d' := by
  obtain ⟨es, hperm, hes⟩ := h
  rw [List.perm_singleton.mp hperm.symm] at hes
  obtain ⟨d', _, hd, hnil, rfl⟩ := List.forall₂_cons_left_iff.mp hes
  rw [List.forall₂_nil_left_iff.mp hnil]
  exact ⟨d', rfl, hd⟩

theorem exists_of_mem (h : Matched ds ds') (hd : d ∈ ds) : ∃ d' ∈ ds', Alike d d' := by
  obtain ⟨es, hperm, hes⟩ := h
  have hmem : d ∈ es := hperm.mem_iff.mp hd
  clear hperm hd
  induction hes with
  | nil => cases hmem
  | cons hhead _ ih =>
      cases hmem with
      | head => exact ⟨_, .head _, hhead⟩
      | tail _ hmem =>
          obtain ⟨d', hd', halike⟩ := ih hmem
          exact ⟨d', .tail _ hd', halike⟩

theorem append {es es' : List Document} (h : Matched ds ds') (h' : Matched es es') :
    Matched (ds ++ es) (ds' ++ es') := by
  obtain ⟨fs, hperm, hfs⟩ := h
  obtain ⟨fs', hperm', hfs'⟩ := h'
  exact ⟨fs ++ fs', hperm.append hperm', List.rel_append hfs hfs'⟩

theorem singleton (h : Alike d d') : Matched [d] [d'] :=
  ⟨[d], .refl _, .cons h .nil⟩

end Matched

/-- The tags agree, and so do the fields of the variant that they name. -/
structure SameNode (ms ms' : List (String × Document)) : Prop where
  tags : (valuesOf "type" ms).Perm (valuesOf "type" ms')
  leaves : ∀ v : Variant, valuesOf "type" ms = [.string v.name] → ∀ name ∈ v.leaves,
    (valuesOf name ms).Perm (valuesOf name ms')
  operands : ∀ v : Variant, valuesOf "type" ms = [.string v.name] → ∀ name ∈ v.operands,
    Matched (valuesOf name ms) (valuesOf name ms')

namespace SameNode

variable {ms ms' : List (String × Document)}

theorem tag_eq (h : SameNode ms ms') {d : Document} (htype : valuesOf "type" ms = [d]) :
    valuesOf "type" ms' = [d] :=
  List.perm_singleton.mp (htype ▸ h.tags.symm)

theorem tag_eq_iff (h : SameNode ms ms') {d : Document} :
    valuesOf "type" ms = [d] ↔ valuesOf "type" ms' = [d] :=
  ⟨h.tag_eq, fun htype => List.perm_singleton.mp (htype ▸ h.tags)⟩

theorem symm (h : SameNode ms ms') : SameNode ms' ms where
  tags := h.tags.symm
  leaves v htype name hname := (h.leaves v (h.tag_eq_iff.mpr htype) name hname).symm
  operands v htype name hname := (h.operands v (h.tag_eq_iff.mpr htype) name hname).symm

theorem leaf_eq (h : SameNode ms ms') {v : Variant} (htype : valuesOf "type" ms = [.string v.name])
    {name : String} (hname : name ∈ v.leaves) {d : Document} (hd : valuesOf name ms = [d]) :
    valuesOf name ms' = [d] :=
  List.perm_singleton.mp (hd ▸ (h.leaves v htype name hname).symm)

theorem exists_operand_eq (h : SameNode ms ms') {v : Variant}
    (htype : valuesOf "type" ms = [.string v.name]) {name : String} (hname : name ∈ v.operands)
    {d : Document} (hd : valuesOf name ms = [d]) {e : Expression} (he : d.Spells e) :
    ∃ d', valuesOf name ms' = [d'] ∧ d'.Spells e := by
  obtain ⟨d', hd', halike⟩ := (hd ▸ h.operands v htype name hname).of_singleton
  exact ⟨d', hd', (halike.spells e).mp he⟩

theorem spells (h : SameNode ms ms') {e : Expression} (he : (object ms).Spells e) :
    (object ms').Spells e := by
  cases he with
  | comparison htype hkey hop htoken hvalue hd =>
      have hleaf : ∀ name ∈ Variant.comparison.leaves, ∀ d, valuesOf name ms = [d] →
          valuesOf name ms' = [d] := fun _ hname _ => h.leaf_eq (v := .comparison) htype hname
      exact .comparison (h.tag_eq htype) (hleaf "key" (by decide) _ hkey)
        (hleaf "op" (by decide) _ hop) htoken (hleaf "value" (by decide) _ hvalue) hd
  | logical htype hleft hl hop htoken hright hr =>
      obtain ⟨dl, hdl, hl⟩ := h.exists_operand_eq (v := .logical) htype
        List.mem_cons_self hleft hl
      obtain ⟨dr, hdr, hr⟩ := h.exists_operand_eq (v := .logical) htype
        (List.mem_cons_of_mem _ List.mem_cons_self) hright hr
      exact .logical (h.tag_eq htype) hdl hl
        (h.leaf_eq (v := .logical) htype List.mem_cons_self hop) htoken hdr hr
  | group htype hinner hd =>
      obtain ⟨d, hd', hd⟩ := h.exists_operand_eq (v := .group) htype List.mem_cons_self hinner hd
      exact .group (h.tag_eq htype) hd' hd

theorem tagged (h : SameNode ms ms') (ht : (object ms).Tagged) : (object ms').Tagged := by
  cases ht with
  | node tags operands =>
      refine .node (fun d hd => tags d (h.tags.mem_iff.mpr hd)) fun v htype name hname d' hd' => ?_
      have htype := h.tag_eq_iff.mpr htype
      obtain ⟨d, hd, halike⟩ := (h.operands v htype name hname).symm.exists_of_mem hd'
      exact halike.tagged.mpr (operands v htype name hname d hd)

theorem alike (h : SameNode ms ms') : Alike (.object ms) (.object ms') :=
  ⟨fun _ => ⟨h.spells, h.symm.spells⟩, h.tagged, h.symm.tagged⟩

end SameNode

theorem sameNode_of_perm {ms ms' : List (String × Document)} (h : ms.Perm ms') :
    SameNode ms ms' := by
  have hvalues : ∀ name, (valuesOf name ms).Perm (valuesOf name ms') := fun _ =>
    (h.filter _).map _
  exact ⟨hvalues "type", fun _ _ name _ => hvalues name, fun _ _ name _ => .of_perm (hvalues name)⟩

theorem sameNode_foreign {ms : List (String × Document)} {v : Variant}
    (htype : valuesOf "type" ms = [.string v.name]) {name : String}
    (hname : name ≠ "type" ∧ name ∉ v.leaves ∧ name ∉ v.operands) (d : Document) :
    SameNode ms ((name, d) :: ms) := by
  have hvalues : ∀ other, name ≠ other → valuesOf other ((name, d) :: ms) = valuesOf other ms :=
    fun _ hne => Json.valuesOf_cons_of_ne hne d ms
  have hvariant : ∀ w : Variant, valuesOf "type" ms = [.string w.name] → w = v := by
    intro w hw
    rw [htype, List.cons.injEq, string.injEq, Variant.name_inj] at hw
    exact hw.1.symm
  refine ⟨?_, fun w hw other hother => ?_, fun w hw other hother => ?_⟩
  · rw [hvalues "type" hname.1]
  · obtain rfl := hvariant w hw
    rw [hvalues other fun h => hname.2.1 (h ▸ hother)]
  · obtain rfl := hvariant w hw
    rw [hvalues other fun h => hname.2.2 (h ▸ hother)]
    exact .of_perm (.refl _)

theorem sameNode_operand {name : String} (hname : name ∈ ["left", "right", "inner"])
    {d d' : Document} (h : Alike d d') (before after : List (String × Document)) :
    SameNode (before ++ (name, d) :: after) (before ++ (name, d') :: after) := by
  have hvalues : ∀ other, Matched (valuesOf other (before ++ (name, d) :: after))
      (valuesOf other (before ++ (name, d') :: after)) := by
    intro other
    rw [Json.valuesOf_append, Json.valuesOf_append]
    refine .append (.of_perm (.refl _)) ?_
    by_cases hother : name = other
    · subst hother
      rw [Json.valuesOf_cons_self, Json.valuesOf_cons_self]
      exact .append (.singleton h) (.of_perm (.refl _))
    · rw [Json.valuesOf_cons_of_ne hother, Json.valuesOf_cons_of_ne hother]
      exact .of_perm (.refl _)
  have hsame : ∀ other, name ≠ other → valuesOf other (before ++ (name, d) :: after) =
      valuesOf other (before ++ (name, d') :: after) := by
    intro other hother
    rw [Json.valuesOf_append, Json.valuesOf_append, Json.valuesOf_cons_of_ne hother,
      Json.valuesOf_cons_of_ne hother]
  refine ⟨?_, fun v _ other hother => ?_, fun _ _ other _ => hvalues other⟩
  · rw [hsame "type" (by rintro rfl; exact absurd hname (by decide))]
  · rw [hsame other (by rintro rfl; exact v.not_mem_leaves name hname hother)]

theorem Reshaped.alike {d d' : Document} (h : d.Reshaped d') : Alike d d' := by
  induction h with
  | refl d => exact .refl d
  | symm _ ih => exact ih.symm
  | trans _ _ ih ih' => exact ih.trans ih'
  | order h => exact (sameNode_of_perm h).alike
  | foreign htype hname d => exact (sameNode_foreign htype hname d).alike
  | operand hname _ before after ih => exact (sameNode_operand hname ih before after).alike

end Json.Document

end FilterClause
