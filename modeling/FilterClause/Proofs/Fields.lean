import FilterClause.Json.Record
import FilterClause.Proofs.Outcome

/-!
Objects as collections of fields. What a reader of an object makes of it depends on the values that
stand under the names it knows, and on them in the order in which they stand; a field is read if there
is exactly one value under its name and that value is read.
-/

namespace FilterClause.Json

variable {α β : Type}

/-- The values of the members of this name, in order. -/
def valuesOf (name : String) (ms : List (String × Document)) : List Document :=
  (ms.filter fun m => m.1 = name).map Prod.snd

section ValuesOf

variable {name other : String} {d : Document} {ms ms' : List (String × Document)}

@[simp]
theorem valuesOf_nil (name : String) : valuesOf name [] = [] :=
  rfl

theorem valuesOf_cons (name other : String) (d : Document) (ms : List (String × Document)) :
    valuesOf name ((other, d) :: ms) =
      if other = name then d :: valuesOf name ms else valuesOf name ms := by
  by_cases h : other = name <;> simp [valuesOf, h]

@[simp]
theorem valuesOf_cons_self (name : String) (d : Document) (ms : List (String × Document)) :
    valuesOf name ((name, d) :: ms) = d :: valuesOf name ms := by
  rw [valuesOf_cons, if_pos rfl]

theorem valuesOf_cons_of_ne (h : other ≠ name) (d : Document) (ms : List (String × Document)) :
    valuesOf name ((other, d) :: ms) = valuesOf name ms := by
  rw [valuesOf_cons, if_neg h]

theorem valuesOf_append (name : String) (ms ms' : List (String × Document)) :
    valuesOf name (ms ++ ms') = valuesOf name ms ++ valuesOf name ms' := by
  simp [valuesOf]

theorem mem_valuesOf : d ∈ valuesOf name ms ↔ (name, d) ∈ ms := by
  simp [valuesOf]

theorem valuesOf_filter_ne (h : name ≠ other) (ms : List (String × Document)) :
    valuesOf name (ms.filter fun m => m.1 ≠ other) = valuesOf name ms := by
  induction ms with
  | nil => rfl
  | cons m ms ih =>
      obtain ⟨n, d⟩ := m
      by_cases hn : n = other
      · rw [List.filter_cons_of_neg (by simpa using hn), ih,
          valuesOf_cons_of_ne (fun he => h (he.symm.trans hn))]
      · rw [List.filter_cons_of_pos (by simpa using hn)]
        by_cases hname : n = name
        · subst hname
          rw [valuesOf_cons_self, valuesOf_cons_self, ih]
        · rw [valuesOf_cons_of_ne hname, valuesOf_cons_of_ne hname, ih]

end ValuesOf

/-- A field goes from one state to another over the values under its name: it takes in one value, if it
is vacant and the value is read, and refuses any further one. -/
def Fills (read : Document → Except Fault α) : Option α → List Document → Option α → Prop
  | slot, [], last => last = slot
  | slot, d :: ds, last => slot = none ∧ ∃ a, read d = .ok a ∧ Fills read (some a) ds last

section Fills

variable {read : Document → Except Fault α} {ds : List Document} {a : α}

theorem fills_some_iff {slot : Option α} : Fills read (some a) ds slot ↔ ds = [] ∧ slot = some a := by
  cases ds with
  | nil => simp [Fills]
  | cons d ds => simp [Fills]

theorem fills_none_some_iff : Fills read none ds (some a) ↔ ∃ d, ds = [d] ∧ read d = .ok a := by
  cases ds with
  | nil => simp [Fills]
  | cons d ds =>
      simp only [Fills, fills_some_iff, true_and]
      constructor
      · rintro ⟨_, hread, rfl, ha⟩
        cases ha
        exact ⟨d, rfl, hread⟩
      · rintro ⟨_, hd, hread⟩
        cases hd
        exact ⟨a, hread, rfl, rfl⟩

end Fills

/-- The field is read: there is one value under its name, and this is what it is read as. -/
def ReadsField (read : Document → Except Fault α) (ms : List (String × Document)) (name : String)
    (a : α) : Prop :=
  ∃ d, valuesOf name ms = [d] ∧ read d = .ok a

theorem readsField_filter_ne {read : Document → Except Fault α} {ms : List (String × Document)}
    {name other : String} (h : name ≠ other) {a : α} :
    ReadsField read (ms.filter fun m => m.1 ≠ other) name a ↔ ReadsField read ms name a := by
  rw [ReadsField, ReadsField, valuesOf_filter_ne h]

theorem vacant_eq_ok_iff {name : String} {slot : Option α} {u : Unit} :
    vacant name slot = .ok u ↔ slot = none := by
  cases slot with
  | none => exact ⟨fun _ => rfl, fun _ => rfl⟩
  | some a => exact ⟨fun h => (nomatch h), fun h => (nomatch h)⟩

theorem required_eq_ok_iff {name : String} {slot : Option α} {a : α} :
    required name slot = .ok a ↔ slot = some a := by
  cases slot with
  | none => exact ⟨fun h => (nomatch h), fun h => (nomatch h)⟩
  | some b => rw [required, Except.ok.injEq, Option.some.injEq]

/-- A value for a field that may be given once, and what is done with it. -/
theorem fill_eq_ok_iff {name : String} {slot : Option α} {read : Except Fault α}
    {next : α → Except Fault β} {b : β} :
    (do vacant name slot; let a ← read; next a) = .ok b ↔
      slot = none ∧ ∃ a, read = .ok a ∧ next a = .ok b := by
  simp only [Except.bind_eq_ok_iff, vacant_eq_ok_iff, exists_const]

end FilterClause.Json
