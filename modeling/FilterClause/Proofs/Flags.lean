import FilterClause.Command.Arguments
import Mathlib.Data.List.TakeWhile

/-!
The command line as a list of flags and their values. Arguments that are taken give each flag at most
once, and the options hold what is given.
-/

namespace FilterClause.Command

/-- The arguments give these flags, in this order, each with its value attached or apart. -/
inductive Spelled : List String → List (String × String) → Prop
  | done : Spelled [] []
  | dashes : Spelled ["--"] []
  | attached {name : String} (hname : '=' ∉ name.toList) (value : String)
      {arguments : List String} {given : List (String × String)} (h : Spelled arguments given) :
      Spelled (("--" ++ name ++ "=" ++ value) :: arguments) ((name, value) :: given)
  | apart {name : String} (hname : '=' ∉ name.toList) (hne : name ≠ "") {value : String}
      (hvalue : looksLikeFlag value = false) {arguments : List String}
      {given : List (String × String)} (h : Spelled arguments given) :
      Spelled (("--" ++ name) :: value :: arguments) ((name, value) :: given)

theorem exists_eq_of_longFlag? {argument name : String} {attached : Option String}
    (h : longFlag? argument = some (name, attached)) :
    ∃ cs, argument.toList = '-' :: '-' :: cs ∧ name.toList = cs.takeWhile (· ≠ '=') ∧
      cs.dropWhile (· ≠ '=') = attached.elim [] fun value => '=' :: value.toList := by
  unfold longFlag? at h
  split at h
  · rename_i cs hcs
    refine ⟨cs, hcs, ?_⟩
    split at h
    · rename_i hrest
      cases h
      exact ⟨String.toList_ofList, hrest⟩
    · rename_i c value hrest
      cases h
      have hc := List.head?_dropWhile_not (fun c => decide (c ≠ '=')) cs
      rw [hrest] at hc
      refine ⟨String.toList_ofList, ?_⟩
      rw [hrest, Option.elim_some, String.toList_ofList, List.cons.injEq]
      exact ⟨by simpa using hc, rfl⟩
  · cases h

theorem longFlag?_eq_some {argument name : String} {attached : Option String}
    (h : longFlag? argument = some (name, attached)) :
    '=' ∉ name.toList ∧
      argument = attached.elim ("--" ++ name) fun value => "--" ++ name ++ "=" ++ value := by
  obtain ⟨cs, hargument, hname, hrest⟩ := exists_eq_of_longFlag? h
  constructor
  · intro hmem
    rw [hname] at hmem
    exact absurd (List.mem_takeWhile_imp hmem) (by decide)
  · have hcs : cs = name.toList ++ attached.elim [] fun value => '=' :: value.toList := by
      rw [hname, ← hrest, List.takeWhile_append_dropWhile]
    rw [← String.toList_inj, hargument, hcs]
    cases attached with
    | none => simp
    | some value => simp

theorem exists_spelled_of_setAll {σ : Type} {set : σ → String → String → Option σ}
    {options options' : σ} {arguments : List String}
    (h : setAll set options arguments = some options') :
    ∃ given, Spelled arguments given ∧
      given.foldlM (fun options flag => set options flag.1 flag.2) options = some options' := by
  fun_induction setAll set options arguments with
  | case1 options =>
      cases h
      exact ⟨[], .done, rfl⟩
  | case2 options =>
      cases h
      exact ⟨[], .dashes, rfl⟩
  | case5 options argument arguments _ name value hflag ih =>
      obtain ⟨options₁, hset, hrest⟩ := Option.bind_eq_some_iff.mp h
      obtain ⟨given, hspelled, hgiven⟩ := ih options₁ hrest
      obtain ⟨hname, rfl⟩ := longFlag?_eq_some hflag
      refine ⟨(name, value) :: given, .attached hname value hspelled, ?_⟩
      rw [List.foldlM_cons]
      exact Option.bind_eq_some_iff.mpr ⟨options₁, hset, hgiven⟩
  | case8 options argument hdashes name hflag value arguments hvalue ih =>
      obtain ⟨options₁, hset, hrest⟩ := Option.bind_eq_some_iff.mp h
      obtain ⟨given, hspelled, hgiven⟩ := ih options₁ hrest
      obtain ⟨hname, rfl⟩ := longFlag?_eq_some hflag
      have hne : name ≠ "" := by
        rintro rfl
        exact hdashes rfl
      refine ⟨(name, value) :: given,
        .apart hname hne (Bool.eq_false_iff.mpr hvalue) hspelled, ?_⟩
      rw [List.foldlM_cons]
      exact Option.bind_eq_some_iff.mpr ⟨options₁, hset, hgiven⟩
  | _ => cases h

/-- The field holds what the value of the flag is read as, if the flag is given, and nothing if not. -/
def FieldGiven {α : Type} (given : List (String × String)) (name : String)
    (read : String → Option α) (field : Option α) : Prop :=
  (given.lookup name).map read = field.map some

section FieldGiven

variable {α : Type} {given : List (String × String)} {name other value : String}
  {read : String → Option α} {field : Option α}

theorem nodup_snoc (h : (given.map Prod.fst).Nodup) (hnone : given.lookup name = none) (value : String) :
    ((given ++ [(name, value)]).map Prod.fst).Nodup := by
  have hfresh : name ∉ given.map Prod.fst := by
    intro hmem
    obtain ⟨flag, hflag, rfl⟩ := List.mem_map.mp hmem
    exact absurd rfl (bne_iff_ne.mp (List.lookup_eq_none_iff.mp hnone flag hflag))
  rw [List.map_append, List.map_singleton, List.nodup_append]
  refine ⟨h, List.nodup_cons.mpr ⟨List.not_mem_nil, .nil⟩, ?_⟩
  rintro other hother _ hname rfl
  obtain rfl : other = name := List.mem_singleton.mp hname
  exact hfresh hother

theorem FieldGiven.snoc_of_ne (h : FieldGiven given name read field) (hne : name ≠ other)
    (value : String) : FieldGiven (given ++ [(other, value)]) name read field := by
  have hnone : [(other, value)].lookup name = none := by
    rw [List.lookup_cons, beq_eq_false_iff_ne.mpr hne]
    rfl
  rw [FieldGiven, List.lookup_append, hnone, Option.or_none, h]

/-- A flag whose field is vacant is given for the first time. It fills the field with what its value is
read as, and fields of other names are as they were. -/
theorem FieldGiven.take (h : FieldGiven given name read field) (honce : (given.map Prod.fst).Nodup)
    (hvacant : field = none) {a : α} (hread : read value = some a) :
    ((given ++ [(name, value)]).map Prod.fst).Nodup ∧
    FieldGiven (given ++ [(name, value)]) name read (some a) ∧
    ∀ {β : Type} {other : String} {read' : String → Option β} {field' : Option β}, other ≠ name →
      FieldGiven given other read' field' →
      FieldGiven (given ++ [(name, value)]) other read' field' := by
  have hnone : given.lookup name = none := by
    rw [FieldGiven, hvacant] at h
    exact Option.map_eq_none_iff.mp h
  refine ⟨nodup_snoc honce hnone value, ?_, ?_⟩
  · rw [FieldGiven, List.lookup_append, hnone, Option.none_or, List.lookup_cons_self,
      Option.map_some, Option.map_some, hread]
  · intro β other read' field' hne h'
    exact h'.snoc_of_ne hne value

end FieldGiven

theorem setOnce_eq_some_iff {α : Type} {field field' : Option α} {a : α} :
    setOnce field a = some field' ↔ field = none ∧ field' = some a := by
  cases field with
  | none => simp [setOnce, eq_comm]
  | some b => simp [setOnce]

def dialect? (token : String) : Option DialectKind :=
  (DialectKind.ofToken token).toOption

/-- The options are those of the flags given, none of which is given twice. -/
structure ConvertOptions.GivenBy (o : ConvertOptions) (given : List (String × String)) : Prop where
  once : (given.map Prod.fst).Nodup
  input : FieldGiven given "input" path? o.input
  config : FieldGiven given "config" path? o.config
  dialect : FieldGiven given "dialect" dialect? o.dialect
  column : FieldGiven given "column" some o.column
  maxDepth : FieldGiven given "max-depth" Decimal.count? o.maxDepth

namespace ConvertOptions

theorem GivenBy.set {o o' : ConvertOptions} {given : List (String × String)} {name value : String}
    (h : o.GivenBy given) (hset : o.set name value = some o') :
    o'.GivenBy (given ++ [(name, value)]) := by
  unfold ConvertOptions.set at hset
  split at hset <;>
    simp only [Option.bind_eq_bind, Option.bind_eq_some_iff, setOnce_eq_some_iff, Option.some.injEq,
      reduceCtorEq] at hset
  · obtain ⟨a, hread, _, ⟨hnone, rfl⟩, rfl⟩ := hset
    obtain ⟨once, input, keep⟩ := h.input.take h.once hnone hread
    exact ⟨once, input, keep (by decide) h.config, keep (by decide) h.dialect,
      keep (by decide) h.column, keep (by decide) h.maxDepth⟩
  · obtain ⟨a, hread, _, ⟨hnone, rfl⟩, rfl⟩ := hset
    obtain ⟨once, config, keep⟩ := h.config.take h.once hnone hread
    exact ⟨once, keep (by decide) h.input, config, keep (by decide) h.dialect,
      keep (by decide) h.column, keep (by decide) h.maxDepth⟩
  · obtain ⟨a, hread, _, ⟨hnone, rfl⟩, rfl⟩ := hset
    obtain ⟨once, dialect, keep⟩ := h.dialect.take h.once hnone hread
    exact ⟨once, keep (by decide) h.input, keep (by decide) h.config, dialect,
      keep (by decide) h.column, keep (by decide) h.maxDepth⟩
  · obtain ⟨_, ⟨hnone, rfl⟩, rfl⟩ := hset
    obtain ⟨once, column, keep⟩ := h.column.take h.once hnone rfl
    exact ⟨once, keep (by decide) h.input, keep (by decide) h.config, keep (by decide) h.dialect,
      column, keep (by decide) h.maxDepth⟩
  · obtain ⟨a, hread, _, ⟨hnone, rfl⟩, rfl⟩ := hset
    obtain ⟨once, maxDepth, keep⟩ := h.maxDepth.take h.once hnone hread
    exact ⟨once, keep (by decide) h.input, keep (by decide) h.config, keep (by decide) h.dialect,
      keep (by decide) h.column, maxDepth⟩

theorem GivenBy.foldlM_set {o o' : ConvertOptions} {before given : List (String × String)}
    (h : o.GivenBy before)
    (hset : given.foldlM (fun o flag => ConvertOptions.set o flag.1 flag.2) o = some o') :
    o'.GivenBy (before ++ given) := by
  induction given generalizing o before with
  | nil =>
      cases hset
      rw [List.append_nil]
      exact h
  | cons flag given ih =>
      obtain ⟨o₁, hone, hrest⟩ := Option.bind_eq_some_iff.mp hset
      rw [← List.singleton_append, ← List.append_assoc]
      exact ih (h.set hone) hrest

theorem givenBy_nil : GivenBy {} [] :=
  ⟨.nil, rfl, rfl, rfl, rfl, rfl⟩

end ConvertOptions

/-- A conversion is asked for by the word and flags of which none is given twice, and its options are
what the flags given say. -/
theorem exists_spelled_of_ofArguments {arguments : List String} {o : ConvertOptions}
    (h : Invocation.ofArguments arguments = some (.convert o)) :
    ∃ rest given, arguments = "convert" :: rest ∧ Spelled rest given ∧ o.GivenBy given := by
  unfold Invocation.ofArguments at h
  split at h
  · cases h
  · split at h
    · cases h
    · split at h
      · rename_i _ rest _ _
        obtain ⟨options, hset, ho⟩ := Option.map_eq_some_iff.mp h
        cases ho
        obtain ⟨given, hspelled, hgiven⟩ := exists_spelled_of_setAll hset
        exact ⟨rest, given, rfl, hspelled, ConvertOptions.givenBy_nil.foldlM_set hgiven⟩
      · obtain ⟨_, _, ho⟩ := Option.map_eq_some_iff.mp h
        cases ho
      · cases h

end FilterClause.Command
