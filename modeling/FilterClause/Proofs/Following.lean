import FilterClause.Proofs.Walking

/-!
Readers that follow others. One reader follows another if it gets through whatever the other gets
through, to the same place, and what the two have read is related. Readers that are put together from
readers which follow one another follow one another.
-/

namespace FilterClause.Json

theorem refuse_ne_ok {α : Type} (expected : String) (text : List Char) (read : α × List Char) :
    refuse expected text ≠ .ok read := by
  intro h
  unfold refuse at h
  split at h
  · cases h
  · cases h
  · split at h <;> cases h

/-- Wherever the leader gets to, the follower gets too. -/
def Follows {α β : Type} (follower : Reader β) (leader : Reader α) (R : β → α → Prop) : Prop :=
  ∀ text a rest, leader text = .ok (a, rest) → ∃ b, follower text = .ok (b, rest) ∧ R b a

namespace Follows

variable {α β σ τ : Type} {follower : Reader β} {leader : Reader α} {R : β → α → Prop}

theorem map (h : Follows follower leader R) {S : τ → σ → Prop} {f : β → τ} {g : α → σ}
    (hfg : ∀ b a, R b a → S (f b) (g a)) :
    Follows (fun text => (follower text).map fun read => (f read.1, read.2))
      (fun text => (leader text).map fun read => (g read.1, read.2)) S := by
  intro text s rest hread
  obtain ⟨⟨a, rest'⟩, ha, hs⟩ := Except.map_eq_ok_iff.mp hread
  obtain ⟨b, hb, hR⟩ := h text a rest' ha
  cases hs
  exact ⟨f b, Except.map_eq_ok_iff.mpr ⟨(b, rest'), hb, rfl⟩, hfg b a hR⟩

theorem memberValue (h : Follows follower leader R) :
    Follows (readMemberValue follower) (readMemberValue leader) R := by
  intro text a rest hread
  obtain ⟨behind, hcolon, ha⟩ := readMemberValue_eq_ok_iff.mp hread
  obtain ⟨b, hb, hR⟩ := h behind a rest ha
  exact ⟨b, readMemberValue_eq_ok_iff.mpr ⟨behind, hcolon, hb⟩, hR⟩

theorem field (h : Follows follower leader R) (name : String) {slot : Option α}
    {slot' : Option β} (hslot : Option.Rel R slot' slot) :
    Follows (readField name slot' follower) (readField name slot leader) R := by
  intro text a rest hread
  obtain ⟨rfl, ha⟩ := readField_eq_ok_iff.mp hread
  cases hslot
  obtain ⟨b, hb, hR⟩ := h.memberValue text a rest ha
  exact ⟨b, readField_eq_ok_iff.mpr ⟨rfl, hb⟩, hR⟩

theorem element? (h : Follows follower leader R) (first : Bool) :
    Follows (readElement? follower first) (readElement? leader first) (Option.Rel R) := by
  intro text a rest hread
  obtain ⟨⟨more, inner⟩, hnext, hmore⟩ := Except.bind_eq_ok_iff.mp hread
  cases more with
  | false =>
      cases hmore
      exact ⟨none, Except.bind_eq_ok_iff.mpr ⟨_, hnext, rfl⟩, .none⟩
  | true =>
      obtain ⟨⟨a', rest'⟩, ha, hrest⟩ := Except.bind_eq_ok_iff.mp hmore
      cases hrest
      obtain ⟨b, hb, hR⟩ := h inner a' rest ha
      refine ⟨some b, Except.bind_eq_ok_iff.mpr ⟨_, hnext, ?_⟩, .some hR⟩
      exact Except.bind_eq_ok_iff.mpr ⟨_, hb, rfl⟩

theorem enclose (h : Follows follower leader R) (b : Bracket) :
    Follows (b.enclose follower) (b.enclose leader) R := by
  intro text a rest hread
  obtain ⟨inner, ha, hclose⟩ := Bracket.enclose_eq_ok_iff.mp hread
  obtain ⟨b, hb, hR⟩ := h text a inner ha
  exact ⟨b, Bracket.enclose_eq_ok_iff.mpr ⟨inner, hb, hclose⟩, hR⟩

theorem foldMembers {step : σ → String → Reader σ} {step' : τ → String → Reader τ}
    {S : τ → σ → Prop} (h : ∀ t s, S t s → ∀ name, Follows (step' t name) (step s name) S)
    (ticks : List Char) (first : Bool) {t : τ} {s : σ} (hS : S t s) :
    Follows (Json.foldMembers step' ticks first t) (Json.foldMembers step ticks first s) S := by
  intro text s' rest hread
  induction ticks generalizing first t s text with
  | nil => cases hread
  | cons tick ticks ih =>
      rw [Json.foldMembers] at hread
      split at hread
      · cases hread
      · rename_i hnext
        cases hread
        exact ⟨t, by rw [Json.foldMembers, hnext], hS⟩
      · rename_i named hnext
        split at hread
        · cases hread
        · rename_i cs behind hname
          split at hread
          · cases hread
          · rename_i s₁ rest₁ hstep
            obtain ⟨t₁, hstep', hS₁⟩ := h t s hS (String.ofList cs) behind s₁ rest₁ hstep
            obtain ⟨t', hfold, hS'⟩ := ih false hS₁ rest₁ hread
            exact ⟨t', by simp only [Json.foldMembers, hnext, hname, hstep', hfold], hS'⟩

theorem recordMembers {step : σ → String → Reader σ} {step' : τ → String → Reader τ}
    {S : τ → σ → Prop} (h : ∀ t s, S t s → ∀ name, Follows (step' t name) (step s name) S)
    {t : τ} {s : σ} (hS : S t s) :
    Follows (Json.recordMembers step' t) (Json.recordMembers step s) S := fun text =>
  foldMembers h (Text.clock text) true hS text

theorem record {expected : String} {ofArray ofObject : Nat → Reader α}
    {ofArray' ofObject' : Nat → Reader β} (harray : ∀ budget, Follows (ofArray' budget) (ofArray budget) R)
    (hobject : ∀ budget, Follows (ofObject' budget) (ofObject budget) R) (budget : Nat) :
    Follows (readRecord expected ofArray' ofObject' budget)
      (readRecord expected ofArray ofObject budget) R := by
  intro text a rest hread
  unfold readRecord at hread ⊢
  split at hread
  · cases budget with
    | zero => cases hread
    | succ budget => exact (harray budget).enclose .array _ a rest hread
  · cases budget with
    | zero => cases hread
    | succ budget => exact (hobject budget).enclose .object _ a rest hread
  · exact absurd hread (refuse_ne_ok expected _ _)

end Follows

end FilterClause.Json
