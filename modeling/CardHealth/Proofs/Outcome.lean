import Mathlib.Data.List.Forall2

/-!
# Operations that may fail

When a composed operation succeeds, all of its parts did; a list of operations and the list of their
results are related item by item.
-/

namespace CardHealth

/-! ### Related lists -/

/-- Every item of the second of two related lists belongs to an item of the first. -/
theorem exists_mem_of_forall₂ {α β : Type} {r : α → β → Prop} {l : List α} {l' : List β}
    (h : List.Forall₂ r l l') {b : β} (hb : b ∈ l') : ∃ a ∈ l, r a b := by
  induction h with
  | nil => cases hb
  | cons hab _ ih =>
    rcases List.mem_cons.mp hb with rfl | hb
    · exact ⟨_, List.mem_cons_self, hab⟩
    · obtain ⟨a, ha, hab⟩ := ih hb
      exact ⟨a, List.mem_cons_of_mem _ ha, hab⟩

/-- Lists that are related through a third thing item by item are related through a third list. -/
theorem forall₂_exists_iff {α β γ : Type} {r : α → β → Prop} {q : β → γ → Prop} {l : List α}
    {l'' : List γ} :
    List.Forall₂ (fun a c => ∃ b, r a b ∧ q b c) l l'' ↔
      ∃ l', List.Forall₂ r l l' ∧ List.Forall₂ q l' l'' := by
  constructor
  · intro h
    induction h with
    | nil => exact ⟨[], .nil, .nil⟩
    | cons h _ ih =>
      obtain ⟨b, hab, hbc⟩ := h
      obtain ⟨rest, hr, hq⟩ := ih
      exact ⟨b :: rest, .cons hab hr, .cons hbc hq⟩
  · rintro ⟨l', hr, hq⟩
    induction hr generalizing l'' with
    | nil =>
      obtain rfl := List.forall₂_nil_left_iff.mp hq
      exact .nil
    | cons hab _ ih =>
      obtain ⟨c, rest, hbc, hrest, rfl⟩ := List.forall₂_cons_left_iff.mp hq
      exact .cons ⟨_, hab, hbc⟩ (ih hrest)

/-! ### Operations -/

variable {ε α β γ : Type}

theorem eq_ok_of_toOption_eq_some {x : Except ε α} {a : α} (h : x.toOption = some a) :
    x = .ok a := by
  cases x with
  | error e => cases h
  | ok b => rw [Option.some.inj h]

theorem bind_eq_ok_iff {x : Except ε α} {f : α → Except ε β} {b : β} :
    x >>= f = .ok b ↔ ∃ a, x = .ok a ∧ f a = .ok b := by
  cases x <;> simp [Bind.bind, Except.bind]

theorem bind_eq_error_iff {x : Except ε α} {f : α → Except ε β} {e : ε} :
    x >>= f = .error e ↔ x = .error e ∨ ∃ a, x = .ok a ∧ f a = .error e := by
  cases x <;> simp [Bind.bind, Except.bind]

theorem map_eq_ok_iff {x : Except ε α} {f : α → β} {b : β} :
    x.map f = .ok b ↔ ∃ a, x = .ok a ∧ f a = b := by
  cases x <;> simp [Except.map]

theorem exists_map_eq_ok_iff {x : Except ε α} {f : α → β} :
    (∃ b, x.map f = .ok b) ↔ ∃ a, x = .ok a := by
  cases x <;> simp [Except.map]

theorem mapError_eq_ok_iff {ε' : Type} {x : Except ε α} {f : ε → ε'} {a : α} :
    x.mapError f = .ok a ↔ x = .ok a := by
  cases x <;> simp [Except.mapError]

theorem mapM_eq_ok_iff {f : α → Except ε β} {l : List α} {results : List β} :
    l.mapM f = .ok results ↔ List.Forall₂ (fun a b => f a = .ok b) l results := by
  induction l generalizing results with
  | nil => cases results <;> simp [pure, Except.pure]
  | cons a l ih =>
    rw [List.mapM_cons]
    simp only [bind_eq_ok_iff, List.forall₂_cons_left_iff]
    constructor
    · rintro ⟨b, hb, rest, hrest, h⟩
      exact ⟨b, rest, hb, ih.mp hrest, (Except.ok.inj h).symm⟩
    · rintro ⟨b, rest, hb, hrest, rfl⟩
      exact ⟨b, hb, rest, ih.mpr hrest, rfl⟩

/-- A list of operations fails as the first of them that fails. -/
theorem mapM_eq_error_iff {f : α → Except ε β} {l : List α} {e : ε} :
    l.mapM f = .error e ↔
      ∃ before a after, l = before ++ a :: after ∧ (∀ b ∈ before, ∃ c, f b = .ok c) ∧
        f a = .error e := by
  induction l with
  | nil => simp [pure, Except.pure]
  | cons head l ih =>
    rw [List.mapM_cons, bind_eq_error_iff]
    constructor
    · rintro (hhead | ⟨b, hb, hrest⟩)
      · exact ⟨[], head, l, rfl, by simp, hhead⟩
      · rcases bind_eq_error_iff.mp hrest with hrest | ⟨_, _, hpure⟩
        · obtain ⟨before, a, after, rfl, hbefore, ha⟩ := ih.mp hrest
          exact ⟨head :: before, a, after, rfl, List.forall_mem_cons.mpr ⟨⟨b, hb⟩, hbefore⟩, ha⟩
        · cases hpure
    · rintro ⟨before, a, after, hsplit, hbefore, ha⟩
      cases before with
      | nil =>
        obtain ⟨rfl, rfl⟩ := List.cons.inj hsplit
        exact .inl ha
      | cons first before =>
        obtain ⟨rfl, rfl⟩ := List.cons.inj hsplit
        obtain ⟨⟨b, hb⟩, hbefore⟩ := List.forall_mem_cons.mp hbefore
        have hrest := ih.mpr ⟨before, a, after, rfl, hbefore, ha⟩
        exact .inr ⟨b, hb, bind_eq_error_iff.mpr (.inl hrest)⟩

/-- What is done with the results of an operation, one after the other, can be done with all of them
after all operations: nothing fails that would not have failed. -/
theorem foldlM_bind_eq_ok_iff {f : α → Except ε β} {g : γ → β → Except ε γ} {l : List α}
    {c last : γ} :
    (l.foldlM (fun c a => f a >>= g c) c) = .ok last ↔
      ∃ results, List.Forall₂ (fun a b => f a = .ok b) l results ∧
        results.foldlM g c = .ok last := by
  induction l generalizing c with
  | nil => simp
  | cons a l ih =>
    simp only [List.foldlM_cons, bind_eq_ok_iff, ih, List.forall₂_cons_left_iff]
    constructor
    · rintro ⟨next, ⟨b, hb, hnext⟩, results, hresults, hlast⟩
      refine ⟨b :: results, ⟨b, results, hb, hresults, rfl⟩, ?_⟩
      exact bind_eq_ok_iff.mpr ⟨next, hnext, hlast⟩
    · rintro ⟨_, ⟨b, results, hb, hresults, rfl⟩, hlast⟩
      obtain ⟨next, hnext, hlast⟩ := bind_eq_ok_iff.mp hlast
      exact ⟨next, ⟨b, hb, hnext⟩, results, hresults, hlast⟩

/-- What every step keeps, a sequence of steps keeps. -/
theorem foldlM_preserves {f : β → α → Except ε β} {P : β → Prop}
    (hstep : ∀ b a next, P b → f b a = .ok next → P next) {l : List α} {b last : β} (hb : P b)
    (h : l.foldlM f b = .ok last) : P last := by
  induction l generalizing b with
  | nil =>
    obtain rfl := Except.ok.inj h
    exact hb
  | cons a l ih =>
    rw [List.foldlM_cons, bind_eq_ok_iff] at h
    obtain ⟨next, hnext, hlast⟩ := h
    exact ih (hstep b a next hb hnext) hlast

end CardHealth
