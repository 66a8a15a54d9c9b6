import Mathlib.Data.List.Forall2

/-!
# Outcomes

Most functions of the program end with a value or with the first thing that is
wrong. What it takes for a sequence of steps to end with a value is read off here
once, so that no proof has to open the sequence itself.
-/

namespace Protogen

namespace Outcome

variable {ε ε' α β : Type}

instance decidableEq [DecidableEq ε] [DecidableEq α] : DecidableEq (Except ε α)
  | .ok a, .ok b => decidable_of_iff (a = b) (by simp)
  | .error e, .error e' => decidable_of_iff (e = e') (by simp)
  | .ok _, .error _ => isFalse (by simp)
  | .error _, .ok _ => isFalse (by simp)

theorem bind_eq_ok_iff (x : Except ε α) (f : α → Except ε β) (b : β) :
    x >>= f = .ok b ↔ ∃ a, x = .ok a ∧ f a = .ok b := by
  cases x <;> simp [bind, Except.bind]

theorem then_eq_ok_iff (x : Except ε Unit) (y : Except ε β) (b : β) :
    (x >>= fun _ => y) = .ok b ↔ x = .ok () ∧ y = .ok b := by
  rw [bind_eq_ok_iff]
  constructor
  · rintro ⟨_, hx, hy⟩
    exact ⟨hx, hy⟩
  · rintro ⟨hx, hy⟩
    exact ⟨(), hx, hy⟩

theorem mapError_eq_ok_iff (x : Except ε α) (f : ε → ε') (a : α) :
    x.mapError f = .ok a ↔ x = .ok a := by
  cases x <;> simp [Except.mapError]

theorem mapError_eq_error_iff (x : Except ε α) (f : ε → ε') (e : ε') :
    x.mapError f = .error e ↔ ∃ cause, x = .error cause ∧ f cause = e := by
  cases x <;> simp [Except.mapError]

theorem exists_of_isOk {x : Except ε α} (h : x.isOk = true) : ∃ a, x = .ok a := by
  cases x with
  | ok a => exact ⟨a, rfl⟩
  | error e => simp [Except.isOk, Except.toBool] at h

/-- The fault that a check ends with, if it ends with one. -/
def fault? : Except ε Unit → Option ε
  | .ok () => none
  | .error e => some e

theorem fault?_eq_some_iff (x : Except ε Unit) (e : ε) : fault? x = some e ↔ x = .error e := by
  cases x with
  | ok => simp [fault?]
  | error e' => simp [fault?]

theorem fault?_then (x y : Except ε Unit) :
    fault? (x >>= fun _ => y) = (fault? x).or (fault? y) := by
  cases x with
  | ok => rfl
  | error e => rfl

/-- Mapping a list succeeds if every element succeeds, one after the other. -/
theorem mapM_eq_ok_iff (f : α → Except ε β) (xs : List α) (ys : List β) :
    xs.mapM f = .ok ys ↔ List.Forall₂ (fun x y => f x = .ok y) xs ys := by
  induction xs generalizing ys with
  | nil => cases ys <;> simp [pure, Except.pure]
  | cons x xs ih =>
      rw [List.mapM_cons, bind_eq_ok_iff]
      constructor
      · rintro ⟨y, hy, h⟩
        obtain ⟨zs, hzs, h⟩ := (bind_eq_ok_iff _ _ _).mp h
        obtain rfl := Except.ok.inj h
        exact .cons hy ((ih zs).mp hzs)
      · intro h
        obtain _ | ⟨hy, h⟩ := h
        exact ⟨_, hy, (bind_eq_ok_iff _ _ _).mpr ⟨_, (ih _).mpr h, rfl⟩⟩

theorem exists_left_of_forall₂ {R : α → β → Prop} {xs : List α} {ys : List β}
    (h : List.Forall₂ R xs ys) : ∀ y ∈ ys, ∃ x ∈ xs, R x y := by
  induction h with
  | nil => simp
  | cons hfirst _ ih =>
      refine List.forall_mem_cons.mpr ⟨⟨_, List.mem_cons_self, hfirst⟩, fun y hy => ?_⟩
      obtain ⟨x, hx, hxy⟩ := ih y hy
      exact ⟨x, List.mem_cons_of_mem _ hx, hxy⟩

theorem exists_right_of_forall₂ {R : α → β → Prop} {xs : List α} {ys : List β}
    (h : List.Forall₂ R xs ys) : ∀ x ∈ xs, ∃ y ∈ ys, R x y := by
  induction h with
  | nil => simp
  | cons hfirst _ ih =>
      refine List.forall_mem_cons.mpr ⟨⟨_, List.mem_cons_self, hfirst⟩, fun x hx => ?_⟩
      obtain ⟨y, hy, hxy⟩ := ih x hx
      exact ⟨y, List.mem_cons_of_mem _ hy, hxy⟩

/-- Related lists are related at each place. -/
theorem forall₂_mem_zip {R : α → β → Prop} {xs : List α} {ys : List β}
    (h : List.Forall₂ R xs ys) :
    List.Forall₂ (fun x y => (x, y) ∈ xs.zip ys ∧ R x y) xs ys := by
  rw [List.forall₂_iff_zip] at h ⊢
  exact ⟨h.1, fun hmem => ⟨hmem, h.2 hmem⟩⟩

theorem of_mem_zip_of_forall₂ {R : α → β → Prop} {xs : List α} {ys : List β}
    (h : List.Forall₂ R xs ys) {x : α} {y : β} (hmem : (x, y) ∈ xs.zip ys) : R x y :=
  (List.forall₂_iff_zip.mp h).2 hmem

/-- A fold that succeeds has succeeded at every element. -/
theorem exists_of_foldlM_eq_ok (f : β → α → Except ε β) (xs : List α) (b b' : β)
    (h : xs.foldlM f b = .ok b') : ∀ x ∈ xs, ∃ c c', f c x = .ok c' := by
  induction xs generalizing b with
  | nil => simp
  | cons x xs ih =>
      rw [List.foldlM_cons] at h
      obtain ⟨c, hc, h⟩ := (bind_eq_ok_iff _ _ _).mp h
      exact List.forall_mem_cons.mpr ⟨⟨b, c, hc⟩, ih c h⟩

end Outcome

end Protogen
