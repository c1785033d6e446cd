import Mathlib.Data.List.Forall2

/-!
Computations that can fail: when they succeed, when one succeeds wherever another does, and what a
traversal of a list gives.
-/
namespace Cartouche
variable {ε α β : Type}

theorem ok_bind (a : α) (f : α → Except ε β) : (Except.ok a >>= f) = f a := rfl

theorem error_bind (e : ε) (f : α → Except ε β) : ((.error e : Except ε α) >>= f) = .error e := rfl

theorem bind_eq_ok_iff {x : Except ε α} {f : α → Except ε β} {b : β} :
    (x >>= f) = .ok b ↔ ∃ a, x = .ok a ∧ f a = .ok b := by
  cases x with
  | error e => simp [error_bind]
  | ok a => simp [ok_bind]

theorem bind_eq_bind {x y : Except ε α} {f g : α → Except ε β} (h : x = y)
    (hf : ∀ a, f a = g a) : (x >>= f) = (y >>= g) := by
  rw [h, funext hf]

theorem map_eq_ok_iff {x : Except ε α} {f : α → β} {b : β} :
    x.map f = .ok b ↔ ∃ a, x = .ok a ∧ f a = b := by
  cases x <;> simp [Except.map]

theorem mapError_eq_ok_iff {ε' : Type} {x : Except ε α} {f : ε → ε'} {a : α} :
    x.mapError f = .ok a ↔ x = .ok a := by
  cases x <;> simp [Except.mapError]

theorem bind_eq_error_iff {x : Except ε α} {f : α → Except ε β} {e : ε} :
    (x >>= f) = .error e ↔ x = .error e ∨ ∃ a, x = .ok a ∧ f a = .error e := by
  cases x with
  | error e => simp [error_bind]
  | ok a => simp [ok_bind]

theorem map_eq_error_iff {x : Except ε α} {f : α → β} {e : ε} :
    x.map f = .error e ↔ x = .error e := by
  cases x <;> simp [Except.map]

theorem toOption_eq_some_iff {x : Except ε α} {a : α} : x.toOption = some a ↔ x = .ok a := by
  cases x <;> simp [Except.toOption]

instance decidableOkAnd {P : α → Prop} [DecidablePred P] :
    (x : Except ε α) → Decidable (∃ a, x = .ok a ∧ P a)
  | .error _ => .isFalse nofun
  | .ok a => decidable_of_iff (P a) ⟨fun h => ⟨a, rfl, h⟩, fun ⟨_, h, ha⟩ => Except.ok.inj h ▸ ha⟩

theorem forM_cons_eq {f : α → Except ε Unit} {x : α} {xs : List α} :
    (x :: xs).forM f = (f x >>= fun _ => xs.forM f) := by
  simp only [List.forM_eq_forM, List.forM_cons]

/-- A check of every member passes when each of them passes. -/
theorem forM_eq_ok_iff {f : α → Except ε Unit} {xs : List α} :
    xs.forM f = .ok () ↔ ∀ x ∈ xs, f x = .ok () := by
  induction xs with
  | nil => exact iff_of_true rfl (by simp)
  | cons x xs ih =>
    rw [forM_cons_eq, bind_eq_ok_iff, List.forall_mem_cons]
    constructor
    · rintro ⟨_, hx, hxs⟩
      exact ⟨hx, ih.mp hxs⟩
    · rintro ⟨hx, hxs⟩
      exact ⟨(), hx, ih.mpr hxs⟩

theorem exists_mem_of_forM_eq_error {f : α → Except ε Unit} {xs : List α} {e : ε}
    (h : xs.forM f = .error e) : ∃ x ∈ xs, f x = .error e := by
  induction xs with
  | nil => cases h
  | cons x xs ih =>
    rw [forM_cons_eq] at h
    cases hx : f x with
    | error e' =>
      rw [hx, error_bind] at h
      exact ⟨x, List.mem_cons_self, hx.trans h⟩
    | ok u =>
      rw [hx, ok_bind] at h
      obtain ⟨y, hm, hy⟩ := ih h
      exact ⟨y, List.mem_cons_of_mem _ hm, hy⟩

/-! Lists whose members are related one by one. -/

section Related
variable {α β : Type} {R : α → β → Prop} {xs : List α} {ys : List β}

theorem find?_related (h : List.Forall₂ R xs ys) {p : α → Bool} {q : β → Bool}
    (hpq : ∀ x y, R x y → p x = q y) : Option.Rel R (xs.find? p) (ys.find? q) := by
  induction h with
  | nil => exact .none
  | cons hxy _ ih =>
    rw [List.find?_cons, List.find?_cons, hpq _ _ hxy]
    split
    · exact .some hxy
    · exact ih

theorem exists_related_left (h : List.Forall₂ R xs ys) {x : α} (hx : x ∈ xs) :
    ∃ y ∈ ys, R x y := by
  induction h with
  | nil => cases hx
  | cons hxy _ ih =>
    rcases List.mem_cons.mp hx with rfl | hx
    · exact ⟨_, List.mem_cons_self, hxy⟩
    · obtain ⟨y, hy, hr⟩ := ih hx
      exact ⟨y, List.mem_cons_of_mem _ hy, hr⟩

theorem exists_related_right (h : List.Forall₂ R xs ys) {y : β} (hy : y ∈ ys) :
    ∃ x ∈ xs, R x y :=
  exists_related_left h.flip hy

/-- The partner of a member stands at the same place. -/
theorem exists_zip_right (h : List.Forall₂ R xs ys) {y : β} (hy : y ∈ ys) :
    ∃ x, (x, y) ∈ xs.zip ys ∧ R x y := by
  induction h with
  | nil => cases hy
  | @cons x' y' xs ys hr _ ih =>
    rcases List.mem_cons.mp hy with rfl | hy
    · exact ⟨x', List.mem_cons_self, hr⟩
    · obtain ⟨x, hx, hr⟩ := ih hy
      exact ⟨x, List.mem_cons_of_mem _ hx, hr⟩

end Related

/-- A traversal succeeds when every member does, and gives what they give. -/
theorem mapM_eq_ok_iff {f : α → Except ε β} {xs : List α} {ys : List β} :
    xs.mapM f = .ok ys ↔ List.Forall₂ (fun x y => f x = .ok y) xs ys := by
  induction xs generalizing ys with
  | nil =>
    rw [List.forall₂_nil_left_iff]
    exact (Except.ok.injEq _ _).to_iff.trans eq_comm
  | cons x xs ih =>
    rw [List.mapM_cons, bind_eq_ok_iff, List.forall₂_cons_left_iff]
    refine exists_congr fun y => ?_
    rw [bind_eq_ok_iff]
    constructor
    · rintro ⟨hy, zs, hzs, h⟩
      exact ⟨zs, hy, ih.mp hzs, (Except.ok.inj h).symm⟩
    · rintro ⟨zs, hy, hzs, rfl⟩
      exact ⟨hy, zs, ih.mpr hzs, rfl⟩

theorem ok_of_mapM_eq_ok {f : α → Except ε β} {xs : List α} {ys : List β} {x : α}
    (h : xs.mapM f = .ok ys) (hx : x ∈ xs) : ∃ y, f x = .ok y :=
  (exists_related_left (mapM_eq_ok_iff.mp h) hx).imp fun _ => And.right

theorem mapM_cons_eq_error_iff {f : α → Except ε β} {x : α} {xs : List α} {e : ε} :
    (x :: xs).mapM f = .error e ↔ f x = .error e ∨ (∃ b, f x = .ok b) ∧ xs.mapM f = .error e := by
  rw [List.mapM_cons]
  cases hx : f x with
  | error e' => simp [error_bind]
  | ok b =>
    rw [ok_bind, bind_eq_error_iff]
    constructor
    · rintro (h | ⟨bs, _, h⟩)
      · exact Or.inr ⟨⟨b, rfl⟩, h⟩
      · cases h
    · rintro (h | ⟨_, h⟩)
      · cases h
      · exact Or.inl h

/-- A traversal fails at the first member that fails, and with its error. -/
theorem mapM_eq_error_iff {f : α → Except ε β} {xs : List α} {e : ε} : xs.mapM f = .error e ↔
    ∃ before x behind, xs = before ++ x :: behind ∧ (∀ y ∈ before, ∃ b, f y = .ok b) ∧
      f x = .error e := by
  induction xs with
  | nil =>
    constructor
    · intro h
      cases h
    · rintro ⟨before, x, behind, h, _⟩
      cases before <;> cases h
  | cons a xs ih =>
    rw [mapM_cons_eq_error_iff, ih]
    constructor
    · rintro (ha | ⟨ha, before, x, behind, rfl, hbefore, hx⟩)
      · exact ⟨[], a, xs, rfl, by simp, ha⟩
      · exact ⟨a :: before, x, behind, rfl, List.forall_mem_cons.mpr ⟨ha, hbefore⟩, hx⟩
    · rintro ⟨before, x, behind, h, hbefore, hx⟩
      cases before with
      | nil =>
        obtain ⟨rfl, _⟩ := List.cons.inj h
        exact Or.inl hx
      | cons y before =>
        obtain ⟨rfl, rfl⟩ := List.cons.inj h
        obtain ⟨ha, hbefore⟩ := List.forall_mem_cons.mp hbefore
        exact Or.inr ⟨ha, before, x, behind, rfl, hbefore, hx⟩

/-- What a traversal gives is what each member gives, so that no default is needed. -/
theorem map_getD_of_mapM_eq_ok {f : α → Except ε β} {xs : List α} {ys : List β}
    (h : xs.mapM f = .ok ys) (default : β) :
    xs.map (fun x => (f x).toOption.getD default) = ys := by
  induction xs generalizing ys with
  | nil => exact Except.ok.inj h
  | cons x xs ih =>
    rw [List.mapM_cons] at h
    obtain ⟨y, hy, h⟩ := bind_eq_ok_iff.mp h
    obtain ⟨ys, hys, h⟩ := bind_eq_ok_iff.mp h
    rw [List.map_cons, ih hys, hy]
    exact Except.ok.inj h

theorem mapM_eq_of_forall₂ {α' : Type} {f : α → Except ε β} {g : α' → Except ε β} {xs : List α}
    {ys : List α'} (h : List.Forall₂ (fun x y => f x = g y) xs ys) : xs.mapM f = ys.mapM g := by
  induction h with
  | nil => rfl
  | cons h _ ih => rw [List.mapM_cons, List.mapM_cons, h, ih]

/-- Where the first computation has a result the second has the same one, and where the first
fails its error is of the kind `P`. -/
def Follows (P : ε → Prop) (x y : Except ε α) : Prop :=
  match x with
  | .ok a => y = .ok a
  | .error e => P e

namespace Follows
variable {P : ε → Prop} {x y : Except ε α}

theorem pure (P : ε → Prop) (a : α) : Follows P (.ok a) (.ok a) := rfl

theorem eq_ok (h : Follows P x y) {a : α} (hx : x = .ok a) : y = .ok a := by
  subst hx
  exact h

theorem error (h : Follows P x y) {e : ε} (hx : x = .error e) : P e := by
  subst hx
  exact h

/-- The second step is only compared on the result that the first one has. -/
theorem bind (h : Follows P x y) {f g : α → Except ε β}
    (hf : ∀ a, x = .ok a → Follows P (f a) (g a)) : Follows P (x >>= f) (y >>= g) := by
  cases hx : x with
  | error e => exact h.error hx
  | ok a =>
    rw [h.eq_ok hx]
    exact hf a hx

theorem map (h : Follows P x y) (f : α → β) : Follows P (x.map f) (y.map f) := by
  cases hx : x with
  | error e => exact h.error hx
  | ok a =>
    rw [h.eq_ok hx]
    rfl

theorem mapM {f g : α → Except ε β} {xs : List α} (h : ∀ a ∈ xs, Follows P (f a) (g a)) :
    Follows P (xs.mapM f) (xs.mapM g) := by
  induction xs with
  | nil => exact pure P []
  | cons a xs ih =>
    rw [List.mapM_cons, List.mapM_cons]
    apply (h a List.mem_cons_self).bind
    intro b _
    apply (ih fun c hc => h c (List.mem_cons_of_mem _ hc)).bind
    intro bs _
    exact pure P (b :: bs)

end Follows

/-- Both computations have results, which are related, or both fail with the same error. -/
inductive Parallel {α' : Type} (R : α → α' → Prop) : Except ε α → Except ε α' → Prop
  | ok {a : α} {b : α'} (h : R a b) : Parallel R (.ok a) (.ok b)
  | error (e : ε) : Parallel R (.error e) (.error e)

namespace Parallel
variable {α' β' : Type} {R : α → α' → Prop} {Q : β → β' → Prop} {x : Except ε α} {y : Except ε α'}

theorem refl {R : α → α → Prop} (h : ∀ a, R a a) (x : Except ε α) : Parallel R x x := by
  cases x with
  | error e => exact .error e
  | ok a => exact .ok (h a)

theorem imp {R' : α → α' → Prop} (h : Parallel R x y) (himp : ∀ a b, R a b → R' a b) :
    Parallel R' x y := by
  cases h with
  | error e => exact .error e
  | ok h => exact .ok (himp _ _ h)

theorem bind (h : Parallel R x y) {f : α → Except ε β} {g : α' → Except ε β'}
    (hf : ∀ a b, R a b → Parallel Q (f a) (g b)) : Parallel Q (x >>= f) (y >>= g) := by
  cases h with
  | error e => exact .error e
  | ok h => exact hf _ _ h

theorem map (h : Parallel R x y) {f : α → β} {g : α' → β'}
    (hf : ∀ a b, R a b → Q (f a) (g b)) : Parallel Q (x.map f) (y.map g) := by
  cases h with
  | error e => exact .error e
  | ok h => exact .ok (hf _ _ h)

theorem map_eq (h : Parallel R x y) {f : α → β} {g : α' → β}
    (hf : ∀ a b, R a b → f a = g b) : x.map f = y.map g := by
  cases h with
  | error e => rfl
  | ok h => exact congrArg Except.ok (hf _ _ h)

theorem mapError {ε' : Type} (h : Parallel R x y) (f : ε → ε') :
    Parallel R (x.mapError f) (y.mapError f) := by
  cases h with
  | error e => exact .error (f e)
  | ok h => exact .ok h

theorem eq {x y : Except ε α} {R : α → α → Prop} (h : Parallel R x y)
    (heq : ∀ a b, R a b → a = b) : x = y := by
  cases h with
  | error e => rfl
  | ok h => exact congrArg Except.ok (heq _ _ h)

end Parallel

end Cartouche
