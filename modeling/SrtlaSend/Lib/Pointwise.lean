import Mathlib.Data.List.Forall2

/-!
# Pointwise relations between lists

A loop that rewrites every element of a list in place relates the list before
and after position by position. These are the rules for such relations: a map
gives one, two of them compose, and a position can be read through one.
-/

namespace Pointwise

variable {α β γ : Type}

theorem forall₂_mapIdx {R : α → β → Prop} {f : Nat → α → β} (related : ∀ i a, R a (f i a))
    (l : List α) : List.Forall₂ R l (l.mapIdx f) := by
  induction l generalizing f with
  | nil => exact List.Forall₂.nil
  | cons a l ih =>
    rw [List.mapIdx_cons]
    exact List.Forall₂.cons (related 0 a) (ih fun i b => related (i + 1) b)

theorem forall₂_map {R : α → β → Prop} {f : α → β} (related : ∀ a, R a (f a)) (l : List α) :
    List.Forall₂ R l (l.map f) :=
  List.forall₂_map_right_iff.mpr (List.forall₂_same.mpr fun a _ => related a)

/-- Related lists stay related when both are rewritten alike. -/
theorem forall₂_map_both {R S : α → α → Prop} {f : α → α} {l l' : List α}
    (keeps : ∀ a b, R a b → S (f a) (f b)) (related : List.Forall₂ R l l') :
    List.Forall₂ S (l.map f) (l'.map f) := by
  induction related with
  | nil => exact List.Forall₂.nil
  | cons head tail ih => exact List.Forall₂.cons (keeps _ _ head) ih

theorem forall₂_mapIdx_both {R S : α → α → Prop} {f : Nat → α → α} {l l' : List α}
    (keeps : ∀ i a b, R a b → S (f i a) (f i b)) (related : List.Forall₂ R l l') :
    List.Forall₂ S (l.mapIdx f) (l'.mapIdx f) := by
  induction related generalizing f with
  | nil => exact List.Forall₂.nil
  | cons head tail ih =>
    rw [List.mapIdx_cons, List.mapIdx_cons]
    exact List.Forall₂.cons (keeps 0 _ _ head) (ih fun i => keeps (i + 1))

theorem forall₂_trans {R : α → β → Prop} {S : β → γ → Prop} {T : α → γ → Prop}
    {l : List α} {l' : List β} {l'' : List γ} (compose : ∀ a b c, R a b → S b c → T a c)
    (first : List.Forall₂ R l l') (second : List.Forall₂ S l' l'') : List.Forall₂ T l l'' := by
  induction first generalizing l'' with
  | nil =>
    cases second
    exact List.Forall₂.nil
  | cons head tail ih =>
    cases second with
    | cons head' tail' => exact List.Forall₂.cons (compose _ _ _ head head') (ih tail')

/-- Lists related in two ways are related in both at once. -/
theorem forall₂_and {R S : α → β → Prop} {l : List α} {l' : List β} (first : List.Forall₂ R l l')
    (second : List.Forall₂ S l l') : List.Forall₂ (fun a b => R a b ∧ S a b) l l' := by
  induction first with
  | nil => exact List.Forall₂.nil
  | cons head tail ih =>
    cases second with
    | cons head' tail' => exact List.Forall₂.cons ⟨head, head'⟩ (ih tail')

/-- Rewriting one position relates the lists if the new element is related to the old. -/
theorem forall₂_set {R : α → α → Prop} (refl : ∀ a, R a a) {l : List α} {i : Nat} {a b : α}
    (at_i : l[i]? = some a) (related : R a b) : List.Forall₂ R l (l.set i b) := by
  induction l generalizing i with
  | nil => simp at at_i
  | cons head tail ih =>
    have same : List.Forall₂ R tail tail := List.forall₂_same.mpr fun x _ => refl x
    cases i with
    | zero =>
      simp only [List.getElem?_cons_zero, Option.some.injEq] at at_i
      exact List.Forall₂.cons (at_i ▸ related) same
    | succ i => exact List.Forall₂.cons (refl head) (ih at_i)

theorem forall₂_modify {R : α → α → Prop} {f : α → α} (refl : ∀ a, R a a)
    (related : ∀ a, R a (f a)) (l : List α) (i : Nat) : List.Forall₂ R l (l.modify i f) := by
  induction l generalizing i with
  | nil =>
    rw [List.modify_nil]
    exact List.Forall₂.nil
  | cons head tail ih =>
    cases i with
    | zero => exact List.Forall₂.cons (related head) (List.forall₂_same.mpr fun x _ => refl x)
    | succ i => exact List.Forall₂.cons (refl head) (ih i)

/-- A loop each of whose turns relates the list before and after relates the lists
at its ends. -/
theorem forall₂_foldl {R : α → α → Prop} {f : List α → γ → List α} (refl : ∀ a, R a a)
    (trans : ∀ a b c, R a b → R b c → R a c) (turn : ∀ l x, List.Forall₂ R l (f l x))
    (xs : List γ) (l : List α) : List.Forall₂ R l (xs.foldl f l) := by
  induction xs generalizing l with
  | nil => exact List.forall₂_same.mpr fun a _ => refl a
  | cons x xs ih => exact forall₂_trans trans (turn l x) (ih (f l x))

theorem getElem?_of_forall₂ {R : α → β → Prop} {l : List α} {l' : List β}
    (related : List.Forall₂ R l l') {i : Nat} {a : α} (at_i : l[i]? = some a) :
    ∃ b, l'[i]? = some b ∧ R a b := by
  induction related generalizing i with
  | nil => simp at at_i
  | cons head tail ih =>
    cases i with
    | zero =>
      simp only [List.getElem?_cons_zero, Option.some.injEq] at at_i
      exact ⟨_, rfl, at_i ▸ head⟩
    | succ i => exact ih at_i

theorem getElem?_of_forall₂_right {R : α → β → Prop} {l : List α} {l' : List β}
    (related : List.Forall₂ R l l') {i : Nat} {b : β} (at_i : l'[i]? = some b) :
    ∃ a, l[i]? = some a ∧ R a b :=
  getElem?_of_forall₂ related.flip at_i

/-- A test that the relation respects holds of some element of both lists or of none. -/
theorem any_eq_of_forall₂ {R : α → α → Prop} {p : α → Bool} {l l' : List α}
    (respects : ∀ a b, R a b → p b = p a) (related : List.Forall₂ R l l') :
    l'.any p = l.any p := by
  induction related with
  | nil => rfl
  | cons head tail ih => rw [List.any_cons, List.any_cons, respects _ _ head, ih]

/-- A reading that the relation respects is the same over both lists. -/
theorem map_eq_of_forall₂ {R : α → α → Prop} {f : α → β} {l l' : List α}
    (respects : ∀ a b, R a b → f b = f a) (related : List.Forall₂ R l l') :
    l'.map f = l.map f := by
  induction related with
  | nil => rfl
  | cons head tail ih => rw [List.map_cons, List.map_cons, respects _ _ head, ih]

/-- A search for what the relation respects finds related elements, or nothing in both lists. -/
theorem find?_of_forall₂ {R : α → α → Prop} {p : α → Bool} {l l' : List α}
    (respects : ∀ a b, R a b → p b = p a) (related : List.Forall₂ R l l') :
    (l.find? p = none ∧ l'.find? p = none) ∨
      ∃ a b, l.find? p = some a ∧ l'.find? p = some b ∧ R a b := by
  induction related with
  | nil => exact Or.inl ⟨rfl, rfl⟩
  | @cons a b l l' head tail ih =>
    have same := respects a b head
    cases here : p a with
    | true =>
      exact Or.inr ⟨a, b, List.find?_cons_of_pos here, List.find?_cons_of_pos (same.trans here), head⟩
    | false =>
      rw [List.find?_cons_of_neg (by simp [here]), List.find?_cons_of_neg (by simp [same, here])]
      exact ih

/-! ### Distinct keys -/

/-- Where keys differ pairwise, a search for the key of an element finds the element. -/
theorem find?_key [DecidableEq β] {key : α → β} {l : List α} (distinct : (l.map key).Nodup) {a : α}
    (member : a ∈ l) : l.find? (fun b => decide (key b = key a)) = some a := by
  induction l with
  | nil => cases member
  | cons b l ih =>
    rw [List.map_cons, List.nodup_cons] at distinct
    rcases List.mem_cons.mp member with rfl | later
    · exact List.find?_cons_of_pos (by simp)
    · have other : key b ≠ key a := by
        intro same
        exact distinct.1 (same ▸ List.mem_map_of_mem later)
      rw [List.find?_cons_of_neg (by simpa using other)]
      exact ih distinct.2 later

end Pointwise
