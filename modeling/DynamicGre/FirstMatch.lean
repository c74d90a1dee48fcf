import Mathlib.Tactic

/-!
Two searches through one list for the first hit, where the one hits wherever
the other does and maybe elsewhere.
-/

namespace DynamicGre.FirstMatch

universe u v

variable {α : Type u} {β : Type v} {f g : α → Option β} {t : β → β} {xs : List α}

/-- Where `f` hits first, `g` hits what `t` makes of it; or it misses there, and
hits that further on. -/
def Faithful (f g : α → Option β) (t : β → β) (xs : List α) : Prop :=
  ∀ pre x post d, xs = pre ++ x :: post → (∀ z ∈ pre, f z = none) → f x = some d →
    g x = some (t d) ∨ (g x = none ∧ post.findSome? g = some (t d))

section Misses

variable (hmiss : ∀ x, f x = none → g x = none)

include hmiss

theorem findSome?_append_of_miss {pre post : List α} {x : α} (h : ∀ z ∈ pre, f z = none) :
    (pre ++ x :: post).findSome? g = (g x).or (post.findSome? g) := by
  have hpre : pre.findSome? g = none :=
    List.findSome?_eq_none_iff.mpr fun z hz => hmiss z (h z hz)
  rw [List.findSome?_append, hpre, Option.none_or, List.findSome?_cons]
  cases g x <;> rfl

/-- The first hit of `f`, changed by `t`, is the first hit of `g` exactly on the
faithful lists. -/
theorem forall_findSome?_iff :
    (∀ d, xs.findSome? f = some d → xs.findSome? g = some (t d)) ↔ Faithful f g t xs := by
  constructor
  · rintro h pre x post d rfl hpre hx
    have hfirst := h d (List.findSome?_eq_some_iff.mpr ⟨pre, x, post, rfl, hx, hpre⟩)
    rw [findSome?_append_of_miss hmiss hpre] at hfirst
    cases hg : g x with
    | none =>
        rw [hg, Option.none_or] at hfirst
        exact Or.inr ⟨rfl, hfirst⟩
    | some y =>
        rw [hg, Option.some_or] at hfirst
        exact Or.inl hfirst
  · intro h d hfirst
    obtain ⟨pre, x, post, rfl, hx, hpre⟩ := List.findSome?_eq_some_iff.mp hfirst
    rw [findSome?_append_of_miss hmiss hpre]
    rcases h pre x post d rfl hpre hx with hg | ⟨hg, hlater⟩
    · rw [hg, Option.some_or]
    · rw [hg, Option.none_or, hlater]

/-- Both searches end the same exactly on the faithful lists. -/
theorem findSome?_eq_iff : xs.findSome? f = xs.findSome? g ↔ Faithful f g id xs := by
  rw [← forall_findSome?_iff hmiss]
  constructor
  · intro h d hf
    rw [← h, hf]
    rfl
  · intro h
    cases hf : xs.findSome? f with
    | some d => exact (h d hf).symm
    | none =>
        have hnone := List.findSome?_eq_none_iff.mp hf
        exact (List.findSome?_eq_none_iff.mpr fun x hx => hmiss x (hnone x hx)).symm

end Misses

end DynamicGre.FirstMatch
