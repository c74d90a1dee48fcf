import Mathlib.Tactic

/-!
Computations that log events while they run. `val` is what the computation
returns and `log` the events in the order they happened. Properties of the log
are stated with `Always`, and composed along binds by `always_bind`.
-/

namespace DynamicGre

universe u v

structure Logged (ε : Type u) (α : Type v) where
  val : α
  log : List ε

namespace Logged

variable {ε : Type u} {α β : Type v}

instance : Monad (Logged.{u, v} ε) where
  pure a := ⟨a, []⟩
  bind x k := ⟨(k x.val).val, x.log ++ (k x.val).log⟩

def emits (events : List ε) : Logged ε PUnit := ⟨⟨⟩, events⟩

@[simp] theorem val_pure (a : α) : (pure a : Logged ε α).val = a := rfl

@[simp] theorem log_pure (a : α) : (pure a : Logged ε α).log = [] := rfl

@[simp] theorem val_bind (x : Logged ε α) (k : α → Logged ε β) :
    (x >>= k).val = (k x.val).val := by
  cases x
  rfl

@[simp] theorem log_bind (x : Logged ε α) (k : α → Logged ε β) :
    (x >>= k).log = x.log ++ (k x.val).log := by
  cases x
  rfl

@[simp] theorem log_emits (events : List ε) : (emits events).log = events := rfl

/-- Every event of the run satisfies `p`. -/
def Always (p : ε → Prop) (x : Logged ε α) : Prop := ∀ e ∈ x.log, p e

variable {p : ε → Prop}

@[simp] theorem always_pure (a : α) : Always p (pure a : Logged ε α) := by
  simp [Always]

@[simp] theorem always_bind (x : Logged ε α) (k : α → Logged ε β) :
    Always p (x >>= k) ↔ Always p x ∧ Always p (k x.val) := by
  simp only [Always, log_bind, List.mem_append]
  constructor
  · intro h
    exact ⟨fun e he => h e (Or.inl he), fun e he => h e (Or.inr he)⟩
  · rintro ⟨hx, hk⟩ e (he | he)
    · exact hx e he
    · exact hk e he

theorem always_emits {events : List ε} :
    Always p (emits events) ↔ ∀ e ∈ events, p e := Iff.rfl

/-- The part of the log that `f` keeps, in order. -/
def select {δ : Type u} (f : ε → Option δ) (x : Logged ε α) : List δ := x.log.filterMap f

section Select

variable {δ : Type u} {f : ε → Option δ}

@[simp] theorem select_pure (a : α) : (pure a : Logged ε α).select f = [] := rfl

@[simp] theorem select_bind (x : Logged ε α) (k : α → Logged ε β) :
    (x >>= k).select f = x.select f ++ (k x.val).select f := by
  rw [select, log_bind, List.filterMap_append]
  rfl

theorem select_eq_nil {x : Logged ε α} (h : Always (f · = none) x) : x.select f = [] :=
  List.filterMap_eq_nil_iff.mpr h

end Select

end Logged

end DynamicGre
