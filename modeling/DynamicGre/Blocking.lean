import DynamicGre.Runs

/-!
Computations that change a state and may wait for ever. From all states that
stand for an abstract one, such a computation can be shown to return a given
value in a state that stands for another; what holds wherever it returns is a
matter of its parts alone.
-/

namespace DynamicGre

/-- No result means that the computation does not return. -/
abbrev Blocking (σ α : Type) := StateT σ Option α

namespace Blocking

variable {σ τ α β ε : Type}

/-- Where the state stands for `t`, `x` returns `a` and the state then stands for
`t'`. -/
def Realizes (R : σ → τ → Prop) (x : Blocking σ α) (t : τ) (a : α) (t' : τ) : Prop :=
  ∀ s, R s t → ∃ s', x s = some (a, s') ∧ R s' t'

variable {R : σ → τ → Prop} {t t' t'' : τ} {a : α} {b : β}

theorem realizes_pure : Realizes R (pure a) t a t := by
  intro s hs
  exact ⟨s, rfl, hs⟩

theorem Realizes.bind {x : Blocking σ α} {f : α → Blocking σ β} (hx : Realizes R x t a t')
    (hf : Realizes R (f a) t' b t'') : Realizes R (x >>= f) t b t'' := by
  intro s hs
  obtain ⟨s', hrun, hs'⟩ := hx s hs
  obtain ⟨s'', hrun', hs''⟩ := hf s' hs'
  refine ⟨s'', ?_, hs''⟩
  change (x s).bind (fun p => f p.1 p.2) = _
  rw [hrun]
  exact hrun'

/-- A loop that changes the abstract state only. -/
theorem realizes_forM {f : ε → Blocking σ Unit} {step : τ → ε → τ} {events : List ε}
    (hstep : ∀ t, ∀ e ∈ events, Realizes R (f e) t () (step t e)) (t : τ) :
    Realizes R (events.forM f) t () (Runs.run step t events) := by
  induction events generalizing t with
  | nil => exact realizes_pure
  | cons e events ih =>
      have hrest : ∀ t, ∀ e ∈ events, Realizes R (f e) t () (step t e) :=
        fun t e he => hstep t e (List.mem_cons_of_mem _ he)
      exact (hstep t e List.mem_cons_self).bind (ih hrest (step t e))

/-- A loop that gathers a value and leaves the abstract state as it is. -/
theorem realizes_foldlM {f : α → ε → Blocking σ α} {step : α → ε → α} {events : List ε}
    (hstep : ∀ a, ∀ e ∈ events, Realizes R (f a e) t (step a e) t) (a : α) :
    Realizes R (events.foldlM f a) t (events.foldl step a) t := by
  induction events generalizing a with
  | nil => exact realizes_pure
  | cons e events ih =>
      rw [List.foldlM_cons]
      have hrest : ∀ a, ∀ e ∈ events, Realizes R (f a e) t (step a e) t :=
        fun a e he => hstep a e (List.mem_cons_of_mem _ he)
      exact (hstep a e List.mem_cons_self).bind (ih hrest (step a e))

/-! ### What holds wherever a computation returns -/

/-- `x` does not return from a state with `I` in one without. -/
def Preserves (I : σ → Prop) (x : Blocking σ α) : Prop :=
  ∀ s a s', I s → x s = some (a, s') → I s'

variable {I : σ → Prop}

theorem bind_eq_some {x : Blocking σ α} {f : α → Blocking σ β} {s s'' : σ} :
    (x >>= f) s = some (b, s'') ↔ ∃ a s', x s = some (a, s') ∧ f a s' = some (b, s'') := by
  change (x s).bind (fun p => f p.1 p.2) = _ ↔ _
  rw [Option.bind_eq_some_iff]
  constructor
  · rintro ⟨⟨a, s'⟩, hx, hf⟩
    exact ⟨a, s', hx, hf⟩
  · rintro ⟨a, s', hx, hf⟩
    exact ⟨(a, s'), hx, hf⟩

theorem Preserves.bind {x : Blocking σ α} {f : α → Blocking σ β} (hx : Preserves I x)
    (hf : ∀ a, Preserves I (f a)) : Preserves I (x >>= f) := by
  intro s b s'' hs hrun
  obtain ⟨a, s', hfirst, hrest⟩ := bind_eq_some.mp hrun
  exact hf a s' b s'' (hx s a s' hs hfirst) hrest

end Blocking

end DynamicGre
