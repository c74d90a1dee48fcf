import Mathlib.Tactic

/-!
Runs of a system that takes one step for each event. `heads` lists the states
between the steps, the first and the last included. An invariant of all of
them is proved from what one step preserves.
-/

namespace DynamicGre.Runs

universe u v w

variable {σ : Type u} {ε : Type v} (step : σ → ε → σ)

def run (s : σ) (events : List ε) : σ := events.foldl step s

def heads (s : σ) : List ε → List σ
  | [] => [s]
  | e :: events => s :: heads (step s e) events

/-- What the steps of a run yield, in their order. -/
def collect {α : Type w} (yields : σ → ε → List α) (s : σ) : List ε → List α
  | [] => []
  | e :: events => yields s e ++ collect yields (step s e) events

/-- Every step of the run is taken from a state and on an event in `P`. -/
def Along (P : σ → ε → Prop) (s : σ) : List ε → Prop
  | [] => True
  | e :: events => P s e ∧ Along P (step s e) events

variable {step} {s : σ} {events : List ε}

@[simp] theorem run_nil : run step s [] = s := rfl

@[simp] theorem run_cons (e : ε) : run step s (e :: events) = run step (step s e) events := rfl

/-- What does not depend on the state is gathered from the events alone. -/
theorem collect_const {α : Type w} (step : σ → ε → σ) (yields : ε → List α) :
    collect step (fun _ => yields) s events = events.flatMap yields := by
  induction events generalizing s with
  | nil => rfl
  | cons e events ih => rw [collect, ih, List.flatMap_cons]

/-- To expand what each step yields is to expand what the run yields. -/
theorem collect_flatMap {α β : Type w} {yields : σ → ε → List α} (f : α → List β) :
    collect step (fun s e => (yields s e).flatMap f) s events =
      (collect step yields s events).flatMap f := by
  induction events generalizing s with
  | nil => rfl
  | cons e events ih => rw [collect, collect, ih, List.flatMap_append]

/-- What every step yields satisfies `P`, and so does what the run yields. -/
theorem forall_mem_collect {α : Type w} {yields : σ → ε → List α} {P : α → Prop}
    (h : ∀ s, ∀ e ∈ events, ∀ a ∈ yields s e, P a) : ∀ a ∈ collect step yields s events, P a := by
  induction events generalizing s with
  | nil => simp [collect]
  | cons e events ih =>
      intro a ha
      rcases List.mem_append.mp ha with hnow | hlater
      · exact h s e List.mem_cons_self a hnow
      · exact ih (fun s e he => h s e (List.mem_cons_of_mem _ he)) a hlater

/-- What the steps yield is related one by one, and so is what the run yields. -/
theorem collect_forall₂ {α β : Type w} {yields : σ → ε → List α} {yields' : σ → ε → List β}
    {R : α → β → Prop} (h : ∀ s e, List.Forall₂ R (yields s e) (yields' s e)) (s : σ)
    (events : List ε) :
    List.Forall₂ R (collect step yields s events) (collect step yields' s events) := by
  induction events generalizing s with
  | nil => exact .nil
  | cons e events ih => exact List.rel_append (h s e) (ih (step s e))

/-- Events that no step can tell from their images. -/
theorem heads_map {f : ε → ε} (h : ∀ s e, step s (f e) = step s e) :
    heads step s (events.map f) = heads step s events := by
  induction events generalizing s with
  | nil => rfl
  | cons e events ih => rw [List.map_cons, heads, heads, h, ih]

theorem head_mem_heads : s ∈ heads step s events := by
  cases events <;> exact List.mem_cons_self

theorem run_mem_heads : run step s events ∈ heads step s events := by
  induction events generalizing s with
  | nil => exact List.mem_singleton.mpr rfl
  | cons e events ih => exact List.mem_cons_of_mem _ ih

theorem along_of_forall {Q : ε → Prop} (h : ∀ e ∈ events, Q e) :
    Along step (fun _ e => Q e) s events := by
  induction events generalizing s with
  | nil => trivial
  | cons e events ih =>
      have hrest : ∀ e' ∈ events, Q e' := fun e' he' => h e' (List.mem_cons_of_mem _ he')
      exact ⟨h e List.mem_cons_self, ih hrest⟩

/-- Along a run in `P` that keeps an invariant, each step also has what the
invariant and `P` give for it. -/
theorem Along.strengthen {P Q : σ → ε → Prop} (Inv : σ → Prop)
    (hstep : ∀ s e, Inv s → P s e → Inv (step s e) ∧ Q s e) (hrun : Along step P s events)
    (hinit : Inv s) : Along step Q s events := by
  induction events generalizing s with
  | nil => trivial
  | cons e events ih =>
      obtain ⟨hsafe, hrest⟩ := hrun
      obtain ⟨hnext, hQ⟩ := hstep s e hinit hsafe
      exact ⟨hQ, ih hrest hnext⟩

/-- What every step in `P` preserves holds at every head of a run along `P`. -/
theorem Along.invariant {P : σ → ε → Prop} (Inv : σ → Prop)
    (hstep : ∀ s e, Inv s → P s e → Inv (step s e)) (hrun : Along step P s events)
    (hinit : Inv s) : ∀ head ∈ heads step s events, Inv head := by
  induction events generalizing s with
  | nil =>
      intro head hhead
      rw [List.mem_singleton.mp hhead]
      exact hinit
  | cons e events ih =>
      obtain ⟨hsafe, hrest⟩ := hrun
      intro head hhead
      rcases List.mem_cons.mp hhead with rfl | hlater
      · exact hinit
      · exact ih hrest (hstep _ e hinit hsafe) head hlater

/-- Where the steps that keep a law are exactly those in `Safe`, the law holds
at every head exactly along safe runs. -/
theorem forall_heads_iff (Safe : σ → ε → Prop) (Law : σ → Prop)
    (hstep : ∀ s e, Law s → (Law (step s e) ↔ Safe s e)) (hinit : Law s) :
    (∀ head ∈ heads step s events, Law head) ↔ Along step Safe s events := by
  constructor
  · intro h
    induction events generalizing s with
    | nil => trivial
    | cons e events ih =>
        have hnext : Law (step s e) := h _ (List.mem_cons_of_mem _ head_mem_heads)
        refine ⟨(hstep s e hinit).mp hnext, ih hnext ?_⟩
        intro head hhead
        exact h head (List.mem_cons_of_mem _ hhead)
  · intro h
    exact h.invariant Law (fun s e hlaw hsafe => (hstep s e hlaw).mpr hsafe) hinit

/-- A relation kept by matching steps relates the ends of two runs. -/
theorem Along.simulation {τ : Type w} {step' : τ → ε → τ} {P : σ → ε → Prop}
    {R : σ → τ → Prop}
    (hstep : ∀ s t e, R s t → P s e → R (step s e) (step' t e))
    (hrun : Along step P s events) {t : τ} (hinit : R s t) :
    R (run step s events) (run step' t events) := by
  induction events generalizing s t with
  | nil => exact hinit
  | cons e events ih =>
      obtain ⟨hsafe, hrest⟩ := hrun
      exact ih hrest (hstep s t e hinit hsafe)

/-- What no event of a run changes is the same at every head. -/
theorem iff_of_mem_heads {P : σ → Prop} (hstep : ∀ s, ∀ e ∈ events, P (step s e) ↔ P s) :
    ∀ head ∈ heads step s events, (P head ↔ P s) := by
  have hiff (t : σ) (e : ε) (ht : P t ↔ P s) (he : e ∈ events) : P (step t e) ↔ P s :=
    (hstep t e he).trans ht
  exact (along_of_forall fun e he => he).invariant (fun t => P t ↔ P s) hiff Iff.rfl

/-- What is there at a head was there at the start or came with an event. -/
theorem origin_of_mem_heads {α : Type w} {Has : σ → α → Prop} {Adds : ε → α → Prop}
    (hstep : ∀ s e a, Has (step s e) a → Has s a ∨ Adds e a) :
    ∀ head ∈ heads step s events, ∀ a, Has head a → Has s a ∨ ∃ e ∈ events, Adds e a := by
  induction events generalizing s with
  | nil =>
      intro head hhead a ha
      rw [List.mem_singleton.mp hhead] at ha
      exact Or.inl ha
  | cons e events ih =>
      intro head hhead a ha
      rcases List.mem_cons.mp hhead with rfl | hlater
      · exact Or.inl ha
      · rcases ih head hlater a ha with hnext | ⟨e', he', hadds⟩
        · rcases hstep s e a hnext with hold | hadds
          · exact Or.inl hold
          · exact Or.inr ⟨e, List.mem_cons_self, hadds⟩
        · exact Or.inr ⟨e', List.mem_cons_of_mem _ he', hadds⟩

/-- What each step keeps from the state before it, every later head keeps. -/
theorem pairwise_heads {R : σ → σ → Prop} (Inv : σ → Prop) (hrefl : ∀ s, R s s)
    (htrans : ∀ s t u, R s t → R t u → R s u)
    (hstep : ∀ s e, Inv s → Inv (step s e) ∧ R s (step s e)) (hinit : Inv s) :
    (heads step s events).Pairwise R := by
  have hfrom (events : List ε) : ∀ s, Inv s → ∀ head ∈ heads step s events, R s head := by
    induction events with
    | nil =>
        intro s _ head hhead
        rw [List.mem_singleton.mp hhead]
        exact hrefl s
    | cons e events ih =>
        intro s hinv head hhead
        obtain ⟨hnext, hR⟩ := hstep s e hinv
        rcases List.mem_cons.mp hhead with rfl | hlater
        · exact hrefl _
        · exact htrans _ _ _ hR (ih _ hnext head hlater)
  induction events generalizing s with
  | nil => exact List.pairwise_singleton R s
  | cons e events ih =>
      obtain ⟨hnext, hR⟩ := hstep s e hinit
      refine List.pairwise_cons.mpr ⟨?_, ih hnext⟩
      intro head hhead
      exact htrans _ _ _ hR (hfrom events _ hnext head hhead)

/-! ### Steps that may not return -/

section Partial

variable {ρ : Type w} (call : σ → ε → Option (σ × ρ))

/-- Every step that returns does so in `P`; after one that does not, there is no
further step. -/
def Returns (P : σ → ε → σ → ρ → Prop) (s : σ) : List ε → Prop
  | [] => True
  | e :: events =>
      match call s e with
      | none => True
      | some (next, r) => P s e next r ∧ Returns P next events

/-- Where every step from an invariant returns, and does so in `P` and the
invariant exactly on the events in `Q`, the run is in `P` exactly when all its
events are in `Q`. -/
theorem returns_iff {P : σ → ε → σ → ρ → Prop} (Inv : σ → Prop) {Q : ε → Prop}
    (hcall : ∀ s e, Inv s → ∃ next r, call s e = some (next, r) ∧
      (P s e next r ↔ Q e) ∧ (P s e next r → Inv next)) (hinit : Inv s) :
    Returns call P s events ↔ ∀ e ∈ events, Q e := by
  induction events generalizing s with
  | nil =>
      constructor
      · intro _ e he
        cases he
      · intro _
        trivial
  | cons e events ih =>
      obtain ⟨next, r, hreturn, hiff, hnext⟩ := hcall s e hinit
      rw [List.forall_mem_cons, ← hiff, Returns, hreturn]
      exact and_congr_right fun hP => ih (hnext hP)

end Partial

end DynamicGre.Runs
