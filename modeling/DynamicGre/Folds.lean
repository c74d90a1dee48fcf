import Mathlib.Tactic

/-!
Loops over a list of records. A loop that may only stop with one error code is
a check of all records followed by a plain fold; a variable that the loop body
writes only for some of the records ends with what the last of them wrote.
-/

namespace DynamicGre.Folds

universe u v w x

variable {σ : Type u} {α : Type v} {β : Type w} {ε : Type x}

theorem foldlM_eq_if_any {step : σ → α → Except ε σ} {bad : α → Bool} {next : σ → α → σ}
    {e : ε} (hstep : ∀ s a, step s a = if bad a then .error e else .ok (next s a))
    (s : σ) (as : List α) :
    as.foldlM step s = if as.any bad then .error e else .ok (as.foldl next s) := by
  induction as generalizing s with
  | nil => rfl
  | cons a as ih =>
      rw [List.foldlM_cons, hstep]
      cases hbad : bad a with
      | true => simp [hbad, bind, Except.bind]
      | false =>
          have htail := ih (next s a)
          simpa [hbad, bind, Except.bind] using htail

/-- All writes to the variable `get` store `y`, and it holds `y` already or
some record writes it. -/
theorem get_foldl (get : σ → β) (hit : α → Prop) {step : σ → α → σ} {y : β} {as : List α}
    (hskip : ∀ s a, ¬hit a → get (step s a) = get s)
    (hwrite : ∀ s, ∀ a ∈ as, hit a → get (step s a) = y) {s : σ}
    (hstart : get s = y ∨ ∃ a ∈ as, hit a) : get (as.foldl step s) = y := by
  induction as generalizing s with
  | nil =>
      rcases hstart with hstart | ⟨a, ha, -⟩
      · exact hstart
      · cases ha
  | cons a as ih =>
      have hwrite' : ∀ s, ∀ b ∈ as, hit b → get (step s b) = y := by
        intro s b hb
        exact hwrite s b (List.mem_cons_of_mem _ hb)
      rw [List.foldl_cons]
      apply ih hwrite'
      by_cases ha : hit a
      · exact Or.inl (hwrite s a List.mem_cons_self ha)
      · rcases hstart with hstart | ⟨b, hb, hhit⟩
        · exact Or.inl ((hskip s a ha).trans hstart)
        · rcases List.mem_cons.mp hb with rfl | hb
          · exact absurd hhit ha
          · exact Or.inr ⟨b, hb, hhit⟩

/-- A variable that no record writes keeps its value. -/
theorem get_foldl_of_no_hit (get : σ → β) (hit : α → Prop) {step : σ → α → σ} {as : List α}
    (hskip : ∀ s a, ¬hit a → get (step s a) = get s) (hnone : ∀ a ∈ as, ¬hit a) (s : σ) :
    get (as.foldl step s) = get s :=
  get_foldl get hit hskip (fun _ a ha hhit => absurd hhit (hnone a ha)) (Or.inl rfl)

/-- Of the records that write a variable the last one counts. -/
theorem get_foldl_findRev? (get : σ → β) (hit : α → Bool) (value : α → β) {step : σ → α → σ}
    (hstep : ∀ s a, get (step s a) = if hit a then value a else get s) (as : List α) (s : σ) :
    get (as.foldl step s) = (as.findRev? hit).elim (get s) value := by
  induction as generalizing s with
  | nil => rfl
  | cons a as ih =>
      rw [List.foldl_cons, ih, hstep, List.findRev?]
      cases as.findRev? hit with
      | some b => rfl
      | none => cases hit a <;> rfl

/-- A loop that stores a value for the one record that matches finds that
record. -/
theorem foldl_eq_find? {p : α → Bool} {value : α → β} {as : List α}
    (hunique : ∀ a ∈ as, ∀ b ∈ as, p a = true → p b = true → a = b) (s : β) :
    as.foldl (fun s a => if p a then value a else s) s = (as.find? p).elim s value := by
  have hskip : ∀ (s : β) a, ¬p a = true → (if p a then value a else s) = s := fun s a h => if_neg h
  cases hfind : as.find? p with
  | none =>
      have hnone := List.find?_eq_none.mp hfind
      exact get_foldl_of_no_hit id (p · = true) hskip hnone s
  | some b =>
      have hb := List.mem_of_find?_eq_some hfind
      have hpb := List.find?_some hfind
      refine get_foldl id (p · = true) hskip ?_ (Or.inr ⟨b, hb, hpb⟩)
      intro s a ha hpa
      have hvalue : (if p a then value a else s) = value b := by
        rw [if_pos hpa, hunique a ha b hb hpa hpb]
      exact hvalue

/-- Records that are read one by one are read as a list. -/
theorem mapM_of_forall₂ {read : α → Option β} {as : List α} {bs : List β}
    (h : List.Forall₂ (fun a b => read a = some b) as bs) : as.mapM read = some bs := by
  induction h with
  | nil => rfl
  | cons hread _ ih => simp [List.mapM_cons, hread, ih]

/-- Two loops over matching records keep a relation that each pair of steps
keeps. -/
theorem foldl_rel {τ : Type v} {γ : Type w} {Q : α → γ → Prop} {P : σ → τ → Prop}
    {f : σ → α → σ} {g : τ → γ → τ} {as : List α} {cs : List γ} (h : List.Forall₂ Q as cs)
    (hstep : ∀ s t a c, a ∈ as → Q a c → P s t → P (f s a) (g t c)) {s : σ} {t : τ}
    (hstart : P s t) : P (as.foldl f s) (cs.foldl g t) := by
  induction h generalizing s t with
  | nil => exact hstart
  | cons hac _ ih =>
      apply ih
      · intro s t a c ha
        exact hstep s t a c (List.mem_cons_of_mem _ ha)
      · exact hstep s t _ _ List.mem_cons_self hac hstart

end DynamicGre.Folds
