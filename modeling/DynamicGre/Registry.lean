import Mathlib.Tactic

/-!
What a dynamic gateway is for: a registry that holds a tunnel under each name,
where a request puts its tunnel under its name. Clients are told apart by
the endpoint of their tunnel.
-/

namespace DynamicGre

universe u v w

abbrev Registry (ν : Type u) (τ : Type v) := ν → Option τ

namespace Registry

variable {ν : Type u} {τ : Type v} {π : Type w} (endpoint : τ → π)

def endpoints (r : Registry ν τ) : Set π := {p | ∃ n, ∃ t ∈ r n, endpoint t = p}

/-- No two names hold tunnels to the same endpoint. -/
def Unique (r : Registry ν τ) : Prop :=
  ∀ n n' t t', t ∈ r n → t' ∈ r n' → endpoint t = endpoint t' → n = n'

variable {endpoint}

theorem unique_of_empty {r : Registry ν τ} (h : ∀ n, r n = none) : Unique endpoint r := by
  intro n n' t t' ht
  rw [h n] at ht
  cases ht

variable [DecidableEq ν]

def serve (r : Registry ν τ) (n : ν) (t : τ) : Registry ν τ := Function.update r n (some t)

@[simp] theorem serve_self (r : Registry ν τ) (n : ν) (t : τ) : r.serve n t n = some t := by
  rw [serve, Function.update_self]

theorem serve_of_ne (r : Registry ν τ) {n m : ν} (t : τ) (h : m ≠ n) : r.serve n t m = r m := by
  rw [serve, Function.update_of_ne h]

/-- Serving a client its own tunnel again changes nothing. -/
theorem serve_eq_self {r : Registry ν τ} {n : ν} {t : τ} (h : r n = some t) : r.serve n t = r := by
  rw [serve, ← h, Function.update_eq_self]

theorem mem_endpoints_serve {r : Registry ν τ} {n : ν} {t : τ} {p : π} :
    p ∈ endpoints endpoint (r.serve n t) ↔
      p = endpoint t ∨ ∃ m, m ≠ n ∧ ∃ t' ∈ r m, endpoint t' = p := by
  constructor
  · rintro ⟨m, t', ht', hp⟩
    by_cases hm : m = n
    · rw [hm, serve_self] at ht'
      rw [← Option.some.inj ht'] at hp
      exact Or.inl hp.symm
    · rw [serve_of_ne r t hm] at ht'
      exact Or.inr ⟨m, hm, t', ht', hp⟩
  · rintro (rfl | ⟨m, hm, t', ht', hp⟩)
    · exact ⟨n, t, serve_self r n t, rfl⟩
    · exact ⟨m, t', by rwa [serve_of_ne r t hm], hp⟩

/-- A request from an endpoint without a tunnel keeps the endpoints apart,
whichever tunnel stood under its name. -/
theorem unique_serve {r : Registry ν τ} (h : Unique endpoint r) {n : ν} {t : τ}
    (hfresh : endpoint t ∉ endpoints endpoint r) : Unique endpoint (r.serve n t) := by
  have hother {m : ν} {t' : τ} (hm : m ≠ n) (ht' : t' ∈ r.serve n t m) :
      t' ∈ r m ∧ endpoint t' ≠ endpoint t := by
    rw [serve_of_ne r t hm] at ht'
    exact ⟨ht', fun heq => hfresh ⟨m, t', ht', heq⟩⟩
  have hself {t' : τ} (ht' : t' ∈ r.serve n t n) : t' = t := by
    rw [serve_self] at ht'
    exact (Option.some.inj ht').symm
  intro m m' a a' ha ha' heq
  by_cases hm : m = n <;> by_cases hm' : m' = n
  · rw [hm, hm']
  · subst hm
    obtain ⟨-, hne⟩ := hother hm' ha'
    rw [hself ha] at heq
    exact absurd heq.symm hne
  · subst hm'
    obtain ⟨-, hne⟩ := hother hm ha
    rw [hself ha'] at heq
    exact absurd heq hne
  · exact h m m' a a' (hother hm ha).1 (hother hm' ha').1 heq

/-- Requests served one after another. -/
def serveAll (r : Registry ν τ) (requests : List (ν × τ)) : Registry ν τ :=
  requests.foldl (fun r request => r.serve request.1 request.2) r

@[simp] theorem serveAll_cons (r : Registry ν τ) (request : ν × τ) (requests : List (ν × τ)) :
    r.serveAll (request :: requests) = (r.serve request.1 request.2).serveAll requests := rfl

/-- Every tunnel in the end was there before or was asked for. -/
theorem mem_or_mem_of_serveAll {r : Registry ν τ} {requests : List (ν × τ)} {n : ν} {t : τ}
    (h : t ∈ r.serveAll requests n) : t ∈ r n ∨ (n, t) ∈ requests := by
  induction requests generalizing r with
  | nil => exact Or.inl h
  | cons request requests ih =>
      rw [serveAll_cons] at h
      rcases ih h with hserved | hlater
      · by_cases hn : n = request.1
        · subst hn
          rw [serve_self] at hserved
          have hrequest : (request.1, t) = request := congrArg _ (Option.some.inj hserved).symm
          exact Or.inr (hrequest ▸ List.mem_cons_self)
        · rw [serve_of_ne _ _ hn] at hserved
          exact Or.inl hserved
      · exact Or.inr (List.mem_cons_of_mem _ hlater)

/-- Under a name that is only asked for one tunnel, that tunnel stays. -/
theorem serveAll_of_mem {r : Registry ν τ} {requests : List (ν × τ)} {n : ν} {t : τ}
    (hsame : ∀ t', (n, t') ∈ requests → t' = t) (h : t ∈ r n ∨ (n, t) ∈ requests) :
    t ∈ r.serveAll requests n := by
  induction requests generalizing r with
  | nil =>
      rcases h with hbefore | hasked
      · exact hbefore
      · cases hasked
  | cons request requests ih =>
      have hsame' : ∀ t', (n, t') ∈ requests → t' = t := by
        intro t' ht'
        exact hsame t' (List.mem_cons_of_mem _ ht')
      rw [serveAll_cons]
      apply ih hsame'
      by_cases hn : n = request.1
      · subst hn
        rw [serve_self, hsame request.2 List.mem_cons_self]
        exact Or.inl rfl
      · rw [serve_of_ne _ _ hn]
        rcases h with hbefore | hasked
        · exact Or.inl hbefore
        · rcases List.mem_cons.mp hasked with hrequest | hlater
          · exact absurd (congrArg Prod.fst hrequest) hn
          · exact Or.inr hlater

end Registry

end DynamicGre
