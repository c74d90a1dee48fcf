import DynamicGre.Runs

/-!
Objects that a program allocates, accesses and frees. An access to an object
that is not live has no result, nor has freeing one. A triple says which objects
a computation is given, what it returns, which of them it hands back and the
kinds of those that nobody holds any more; all other objects stay as they are.
-/

namespace DynamicGre.Ownership

universe u

/-- The live objects with their handles; `next` is the handle of the next one. -/
structure Heap (κ : Type u) where
  next : Nat
  live : List (Nat × κ)
  fresh : ∀ object ∈ live, object.1 < next
  nodup : live.Nodup

namespace Heap

variable {κ : Type u}

def empty : Heap κ where
  next := 0
  live := []
  fresh := fun _ h => nomatch h
  nodup := List.nodup_nil

def push (h : Heap κ) (kind : κ) : Heap κ where
  next := h.next + 1
  live := (h.next, kind) :: h.live
  fresh := by
    intro object hobject
    rcases List.mem_cons.mp hobject with rfl | hold
    · exact Nat.lt_succ_self h.next
    · exact Nat.lt_succ_of_lt (h.fresh object hold)
  nodup := by
    refine List.nodup_cons.mpr ⟨?_, h.nodup⟩
    intro hmem
    exact absurd (h.fresh _ hmem) (Nat.lt_irrefl h.next)

def remove [DecidableEq κ] (h : Heap κ) (object : Nat × κ) : Heap κ where
  next := h.next
  live := h.live.erase object
  fresh := fun other hother => h.fresh other (List.mem_of_mem_erase hother)
  nodup := h.nodup.erase object

end Heap

/-- A computation that stops where it touches an object that is not live. -/
abbrev Owned (κ : Type u) (α : Type u) := StateT (Heap κ) Option α

section Operations

variable {κ : Type} [DecidableEq κ]

def alloc (kind : κ) : Owned κ Nat := fun h => some (h.next, h.push kind)

def access (kind : κ) (handle : Nat) : Owned κ Unit := fun h =>
  if (handle, kind) ∈ h.live then some ((), h) else none

def free (kind : κ) (handle : Nat) : Owned κ Unit := fun h =>
  if (handle, kind) ∈ h.live then some ((), h.remove (handle, kind)) else none

end Operations

/-- Given the objects `pre` and any others, `x` returns `a` and leaves `post`
and the others, and objects of the kinds `lost` besides. -/
def Triple {κ α : Type} (pre : List (Nat × κ)) (x : Owned κ α) (a : α) (post : List (Nat × κ))
    (lost : List κ) : Prop :=
  ∀ (h : Heap κ) (others : List (Nat × κ)), h.live.Perm (pre ++ others) →
    ∃ later stray, x h = some (a, later) ∧ stray.map Prod.snd = lost ∧
      later.live.Perm (stray ++ (post ++ others))

section Rules

variable {κ α β σ ε : Type} {pre mid post : List (Nat × κ)} {lost lost' : List κ}
  {object : Nat × κ} {kind : κ} {handle : Nat}

theorem triple_pure (a : α) : Triple pre (pure a) a pre [] := by
  intro h others hlive
  exact ⟨h, [], rfl, rfl, hlive⟩

theorem Triple.bind {x : Owned κ α} {f : α → Owned κ β} {a : α} {b : β}
    (hx : Triple pre x a mid lost) (hf : Triple mid (f a) b post lost') :
    Triple pre (x >>= f) b post (lost ++ lost') := by
  intro h others hlive
  obtain ⟨between, stray, hrun, hlost, hbetween⟩ := hx h others hlive
  have hmid : between.live.Perm (mid ++ (stray ++ others)) := by
    refine hbetween.trans ?_
    rw [← List.append_assoc, ← List.append_assoc]
    exact List.perm_append_comm.append_right others
  obtain ⟨later, stray', hrun', hlost', hlater⟩ := hf between (stray ++ others) hmid
  refine ⟨later, stray ++ stray', ?_, by rw [List.map_append, hlost, hlost'], ?_⟩
  · change (x h).bind (fun p => f p.1 p.2) = _
    rw [hrun]
    exact hrun'
  · refine hlater.trans ?_
    have hswap : (post ++ (stray ++ others)).Perm (stray ++ (post ++ others)) := by
      rw [← List.append_assoc, ← List.append_assoc]
      exact List.perm_append_comm.append_right others
    refine (hswap.append_left stray').trans ?_
    rw [← List.append_assoc]
    exact List.perm_append_comm.append_right _

/-- A first step that loses nothing. -/
theorem Triple.next {x : Owned κ α} {f : α → Owned κ β} {a : α} {b : β}
    (hx : Triple pre x a mid []) (hf : Triple mid (f a) b post lost) :
    Triple pre (x >>= f) b post lost := hx.bind hf

/-- A last step that loses nothing. -/
theorem Triple.last {x : Owned κ α} {f : α → Owned κ β} {a : α} {b : β}
    (hx : Triple pre x a mid lost) (hf : Triple mid (f a) b post []) :
    Triple pre (x >>= f) b post lost := by
  have hboth := hx.bind hf
  rwa [List.append_nil] at hboth

/-- What is held at an exit is left to nobody. -/
theorem triple_abandon (a : α) : Triple pre (pure a) a [] (pre.map Prod.snd) := by
  intro h others hlive
  exact ⟨h, pre, rfl, rfl, hlive⟩

theorem triple_alloc {f : Nat → Owned κ β} {b : β}
    (hf : ∀ handle, Triple ((handle, kind) :: pre) (f handle) b post lost) :
    Triple pre (alloc kind >>= f) b post lost := by
  intro h others hlive
  exact hf h.next (h.push kind) others (hlive.cons _)

/-- A new object that nobody holds in the end is lost. -/
theorem triple_alloc_lost {f : Nat → Owned κ β} {b : β}
    (hf : ∀ handle, Triple ((handle, kind) :: pre) (f handle) b ((handle, kind) :: post) []) :
    Triple pre (alloc kind >>= f) b post [kind] := by
  intro h others hlive
  obtain ⟨later, stray, hrun, hlost, hlater⟩ := hf h.next (h.push kind) others (hlive.cons _)
  rw [List.map_eq_nil_iff.mp hlost] at hlater
  exact ⟨later, [(h.next, kind)], hrun, rfl, hlater⟩

variable [DecidableEq κ]

theorem triple_access (hmem : (handle, kind) ∈ pre) :
    Triple pre (access kind handle) () pre [] := by
  intro h others hlive
  have hheld : (handle, kind) ∈ h.live := hlive.mem_iff.mpr (List.mem_append_left others hmem)
  exact ⟨h, [], if_pos hheld, rfl, hlive⟩

theorem triple_free : Triple ((handle, kind) :: pre) (free kind handle) () pre [] := by
  intro h others hlive
  have hheld : (handle, kind) ∈ h.live := hlive.mem_iff.mpr List.mem_cons_self
  refine ⟨h.remove (handle, kind), [], if_pos hheld, rfl, ?_⟩
  have herased := hlive.erase (handle, kind)
  rwa [List.cons_append, List.erase_cons_head] at herased

/-- The object to free may stand behind another one. -/
theorem triple_free_second :
    Triple (object :: (handle, kind) :: pre) (free kind handle) () (object :: pre) [] := by
  intro h others hlive
  exact triple_free h others (hlive.trans (List.Perm.swap _ _ _))

omit [DecidableEq κ] in
/-- A loop, from what one round does. -/
theorem triple_foldlM {f : σ → ε → Owned κ σ} {step : σ → ε → σ} {loses : σ → ε → List κ}
    (hstep : ∀ s e, Triple pre (f s e) (step s e) pre (loses s e)) (s : σ) (events : List ε) :
    Triple pre (events.foldlM f s) (Runs.run step s events) pre
      (Runs.collect step loses s events) := by
  induction events generalizing s with
  | nil => exact triple_pure s
  | cons e events ih =>
      rw [List.foldlM_cons]
      exact (hstep s e).bind (ih (step s e))

omit [DecidableEq κ] in
/-- A loop whose rounds lose nothing. -/
theorem triple_loop {f : σ → ε → Owned κ σ} {step : σ → ε → σ}
    (hstep : ∀ s e, Triple pre (f s e) (step s e) pre []) (s : σ) (events : List ε) :
    Triple pre (events.foldlM f s) (Runs.run step s events) pre [] := by
  have hloop := triple_foldlM hstep s events
  rwa [Runs.collect_const, List.flatMap_eq_nil_iff.mpr fun _ _ => rfl] at hloop

end Rules

end DynamicGre.Ownership
