import Mathlib.Tactic

/-!
Lists with at most one entry for each key. `put` replaces the entry of its key
where it stands, or adds one at the end.
-/

namespace DynamicGre

universe u v

structure KeyedList {κ : Type u} {α : Type v} (key : α → κ) where
  entries : List α
  nodup : (entries.map key).Nodup

namespace KeyedList

variable {κ : Type u} {α : Type v} {key : α → κ}

instance : Membership α (KeyedList key) := ⟨fun t a => a ∈ t.entries⟩

theorem mem_def {t : KeyedList key} {a : α} : a ∈ t ↔ a ∈ t.entries := Iff.rfl

/-- Two entries with the same key are the same entry. -/
theorem eq_of_key_eq (t : KeyedList key) {a b : α} (ha : a ∈ t) (hb : b ∈ t)
    (h : key a = key b) : a = b :=
  List.inj_on_of_nodup_map t.nodup ha hb h

variable [DecidableEq κ]

def find? (t : KeyedList key) (k : κ) : Option α := t.entries.find? (key · = k)

theorem find?_eq_some_iff (t : KeyedList key) {k : κ} {a : α} :
    t.find? k = some a ↔ a ∈ t ∧ key a = k := by
  constructor
  · intro h
    exact ⟨List.mem_of_find?_eq_some h, by simpa using List.find?_some h⟩
  · rintro ⟨hmem, hkey⟩
    cases hfind : t.find? k with
    | none =>
        have hnone := List.find?_eq_none.mp hfind a hmem
        simp [hkey] at hnone
    | some b =>
        have hb : key b = k := by simpa using List.find?_some hfind
        have heq := t.eq_of_key_eq (List.mem_of_find?_eq_some hfind) hmem (hb.trans hkey.symm)
        rw [heq]

theorem find?_eq_none_iff (t : KeyedList key) {k : κ} :
    t.find? k = none ↔ ∀ a ∈ t, key a ≠ k := by
  simp [find?, mem_def]

def erase (t : KeyedList key) (k : κ) : KeyedList key where
  entries := t.entries.filter (key · ≠ k)
  nodup := t.nodup.sublist (List.filter_sublist.map key)

@[simp] theorem mem_erase {t : KeyedList key} {k : κ} {a : α} :
    a ∈ t.erase k ↔ a ∈ t ∧ key a ≠ k := by
  simp [mem_def, erase]

/-- An entry under the key of `a` is replaced by `a`. -/
def replace (key : α → κ) (a b : α) : α := if key b = key a then a else b

theorem key_replace (a b : α) : key (replace key a b) = key b := by
  unfold replace
  split
  · rename_i h
    exact h.symm
  · rfl

def put (t : KeyedList key) (a : α) : KeyedList key :=
  if h : key a ∈ t.entries.map key then
    ⟨t.entries.map (replace key a), by
      have hkeys : (t.entries.map (replace key a)).map key = t.entries.map key := by
        rw [List.map_map]
        exact List.map_congr_left fun b _ => key_replace a b
      rw [hkeys]
      exact t.nodup⟩
  else
    ⟨t.entries ++ [a], by
      rw [List.map_append, List.map_singleton]
      exact List.nodup_append_comm.mp (List.nodup_cons.mpr ⟨h, t.nodup⟩)⟩

theorem mem_put {t : KeyedList key} {a b : α} :
    b ∈ t.put a ↔ b = a ∨ (b ∈ t ∧ key b ≠ key a) := by
  unfold put
  split
  · rename_i hkey
    obtain ⟨old, hold, holdkey⟩ := List.mem_map.mp hkey
    change b ∈ t.entries.map (replace key a) ↔ _
    rw [List.mem_map]
    constructor
    · rintro ⟨c, hc, rfl⟩
      by_cases hck : key c = key a
      · exact Or.inl (if_pos hck)
      · rw [replace, if_neg hck]
        exact Or.inr ⟨hc, hck⟩
    · rintro (rfl | ⟨hb, hbk⟩)
      · exact ⟨old, hold, if_pos holdkey⟩
      · exact ⟨b, hb, if_neg hbk⟩
  · rename_i hkey
    change b ∈ t.entries ++ [a] ↔ _
    rw [List.mem_append, List.mem_singleton]
    constructor
    · rintro (hb | rfl)
      · exact Or.inr ⟨hb, fun heq => hkey (List.mem_map.mpr ⟨b, hb, heq⟩)⟩
      · exact Or.inl rfl
    · rintro (rfl | ⟨hb, -⟩)
      · exact Or.inr rfl
      · exact Or.inl hb

theorem mem_put_self (t : KeyedList key) (a : α) : a ∈ t.put a := mem_put.mpr (Or.inl rfl)

end KeyedList

end DynamicGre
