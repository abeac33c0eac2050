import TrustGate.Proofs.Value.Mapping
import Mathlib.Data.List.Induction

/-!
# Mappings made from pairs

Of pairs with the same key the last one counts, in the place of the first:

    LastWins R pairs entries      one entry a key, its value told by `R` from the last one set

This is what setting the pairs one after the other comes to (lastWins_ofEntries), also when only
the pairs with certain keys are kept (filter_ofEntries).
-/

namespace TrustGate

section

variable {κ α β : Type} [BEq κ] [LawfulBEq κ]

/-- Each key of the pairs has one entry, in the order in which the keys first come; its value
stands in the relation to the one that comes last. -/
structure LastWins (R : α → β → Prop) (pairs : List (κ × α)) (entries : List (κ × β)) : Prop where
  keys : entries.map Prod.fst = (pairs.map Prod.fst).eraseDups
  last : ∀ key, Option.Rel R (pairs.reverse.lookup key) (entries.lookup key)

omit [LawfulBEq κ] in
theorem ofEntries_concat (pairs : List (κ × α)) (key : κ) (v : α) :
    ofEntries (· == ·) (pairs ++ [(key, v)]) =
      setEntry (· == ·) key v (ofEntries (· == ·) pairs) := by
  rw [ofEntries, List.foldl_append]
  rfl

theorem keys_ofEntries (pairs : List (κ × α)) :
    (ofEntries (· == ·) pairs).map Prod.fst = (pairs.map Prod.fst).eraseDups := by
  induction pairs using List.reverseRecOn with
  | nil => rfl
  | append_singleton pairs p ih =>
    obtain ⟨key, v⟩ := p
    rw [ofEntries_concat, keys_setEntry, ih, List.map_append, List.map_singleton,
      List.eraseDups_append]
    simp only [List.removeAll, List.filter_singleton, List.contains_iff_mem, List.mem_eraseDups]
    by_cases hkey : key ∈ pairs.map Prod.fst
    · simp [hkey]
    · simp [hkey, List.eraseDups_cons]

theorem ofEntries_eq_nil_iff {pairs : List (κ × α)} :
    ofEntries (· == ·) pairs = [] ↔ pairs = [] := by
  rw [← List.map_eq_nil_iff (f := Prod.fst), keys_ofEntries]
  cases pairs <;> simp [List.eraseDups_cons]

theorem lookup_ofEntries (pairs : List (κ × α)) (key : κ) :
    (ofEntries (· == ·) pairs).lookup key = pairs.reverse.lookup key := by
  induction pairs using List.reverseRecOn with
  | nil => rfl
  | append_singleton pairs p ih =>
    obtain ⟨k, v⟩ := p
    rw [ofEntries_concat, lookup_setEntry, ih, List.reverse_append, List.reverse_singleton,
      List.singleton_append, List.lookup_cons]
    cases key == k <;> rfl

theorem nodup_ofEntries (pairs : List (κ × α)) :
    ((ofEntries (· == ·) pairs).map Prod.fst).Nodup := by
  induction pairs using List.reverseRecOn with
  | nil => exact List.nodup_nil
  | append_singleton pairs p ih =>
    obtain ⟨key, v⟩ := p
    rw [ofEntries_concat]
    exact nodup_setEntry key v ih

theorem mem_ofEntries_iff {pairs : List (κ × α)} {key : κ} {v : α} :
    (key, v) ∈ ofEntries (· == ·) pairs ↔ pairs.reverse.lookup key = some v := by
  rw [← lookup_ofEntries, lookup_eq_some_iff_mem (nodup_ofEntries pairs)]

theorem mem_of_lookup_reverse {pairs : List (κ × α)} {key : κ} {v : α}
    (h : pairs.reverse.lookup key = some v) : (key, v) ∈ pairs := by
  obtain ⟨before, after, hpairs, -⟩ := List.lookup_eq_some_iff.mp h
  have hmem : (key, v) ∈ pairs.reverse := hpairs ▸ List.mem_append_right _ List.mem_cons_self
  exact List.mem_reverse.mp hmem

omit [LawfulBEq κ] in
/-- Setting pairs whose values are changed is changing the values of what is set. -/
theorem ofEntries_map_snd (f : α → β) (pairs : List (κ × α)) :
    ofEntries (· == ·) (pairs.map fun p => (p.1, f p.2)) =
      (ofEntries (· == ·) pairs).map fun p => (p.1, f p.2) := by
  induction pairs using List.reverseRecOn with
  | nil => rfl
  | append_singleton pairs p ih =>
    have hset (key : κ) (v : α) (l : List (κ × α)) :
        setEntry (· == ·) key (f v) (l.map fun p => (p.1, f p.2)) =
          (setEntry (· == ·) key v l).map fun p => (p.1, f p.2) := by
      induction l with
      | nil => rfl
      | cons e l ih =>
        simp only [List.map_cons, setEntry, ih]
        split <;> rfl
    rw [List.map_append, List.map_singleton, ofEntries_concat, ofEntries_concat, ih, hset]

theorem filter_setEntry (keep : κ → Bool) (key : κ) (v : α) (l : List (κ × α)) :
    (setEntry (· == ·) key v l).filter (fun p => keep p.1) =
      if keep key then setEntry (· == ·) key v (l.filter fun p => keep p.1)
      else l.filter fun p => keep p.1 := by
  induction l with
  | nil => cases h : keep key <;> simp [setEntry, h]
  | cons e l ih =>
    obtain ⟨k, x⟩ := e
    by_cases hk : k = key
    · subst hk
      cases h : keep k <;> simp [setEntry, h]
    · have hne : (k == key) = false := beq_eq_false_iff_ne.mpr hk
      cases h : keep k <;> cases h' : keep key <;> simp_all [setEntry]

/-- Keeping certain keys of what is set is setting the pairs with those keys. -/
theorem filter_ofEntries (keep : κ → Bool) (pairs : List (κ × α)) :
    (ofEntries (· == ·) pairs).filter (fun p => keep p.1) =
      ofEntries (· == ·) (pairs.filter fun p => keep p.1) := by
  induction pairs using List.reverseRecOn with
  | nil => rfl
  | append_singleton pairs p ih =>
    obtain ⟨key, v⟩ := p
    rw [ofEntries_concat, filter_setEntry, ih, List.filter_append]
    cases h : keep key
    · simp [h]
    · simp [h, ofEntries_concat]

theorem lastWins_ofEntries {R : α → β → Prop} {f : α → β} {pairs : List (κ × α)}
    (h : ∀ p ∈ pairs, R p.2 (f p.2)) :
    LastWins R pairs ((ofEntries (· == ·) pairs).map fun p => (p.1, f p.2)) := by
  refine ⟨?_, fun key => ?_⟩
  · rw [List.map_map]
    exact keys_ofEntries pairs
  · rw [lookup_map_snd, lookup_ofEntries]
    cases hkey : pairs.reverse.lookup key with
    | none => exact .none
    | some v => exact .some (h (key, v) (mem_of_lookup_reverse hkey))

end

end TrustGate
