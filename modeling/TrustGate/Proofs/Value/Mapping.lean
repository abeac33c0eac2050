import TrustGate.Probe.Run
import Mathlib.Data.List.Nodup

/-!
# Mappings with texts as keys

Ordered mappings are lists of entries in which no key stands twice.  With texts as keys two keys
are the same only if they are equal, so a mapping is known by what it has for each of its keys:

    m.get? key          the value of a key
    m.set key v         the mapping with one entry changed or added
    m.update top        the mapping with all entries of another put on top

    (m.update top).get? key = (top.get? key).or (m.get? key)      (get?_update)
-/

namespace TrustGate

/-! ## Setting an entry -/

theorem lookup_map_snd {α β γ : Type} [BEq α] (f : β → γ) (a : α) (l : List (α × β)) :
    (l.map fun e => (e.1, f e.2)).lookup a = (l.lookup a).map f := by
  induction l with
  | nil => rfl
  | cons e l ih =>
    rw [List.map_cons, List.lookup_cons, List.lookup_cons, ih]
    cases a == e.1 <;> rfl

section

variable {κ α : Type} [BEq κ] [LawfulBEq κ]

/-- A key that is there keeps its place; a new one comes last. -/
theorem keys_setEntry (key : κ) (v : α) (l : List (κ × α)) :
    (setEntry (· == ·) key v l).map Prod.fst =
      if (l.map Prod.fst).contains key then l.map Prod.fst else l.map Prod.fst ++ [key] := by
  induction l with
  | nil => rfl
  | cons e rest ih =>
    obtain ⟨k, x⟩ := e
    by_cases h : k = key
    · subst h
      simp [setEntry]
    · have hne : (key == k) = false := by simpa using Ne.symm h
      simp only [setEntry, beq_eq_false_iff_ne.mpr h, Bool.false_eq_true, if_false, List.map_cons,
        List.contains_cons, hne, Bool.false_or, ih]
      split <;> rfl

theorem nodup_setEntry (key : κ) (v : α) {l : List (κ × α)} (h : (l.map Prod.fst).Nodup) :
    ((setEntry (· == ·) key v l).map Prod.fst).Nodup := by
  rw [keys_setEntry]
  split
  · exact h
  · next hnew =>
    have hnew : key ∉ l.map Prod.fst := by simpa [List.contains_iff_mem] using hnew
    exact List.nodup_append.mpr ⟨h, List.nodup_singleton key, fun a ha b hb hab => by
      rw [List.mem_singleton.mp hb] at hab
      exact hnew (hab ▸ ha)⟩

theorem lookup_setEntry (key other : κ) (v : α) (l : List (κ × α)) :
    (setEntry (· == ·) key v l).lookup other = if other == key then some v else l.lookup other := by
  induction l with
  | nil => by_cases ho : (other == key) = true <;> simp [setEntry, List.lookup_cons, ho]
  | cons e rest ih =>
    obtain ⟨k, x⟩ := e
    by_cases h : k = key
    · subst h
      by_cases ho : (other == k) = true <;> simp [setEntry, List.lookup_cons, ho]
    · have hne : (k == key) = false := beq_eq_false_iff_ne.mpr h
      simp only [setEntry, hne, Bool.false_eq_true, if_false, List.lookup_cons, ih]
      by_cases ho : other = k
      · subst ho
        simp [h]
      · rw [beq_eq_false_iff_ne.mpr ho]

/-- What a list without repeated keys has for a key. -/
theorem lookup_eq_some_iff_mem {l : List (κ × α)} (h : (l.map Prod.fst).Nodup) {key : κ} {v : α} :
    l.lookup key = some v ↔ (key, v) ∈ l := by
  induction l with
  | nil => simp
  | cons e rest ih =>
    obtain ⟨k, x⟩ := e
    rw [List.map_cons, List.nodup_cons] at h
    rw [List.lookup_cons, List.mem_cons]
    by_cases hk : key = k
    · subst hk
      have habsent : (key, v) ∉ rest := fun hmem => h.1 (List.mem_map.mpr ⟨_, hmem, rfl⟩)
      simp [habsent, eq_comm]
    · rw [beq_eq_false_iff_ne.mpr hk]
      simp [hk, ih h.2]

theorem lookup_eq_none_of_not_mem {l : List (κ × α)} {key : κ} (h : key ∉ l.map Prod.fst) :
    l.lookup key = none := by
  rw [List.lookup_eq_none_iff]
  intro p hp
  rw [bne_iff_ne]
  rintro rfl
  exact h (List.mem_map_of_mem hp)

end

/-! ## Mappings -/

/-- An ordered mapping whose keys are texts, none of them twice. -/
structure Mapping where
  pairs : List (String × Value)
  distinct : (pairs.map Prod.fst).Nodup

namespace Mapping

/-- The mapping as it is handed in. -/
def entries (m : Mapping) : List (Value × Value) := m.pairs.map fun p => (.text p.1, p.2)

def get? (m : Mapping) (key : String) : Option Value := m.pairs.lookup key

theorem get?_eq_some_iff {m : Mapping} {key : String} {v : Value} :
    m.get? key = some v ↔ (key, v) ∈ m.pairs := lookup_eq_some_iff_mem m.distinct

def set (m : Mapping) (key : String) (v : Value) : Mapping where
  pairs := setEntry (· == ·) key v m.pairs
  distinct := nodup_setEntry key v m.distinct

/-- Texts are the same key only if they are equal. -/
theorem entries_set (m : Mapping) (key : String) (v : Value) :
    (m.set key v).entries = setEntry Value.sameKey (.text key) v m.entries := by
  show (setEntry (· == ·) key v m.pairs).map _ = setEntry _ _ v (m.pairs.map _)
  induction m.pairs with
  | nil => rfl
  | cons p rest ih =>
    obtain ⟨k, x⟩ := p
    have hsame : Value.sameKey (.text k) (.text key) = (k == key) := by
      simp only [Value.sameKey]
    simp only [setEntry, List.map_cons, hsame]
    split
    · rfl
    · rw [List.map_cons, ih]

theorem get?_set (m : Mapping) (key other : String) (v : Value) :
    (m.set key v).get? other = if other = key then some v else m.get? other := by
  simp [get?, set, lookup_setEntry]

/-- The mapping with the entries of another put on top. -/
def update (m top : Mapping) : Mapping := top.pairs.foldl (fun m p => m.set p.1 p.2) m

theorem entries_update (m top : Mapping) :
    (m.update top).entries = Probe.putOnTop m.entries top.entries := by
  have hfold (pairs : List (String × Value)) (m : Mapping) :
      (pairs.foldl (fun m p => m.set p.1 p.2) m).entries =
        Probe.putOnTop m.entries (pairs.map fun p => (.text p.1, p.2)) := by
    induction pairs generalizing m with
    | nil => rfl
    | cons p rest ih =>
      rw [List.foldl_cons, ih, entries_set]
      rfl
  exact hfold top.pairs m

/-- What is put on top counts, and else what was there before. -/
theorem get?_update (m top : Mapping) (key : String) :
    (m.update top).get? key = (top.get? key).or (m.get? key) := by
  have hfold (pairs : List (String × Value)) (hdistinct : (pairs.map Prod.fst).Nodup)
      (m : Mapping) : (pairs.foldl (fun m p => m.set p.1 p.2) m).get? key =
        (pairs.lookup key).or (m.get? key) := by
    induction pairs generalizing m with
    | nil => rfl
    | cons p rest ih =>
      obtain ⟨k, v⟩ := p
      rw [List.map_cons, List.nodup_cons] at hdistinct
      rw [List.foldl_cons, ih hdistinct.2, get?_set, List.lookup_cons]
      by_cases hk : key = k
      · -- no later entry has the key again
        subst hk
        simp [lookup_eq_none_of_not_mem hdistinct.1]
      · simp [hk, beq_eq_false_iff_ne.mpr hk]
  exact hfold top.pairs top.distinct m

end Mapping

end TrustGate
