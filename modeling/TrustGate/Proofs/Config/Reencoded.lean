import TrustGate.Proofs.Config.Accepted

/-!
# Configurations as mappings again

The fields of an accepted configuration are a mapping that is accepted in its turn, and as the same
configuration.  Entries of the mapping that it came from may stand on top of them, since a field
keeps one value for what was given and for what it made of it:

    decode m.entries = .ok c → top.pairs ⊆ m.pairs →
      decode (c.mapping.update top).entries = .ok c                    (decode_restored)
-/

namespace TrustGate.Config

/-- A mapping agrees with what it stands for, entry by entry. -/
theorem isOver_of_subset {m top : Mapping} {c base : Config} (h : c.IsOver base m)
    (hsub : top.pairs ⊆ m.pairs) : c.IsOver c top := by
  intro f
  cases hget : top.get? f.name with
  | none => rfl
  | some v =>
    have hmem : (f.name, v) ∈ m.pairs := hsub (Mapping.get?_eq_some_iff.mp hget)
    rw [h f, Mapping.get?_eq_some_iff.mpr hmem]
    rfl

/-- Entries that a configuration came from change nothing when they are put back. -/
theorem decode_restored {m top : Mapping} {c : Config} (h : decode m.entries = .ok c)
    (hsub : top.pairs ⊆ m.pairs) : decode (c.mapping.update top).entries = .ok c := by
  obtain ⟨htyped, hover⟩ := decode_eq_ok_iff.mp h
  have htop : top.Typed := fun key v hmem => htyped key v (hsub hmem)
  exact (decode_update (mapping_stands h)).mpr ⟨htop, isOver_of_subset hover hsub⟩

/-- A mapping that was accepted is accepted again as all fields of its configuration, and so are
these with any of the entries that were given put back on top.  The configuration stays the same. -/
theorem reencoded_accepted {π τ : Type} [Platform π τ] (m : Mapping) (c : Config) (w w' : World π τ)
    (h : ofEntries m.entries w = .ok c w') (v : World π τ) (hfiles : v.files = w.files) :
    (∃ u, ofEntries c.entries v = .ok c u) ∧
      ∀ top : Mapping, top.pairs ⊆ m.pairs →
        ∃ u, ofEntries (Probe.putOnTop c.entries top.entries) v = .ok c u := by
  obtain ⟨hdecode, hprovided⟩ := accepted_iff.mp ⟨w', h⟩
  rw [← hfiles] at hprovided
  constructor
  · rw [← entries_mapping]
    exact accepted_iff.mpr ⟨mapping_stands hdecode, hprovided⟩
  · intro top hsub
    rw [← entries_mapping, ← Mapping.entries_update]
    exact accepted_iff.mpr ⟨decode_restored hdecode hsub, hprovided⟩

/-- A timeout in whole seconds, one that never ends, and a file of anchors. -/
def wholeSeconds : Mapping where
  pairs := [("connect_timeout", .int 5), ("so_timeout", .float Decimal.infinity),
    ("cafile", .text "ca.pem")]
  distinct := by decide

/-- The whole seconds have become a double, and may be put back on top of it. -/
theorem reencoded_accepted_whole_seconds :
    ∃ c : Config, c.connectTimeout = .float (Decimal.ofInt 5) ∧
      (∃ u, ofEntries wholeSeconds.entries emptyAnchors = .ok c u) ∧
      (∃ u, ofEntries c.entries emptyAnchors = .ok c u) ∧
      ∃ u, ofEntries (Probe.putOnTop c.entries [(.text "connect_timeout", .int 5)]) emptyAnchors =
        .ok c u := by
  let c : Config := { default with
    connectTimeout := .float (Decimal.ofInt 5), soTimeout := .float Decimal.infinity,
    cafile := some "ca.pem" }
  have htyped : wholeSeconds.Typed := by
    intro key v hmem
    simp only [wholeSeconds, List.mem_cons, Prod.mk.injEq, List.not_mem_nil, or_false] at hmem
    rcases hmem with ⟨rfl, rfl⟩ | ⟨rfl, rfl⟩ | ⟨rfl, rfl⟩
    · exact ⟨.connectTimeout, rfl, .whole (by decide +kernel) (by decide)⟩
    · exact ⟨.soTimeout, rfl, .inr (.real (by decide))⟩
    · exact ⟨.cafile, rfl, .inr ⟨"ca.pem", rfl⟩⟩
  have hover : c.IsOver .default wholeSeconds := by
    intro f
    cases f <;> rfl
  have hprovided : c.Provided emptyAnchors.files := by
    refine ⟨.inl rfl, ⟨?_, ?_, ?_⟩, ?_⟩
    · rintro key ⟨⟩
    · rintro path ⟨⟩
    · rintro path ⟨⟩
    · rintro path ⟨⟩
      exact ⟨rfl, by decide⟩
  obtain ⟨w, hc⟩ := accepted_iff.mpr ⟨decode_eq_ok_iff.mpr ⟨htyped, hover⟩, hprovided⟩
  let top : Mapping := ⟨[("connect_timeout", .int 5)], by decide⟩
  have hsub : top.pairs ⊆ wholeSeconds.pairs := List.cons_subset_cons _ (List.nil_subset _)
  obtain ⟨hagain, htop⟩ := reencoded_accepted wholeSeconds c emptyAnchors w hc emptyAnchors rfl
  exact ⟨c, rfl, ⟨w, hc⟩, hagain, htop top hsub⟩

end TrustGate.Config
