import TrustGate.Proofs.Trust.Judgement

/-!
# Which chains a chain validator accepts

A chain is accepted if its leaf is trusted directly or a verifier vouches for it; either way it
has to be known whom the leaf has to be good for.

    v.Seeks leaf host subject     whom the leaf has to be good for
    v.TrustsLeaf, v.TrustsIssuer  a chain is accepted if and only if its leaf is trusted directly,
                                  or a verifier vouches for it    (accepts_iff)
    v.Undecided w chain host f    the failures that are no rejections, each with the names,
                                  times or host that lead to it   (fails_otherwise_iff)
-/

namespace TrustGate.Trust.ChainValidator

open Net (Subject)

variable {π τ : Type} [Platform π τ] (v : ChainValidator) (w : World π τ)

/-! ## Whom the leaf has to be good for -/

theorem nonempty?_eq_some_iff {host : Option String} {h : String} :
    nonempty? host = some h ↔ host = some h ∧ h ≠ "" := by
  unfold nonempty?
  split
  · constructor
    · intro heq
      cases heq
    · rintro ⟨heq, hne⟩
      cases heq
      exact absurd rfl hne
  · next hne =>
    constructor
    · rintro rfl
      exact ⟨rfl, fun h => hne (by rw [h])⟩
    · exact fun h => h.1

/-- Whom the leaf has to be good for: the host that is asked for or, where host names are not
checked, the first name of the leaf itself, if it has names. -/
inductive Seeks (leaf : Certificate) (host : Option String) : Option Subject → Prop where
  | host {h : String} {s : Subject} (checked : v.checkHostname = true) (given : host = some h)
      (nonempty : h ≠ "") (read : Subject.ofHost h = .ok s) : Seeks leaf host (some s)
  | names {names : List Subject} (unchecked : v.checkHostname = false)
      (read : leaf.leafNames = .ok names) : Seeks leaf host names.head?

/-- It cannot be read whom the leaf has to be good for. -/
inductive SeeksNobody (leaf : Certificate) (host : Option String) (f : Failure) : Prop where
  | host {h : String} (checked : v.checkHostname = true) (given : host = some h)
      (nonempty : h ≠ "") (fault : Subject.ofHost h = .error f)
  | names (unchecked : v.checkHostname = false) (fault : leaf.leafNames = .error f)

/-- Host names are checked, but none is given. -/
def IsHostless (host : Option String) : Prop :=
  v.checkHostname = true ∧ ∀ h, host = some h → h = ""

section

variable {v w}
variable {leaf : Certificate} {rest : List Certificate} {host : Option String}
  {subject : Option Subject} {f : Failure}

theorem seeks_or (leaf : Certificate) (host : Option String) :
    (∃ subject, v.Seeks leaf host subject) ∨ (∃ f, v.SeeksNobody leaf host f) ∨
      v.IsHostless host := by
  cases hcheck : v.checkHostname with
  | false =>
    cases hnames : leaf.leafNames with
    | ok names => exact .inl ⟨_, .names hcheck hnames⟩
    | error f => exact .inr (.inl ⟨f, .names hcheck hnames⟩)
  | true =>
    by_cases hgiven : ∃ h, host = some h ∧ h ≠ ""
    · obtain ⟨h, hsome, hne⟩ := hgiven
      cases hread : Subject.ofHost h with
      | ok s => exact .inl ⟨_, .host hcheck hsome hne hread⟩
      | error f => exact .inr (.inl ⟨f, .host hcheck hsome hne hread⟩)
    · exact .inr (.inr ⟨hcheck, fun h hsome => by_contra fun hne => hgiven ⟨h, hsome, hne⟩⟩)

theorem onChain_of_seeks (h : v.Seeks leaf host subject) :
    v.onChain w (leaf :: rest) host = v.onLeaf w leaf rest subject := by
  unfold onChain
  cases h with
  | host hcheck hsome hne hread =>
    simp only [hcheck, nonempty?_eq_some_iff.mpr ⟨hsome, hne⟩, hread, Judgement.onRead_ok]
  | names hcheck hread =>
    simp only [hcheck, hread, Judgement.onRead_ok]

theorem onChain_of_seeksNobody (h : v.SeeksNobody leaf host f) :
    v.onChain w (leaf :: rest) host = .fails f := by
  unfold onChain
  cases h with
  | host hcheck hsome hne hfault =>
    simp only [hcheck, nonempty?_eq_some_iff.mpr ⟨hsome, hne⟩, hfault, Judgement.onRead_error]
  | names hcheck hfault =>
    simp only [hcheck, hfault, Judgement.onRead_error]

theorem onChain_of_isHostless (h : v.IsHostless host) :
    v.onChain w (leaf :: rest) host = .rejects := by
  unfold onChain
  rw [h.1]
  cases hh : nonempty? host with
  | none => rfl
  | some host =>
    obtain ⟨hsome, hne⟩ := nonempty?_eq_some_iff.mp hh
    exact absurd (h.2 host hsome) hne

theorem onChain_eq_accepts_iff {chain : List Certificate} :
    v.onChain w chain host = .accepts ↔ ∃ leaf rest subject, chain = leaf :: rest ∧
      v.Seeks leaf host subject ∧ v.onLeaf w leaf rest subject = .accepts := by
  constructor
  · intro h
    cases chain with
    | nil => cases h
    | cons leaf rest =>
      rcases v.seeks_or leaf host with ⟨subject, hs⟩ | ⟨f, hs⟩ | hs
      · rw [onChain_of_seeks hs] at h
        exact ⟨leaf, rest, subject, rfl, hs, h⟩
      · rw [onChain_of_seeksNobody hs] at h
        cases h
      · rw [onChain_of_isHostless hs] at h
        cases h
  · rintro ⟨leaf, rest, subject, rfl, hs, h⟩
    rw [onChain_of_seeks hs, h]

theorem onChain_eq_fails_iff_seeks {chain : List Certificate} :
    v.onChain w chain host = .fails f ↔ ∃ leaf rest, chain = leaf :: rest ∧
      (v.SeeksNobody leaf host f ∨
        ∃ subject, v.Seeks leaf host subject ∧ v.onLeaf w leaf rest subject = .fails f) := by
  constructor
  · intro h
    cases chain with
    | nil => cases h
    | cons leaf rest =>
      refine ⟨leaf, rest, rfl, ?_⟩
      rcases v.seeks_or leaf host with ⟨subject, hs⟩ | ⟨g, hs⟩ | hs
      · rw [onChain_of_seeks hs] at h
        exact .inr ⟨subject, hs, h⟩
      · rw [onChain_of_seeksNobody hs] at h
        cases h
        exact .inl hs
      · rw [onChain_of_isHostless hs] at h
        cases h
  · rintro ⟨leaf, rest, rfl, hs | ⟨subject, hs, h⟩⟩
    · exact onChain_of_seeksNobody hs
    · rw [onChain_of_seeks hs, h]

theorem anchor_or_issued (leaf : Certificate) :
    (∃ a ∈ v.anchors, a.octets = leaf.octets) ∨ ∀ a ∈ v.anchors, a.octets ≠ leaf.octets := by
  by_cases h : ∃ a ∈ v.anchors, a.octets = leaf.octets
  · exact .inl h
  · exact .inr fun a ha heq => h ⟨a, ha, heq⟩

theorem onLeaf_of_anchor (h : ∃ a ∈ v.anchors, a.octets = leaf.octets) :
    v.onLeaf w leaf rest subject = v.onAnchor leaf subject (v.present w) :=
  if_pos (v.isAnchor_iff.mpr h)

theorem onLeaf_of_issued (h : ∀ a ∈ v.anchors, a.octets ≠ leaf.octets) :
    v.onLeaf w leaf rest subject =
      match subject with
      | none => .rejects
      | some s => v.onIssued w leaf rest s := by
  refine if_neg fun hanchor => ?_
  obtain ⟨a, ha, heq⟩ := v.isAnchor_iff.mp hanchor
  exact h a ha heq

theorem Seeks.exists_of_checked (h : v.Seeks leaf host subject) (hcheck : v.checkHostname = true) :
    ∃ s, subject = some s := by
  cases h with
  | host => exact ⟨_, rfl⟩
  | names hunchecked =>
    rw [hcheck] at hunchecked
    cases hunchecked

end

/-! ## Chains that are accepted -/

/-- The leaf is an anchor, within its validity, and one of its names covers whom it has to be good
for if host names are checked. -/
structure TrustsLeaf (leaf : Certificate) (subject : Option Subject) : Prop where
  anchor : ∃ a ∈ v.anchors, a.octets = leaf.octets
  valid : leaf.ValidAt (v.present w)
  named : v.checkHostname = true → ∃ s names, subject = some s ∧ leaf.leafNames = .ok names ∧
    ∃ name ∈ names, name.covers s = true

/-- The leaf is no anchor, and a verifier that is bound to whom the leaf has to be good for
accepts it with the rest of the chain, anchors left out. -/
structure TrustsIssuer (leaf : Certificate) (rest : List Certificate) (subject : Option Subject) :
    Prop where
  issued : ∀ a ∈ v.anchors, a.octets ≠ leaf.octets
  vouched : ∃ s, subject = some s ∧ v.buildVerifier w s = .ok () ∧
    (v.prepared w).reply (.verify (v.question w leaf rest s)) = .accepted

section

variable {v w}
variable {leaf : Certificate} {rest : List Certificate} {subject : Option Subject}

theorem onAnchor_eq_accepts_iff {now : Time.DateTime}
    (hsubject : v.checkHostname = true → ∃ s, subject = some s) :
    v.onAnchor leaf subject now = .accepts ↔ leaf.ValidAt now ∧
      (v.checkHostname = true → ∃ s names, subject = some s ∧ leaf.leafNames = .ok names ∧
        ∃ name ∈ names, name.covers s = true) := by
  unfold onAnchor
  rw [Judgement.onRead_eq_accepts_iff]
  constructor
  · rintro ⟨valid, hvalid, h⟩
    cases valid with
    | false => cases h
    | true =>
      refine ⟨isValidAt_eq_true_iff.mp hvalid, fun hcheck => ?_⟩
      obtain ⟨s, rfl⟩ := hsubject hcheck
      rw [hcheck] at h
      obtain ⟨names, hnames, h⟩ := Judgement.onRead_eq_accepts_iff.mp h
      cases hm : Net.matchesAny names s with
      | false =>
        rw [hm] at h
        cases h
      | true => exact ⟨s, names, rfl, hnames, List.any_eq_true.mp hm⟩
  · rintro ⟨hvalid, hnamed⟩
    refine ⟨true, isValidAt_eq_true_iff.mpr hvalid, ?_⟩
    cases hcheck : v.checkHostname with
    | false => rfl
    | true =>
      obtain ⟨s, names, rfl, hnames, hcover⟩ := hnamed hcheck
      refine Judgement.onRead_eq_accepts_iff.mpr ⟨names, hnames, ?_⟩
      rw [show Net.matchesAny names s = true from List.any_eq_true.mpr hcover]
      rfl

theorem onIssued_eq_accepts_iff {s : Subject} :
    v.onIssued w leaf rest s = .accepts ↔ v.buildVerifier w s = .ok () ∧
      (v.prepared w).reply (.verify (v.question w leaf rest s)) = .accepted := by
  unfold onIssued
  rw [Judgement.onRead_eq_accepts_iff]
  constructor
  · rintro ⟨⟨⟩, hbuilt, h⟩
    exact ⟨hbuilt, Judgement.ofVerdict_eq_accepts_iff.mp h⟩
  · rintro ⟨hbuilt, h⟩
    exact ⟨(), hbuilt, Judgement.ofVerdict_eq_accepts_iff.mpr h⟩

theorem onLeaf_eq_accepts_iff (hsubject : v.checkHostname = true → ∃ s, subject = some s) :
    v.onLeaf w leaf rest subject = .accepts ↔
      v.TrustsLeaf w leaf subject ∨ v.TrustsIssuer w leaf rest subject := by
  rcases v.anchor_or_issued leaf with hanchor | hissued
  · rw [onLeaf_of_anchor hanchor, onAnchor_eq_accepts_iff hsubject]
    constructor
    · rintro ⟨hvalid, hnamed⟩
      exact .inl ⟨hanchor, hvalid, hnamed⟩
    · rintro (h | h)
      · exact ⟨h.valid, h.named⟩
      · obtain ⟨a, ha, heq⟩ := hanchor
        exact absurd heq (h.issued a ha)
  · rw [onLeaf_of_issued hissued]
    constructor
    · intro h
      cases subject with
      | none => cases h
      | some s => exact .inr ⟨hissued, s, rfl, onIssued_eq_accepts_iff.mp h⟩
    · rintro (h | h)
      · obtain ⟨a, ha, heq⟩ := h.anchor
        exact absurd heq (hissued a ha)
      · obtain ⟨s, rfl, hvouched⟩ := h.vouched
        exact onIssued_eq_accepts_iff.mpr hvouched

end

/-- A chain validator accepts a chain if and only if it trusts the leaf itself, or a verifier
vouches for the leaf; either way it has to be known whom the leaf has to be good for. -/
theorem accepts_iff (chain : List Certificate) (authType : String) (host : Option String) :
    (∃ w', v.check chain authType host w = .ok () w') ↔
      ∃ leaf rest subject, chain = leaf :: rest ∧ v.Seeks leaf host subject ∧
        (v.TrustsLeaf w leaf subject ∨ v.TrustsIssuer w leaf rest subject) := by
  rw [← judgement_eq_accepts_iff, judgement_check, onChain_eq_accepts_iff]
  constructor
  · rintro ⟨leaf, rest, subject, hchain, hseeks, h⟩
    exact ⟨leaf, rest, subject, hchain, hseeks,
      (onLeaf_eq_accepts_iff hseeks.exists_of_checked).mp h⟩
  · rintro ⟨leaf, rest, subject, hchain, hseeks, h⟩
    exact ⟨leaf, rest, subject, hchain, hseeks,
      (onLeaf_eq_accepts_iff hseeks.exists_of_checked).mpr h⟩

/-! ## Checks that fail otherwise -/

/-- The failures of a check that are no rejections. -/
inductive Undecided (chain : List Certificate) (host : Option String) : Failure → Prop where
  /-- The host that is asked for is no address, and not ASCII. -/
  | foreign {leaf : Certificate} {rest : List Certificate} {h : String} {c : Char}
      (presented : chain = leaf :: rest) (checked : v.checkHostname = true)
      (given : host = some h) (noAddress : Net.IpAddress.read? h = none) (mem : c ∈ h.toList)
      (beyond : 128 ≤ c.toNat) : Undecided chain host (Failure.of Net.NameFault.notAscii)
  /-- The leaf has to be good for its own first name, and its names cannot be read. -/
  | nameless {leaf : Certificate} {rest : List Certificate} {f : Failure}
      (presented : chain = leaf :: rest) (unchecked : v.checkHostname = false)
      (fault : leaf.leafNames = .error f) : Undecided chain host f
  /-- The leaf is an anchor, and its validity cannot be compared with the time. -/
  | undated {leaf : Certificate} {rest : List Certificate} {subject : Option Subject}
      {f : Failure} (presented : chain = leaf :: rest) (seeks : v.Seeks leaf host subject)
      (anchor : ∃ a ∈ v.anchors, a.octets = leaf.octets)
      (fault : leaf.Incomparable (v.present w) f) : Undecided chain host f
  /-- The leaf is a valid anchor, and the names that the host is looked for in cannot be read. -/
  | unnamed {leaf : Certificate} {rest : List Certificate} {subject : Option Subject}
      {f : Failure} (presented : chain = leaf :: rest) (seeks : v.Seeks leaf host subject)
      (anchor : ∃ a ∈ v.anchors, a.octets = leaf.octets) (valid : leaf.ValidAt (v.present w))
      (checked : v.checkHostname = true) (fault : leaf.leafNames = .error f) :
      Undecided chain host f
  /-- The leaf is no anchor, and the validator's own clock shows no time to verify it at. -/
  | untimely {leaf : Certificate} {rest : List Certificate} {s : Subject}
      (presented : chain = leaf :: rest) (seeks : v.Seeks leaf host (some s))
      (issued : ∀ a ∈ v.anchors, a.octets ≠ leaf.octets) (untimely : v.IsUntimely w) :
      Undecided chain host (Failure.of TimeFault.outOfCalendar)
  /-- The leaf is no anchor, and no verifier can be bound to whom it has to be good for. -/
  | unbound {leaf : Certificate} {rest : List Certificate} {s : Subject} {f : Failure}
      (presented : chain = leaf :: rest) (seeks : v.Seeks leaf host (some s))
      (issued : ∀ a ∈ v.anchors, a.octets ≠ leaf.octets) (timely : ¬v.IsUntimely w)
      (fault : s.Unbindable f) : Undecided chain host f

section

variable {v w}
variable {leaf : Certificate} {rest : List Certificate} {subject : Option Subject} {f : Failure}

theorem onAnchor_eq_fails_iff {now : Time.DateTime}
    (hsubject : v.checkHostname = true → ∃ s, subject = some s) :
    v.onAnchor leaf subject now = .fails f ↔ leaf.Incomparable now f ∨
      leaf.ValidAt now ∧ v.checkHostname = true ∧ leaf.leafNames = .error f := by
  unfold onAnchor
  rw [Judgement.onRead_eq_fails_iff, isValidAt_eq_error_iff]
  refine or_congr Iff.rfl ⟨?_, ?_⟩
  · rintro ⟨valid, hvalid, h⟩
    cases valid with
    | false => cases h
    | true =>
      refine ⟨isValidAt_eq_true_iff.mp hvalid, ?_⟩
      cases hcheck : v.checkHostname with
      | false =>
        rw [hcheck] at h
        cases h
      | true =>
        obtain ⟨s, rfl⟩ := hsubject hcheck
        rw [hcheck] at h
        rcases Judgement.onRead_eq_fails_iff.mp h with hfault | ⟨names, hnames, h⟩
        · exact ⟨rfl, hfault⟩
        · cases hm : Net.matchesAny names s <;> rw [hm] at h <;> cases h
  · rintro ⟨hvalid, hcheck, hfault⟩
    refine ⟨true, isValidAt_eq_true_iff.mpr hvalid, ?_⟩
    obtain ⟨s, rfl⟩ := hsubject hcheck
    rw [hcheck]
    exact Judgement.onRead_eq_fails_iff.mpr (.inl hfault)

theorem onIssued_eq_fails_iff {s : Subject} :
    v.onIssued w leaf rest s = .fails f ↔ v.buildVerifier w s = .error f := by
  unfold onIssued
  rw [Judgement.onRead_eq_fails_iff]
  constructor
  · rintro (hfault | ⟨-, -, h⟩)
    · exact hfault
    · exact absurd h (Judgement.ofVerdict_ne_fails _ f)
  · exact .inl

theorem onChain_eq_fails_iff {chain : List Certificate} {host : Option String} :
    v.onChain w chain host = .fails f ↔ v.Undecided w chain host f := by
  rw [onChain_eq_fails_iff_seeks]
  constructor
  · rintro ⟨leaf, rest, hchain, hnobody | ⟨subject, hseeks, h⟩⟩
    · cases hnobody with
      | host hcheck hgiven _ hfault =>
        obtain ⟨hread, ⟨c, hmem, hbeyond⟩, rfl⟩ := Subject.ofHost_eq_error_iff.mp hfault
        exact .foreign hchain hcheck hgiven hread hmem hbeyond
      | names hcheck hfault => exact .nameless hchain hcheck hfault
    · rcases v.anchor_or_issued leaf with hanchor | hissued
      · rw [onLeaf_of_anchor hanchor, onAnchor_eq_fails_iff hseeks.exists_of_checked] at h
        rcases h with hfault | ⟨hvalid, hcheck, hfault⟩
        · exact .undated hchain hseeks hanchor hfault
        · exact .unnamed hchain hseeks hanchor hvalid hcheck hfault
      · rw [onLeaf_of_issued hissued] at h
        cases subject with
        | none => cases h
        | some s =>
          rw [onIssued_eq_fails_iff, buildVerifier_eq_error_iff] at h
          rcases h with ⟨huntimely, rfl⟩ | ⟨htimely, hfault⟩
          · exact .untimely hchain hseeks hissued huntimely
          · exact .unbound hchain hseeks hissued htimely hfault
  · intro h
    cases h with
    | foreign hchain hcheck hgiven hread hmem hbeyond =>
      have hfault := Subject.ofHost_eq_error_iff.mpr ⟨hread, ⟨_, hmem, hbeyond⟩, rfl⟩
      refine ⟨_, _, hchain, .inl (.host hcheck hgiven ?_ hfault)⟩
      rintro rfl
      cases hmem
    | nameless hchain hcheck hfault => exact ⟨_, _, hchain, .inl (.names hcheck hfault)⟩
    | undated hchain hseeks hanchor hfault =>
      refine ⟨_, _, hchain, .inr ⟨_, hseeks, ?_⟩⟩
      rw [onLeaf_of_anchor hanchor, onAnchor_eq_fails_iff hseeks.exists_of_checked]
      exact .inl hfault
    | unnamed hchain hseeks hanchor hvalid hcheck hfault =>
      refine ⟨_, _, hchain, .inr ⟨_, hseeks, ?_⟩⟩
      rw [onLeaf_of_anchor hanchor, onAnchor_eq_fails_iff hseeks.exists_of_checked]
      exact .inr ⟨hvalid, hcheck, hfault⟩
    | untimely hchain hseeks hissued huntimely =>
      refine ⟨_, _, hchain, .inr ⟨_, hseeks, ?_⟩⟩
      rw [onLeaf_of_issued hissued]
      exact onIssued_eq_fails_iff.mpr (v.buildVerifier_of_isUntimely w huntimely)
    | unbound hchain hseeks hissued htimely hfault =>
      refine ⟨_, _, hchain, .inr ⟨_, hseeks, ?_⟩⟩
      rw [onLeaf_of_issued hissued]
      refine onIssued_eq_fails_iff.mpr ?_
      rw [v.buildVerifier_of_not_isUntimely w htimely]
      exact Subject.bind_eq_error_iff.mpr hfault

theorem judgement_check_eq_fails_iff {chain : List Certificate} {authType : String}
    {host : Option String} :
    judgement (v.check chain authType host w) = .fails f ↔ v.Undecided w chain host f := by
  rw [judgement_check, onChain_eq_fails_iff]

end

end TrustGate.Trust.ChainValidator
