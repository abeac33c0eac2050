import Mathlib.Data.List.Forall2
import TrustGate.Certificate.AltName
import TrustGate.Certificate.Bundle
import TrustGate.Certificate.Key

/-!
# How reading a certificate fails

Whoever presents a certificate has written it, so anything that is read from it may be
unreadable.  It is a fault of the certificate then, and nothing else goes wrong:

    FailsAs P r                   if `r` is a failure, `P` holds of it
    IsFault f                     `f` is the failure of a fault
    c.leafNames, c.describe       fail with faults             (leafNames_faults, describe_faults)
    c.authType                    fails with unusable values and unsupported algorithms
                                                               (authType_failsAs)

Which certificates are refused when they are loaded, alone or in a bundle, is stated exactly:

    ofOctets bs                   the malformed, and those of other versions than 1 and 3
                                                               (ofOctets_error_iff)
    bundle bs                     as unusable values, unless the first certificate that does not
                                  load is of another version        (bundle_eq_error)
-/

namespace TrustGate

/-- If it is a failure, it is one of those. -/
def FailsAs {α : Type} (P : Failure → Prop) (r : Except Failure α) : Prop :=
  ∀ f, r = .error f → P f

namespace FailsAs

variable {α β : Type} {P Q : Failure → Prop} {r : Except Failure α}

theorem ok (x : α) : FailsAs P (.ok x : Except Failure α) := by
  intro f h
  cases h

theorem error {f : Failure} (h : P f) : FailsAs P (.error f : Except Failure α) := by
  intro g hg
  cases hg
  exact h

theorem mono (hr : FailsAs P r) (hle : ∀ f, P f → Q f) : FailsAs Q r :=
  fun f hf => hle f (hr f hf)

theorem bind {k : α → Except Failure β} (hr : FailsAs P r) (hk : ∀ x, FailsAs P (k x)) :
    FailsAs P (r >>= k) := by
  cases r with
  | ok x => exact hk x
  | error f => exact error (hr f rfl)

theorem map (k : α → β) (hr : FailsAs P r) : FailsAs P (r.map k) := by
  cases r with
  | ok x => exact ok (k x)
  | error f => exact error (hr f rfl)

theorem mapM {k : α → Except Failure β} (hk : ∀ x, FailsAs P (k x)) (xs : List α) :
    FailsAs P (xs.mapM k) := by
  induction xs with
  | nil => exact ok []
  | cons x xs ih =>
    rw [List.mapM_cons]
    exact bind (hk x) fun y => bind ih fun ys => ok (y :: ys)

theorem forM {k : α → Except Failure Unit} (hk : ∀ x, FailsAs P (k x)) (xs : List α) :
    FailsAs P (xs.forM k) := by
  induction xs with
  | nil => exact ok ()
  | cons x xs ih => exact bind (hk x) fun _ => ih

end FailsAs

/-! ## Lists that are read one by one -/

section

variable {α β : Type} {read : α → Except Failure β} {xs : List α}

theorem mapM_eq_ok_iff {ys : List β} :
    xs.mapM read = .ok ys ↔ xs.Forall₂ (fun x y => read x = .ok y) ys := by
  induction xs generalizing ys with
  | nil =>
    constructor
    · intro h
      cases h
      exact .nil
    · intro h
      cases h
      rfl
  | cons x xs ih =>
    rw [List.mapM_cons]
    constructor
    · intro h
      cases hx : read x with
      | error f =>
        rw [hx] at h
        cases h
      | ok y =>
        rw [hx] at h
        cases hxs : xs.mapM read with
        | error f =>
          rw [hxs] at h
          cases h
        | ok ys' =>
          rw [hxs] at h
          cases h
          exact .cons hx (ih.mp hxs)
    · rintro (_ | ⟨hx, hxs⟩)
      rw [hx, ih.mpr hxs]
      rfl

/-- A list is read up to the first of its members that cannot be read. -/
theorem mapM_eq_error_iff {f : Failure} :
    xs.mapM read = .error f ↔ ∃ before x rest ys, xs = before ++ x :: rest ∧
      before.Forall₂ (fun x y => read x = .ok y) ys ∧ read x = .error f := by
  constructor
  · intro h
    induction xs with
    | nil => cases h
    | cons x xs ih =>
      rw [List.mapM_cons] at h
      cases hx : read x with
      | error g =>
        rw [hx] at h
        cases h
        exact ⟨[], x, xs, [], rfl, .nil, hx⟩
      | ok y =>
        rw [hx] at h
        cases hxs : xs.mapM read with
        | ok ys =>
          rw [hxs] at h
          cases h
        | error g =>
          rw [hxs] at h
          cases h
          obtain ⟨before, x', rest, ys, rfl, hbefore, hx'⟩ := ih hxs
          exact ⟨x :: before, x', rest, y :: ys, rfl, .cons hx hbefore, hx'⟩
  · rintro ⟨before, x, rest, ys, rfl, hbefore, hx⟩
    induction hbefore with
    | nil =>
      rw [List.nil_append, List.mapM_cons, hx]
      rfl
    | cons hy _ ih =>
      rw [List.cons_append, List.mapM_cons, hy, ih]
      rfl

end

namespace Certificate

/-- The failure of a fault of a certificate. -/
def IsFault (f : Failure) : Prop := ∃ fault : CertificateFault, f = fault.failure

theorem IsFault.ne_certificateRejected {f : Failure} (h : IsFault f) :
    f.kind ≠ .certificateRejected := by
  obtain ⟨fault, rfl⟩ := h
  cases fault <;> exact FailureKind.noConfusion

theorem IsFault.isException {f : Failure} (h : IsFault f) : f.kind.isException = true := by
  obtain ⟨fault, rfl⟩ := h
  cases fault <;> rfl

theorem IsFault.not_isOs {f : Failure} (h : IsFault f) : f.kind.isOs = false := by
  obtain ⟨fault, rfl⟩ := h
  cases fault <;> rfl

theorem faulty_faults {α : Type} (fault : CertificateFault) :
    FailsAs IsFault (faulty fault : Except Failure α) := .error ⟨fault, rfl⟩

theorem wellFormed_faults {α : Type} (x : Option α) : FailsAs IsFault (wellFormed x) := by
  cases x with
  | none => exact faulty_faults .malformed
  | some a => exact .ok a

/-! ## Names and validity -/

theorem Attribute.read_faults (a : Attribute) : FailsAs IsFault a.read := by
  unfold Attribute.read
  split
  · exact faulty_faults _
  · split
    · exact faulty_faults _
    · split
      · split
        · exact .ok _
        · exact faulty_faults _
      · split
        · exact .map _ (wellFormed_faults _)
        · exact .map _ (wellFormed_faults _)

theorem relativeNameText_faults (attributes : List Attribute) :
    FailsAs IsFault (relativeNameText attributes) := by
  unfold relativeNameText
  refine .bind (.mapM (fun a => .map _ a.read_faults) attributes) fun values => ?_
  split
  · exact faulty_faults _
  · split
    · exact faulty_faults _
    · exact .ok _

theorem Name.text_faults (name : Name) : FailsAs IsFault name.text :=
  .bind (.mapM relativeNameText_faults name) fun _ => .ok _

theorem inCalendar_faults (t : Time.DateTime) : FailsAs IsFault (inCalendar t) := by
  unfold inCalendar
  split
  · exact faulty_faults _
  · exact .ok t

theorem describe_faults (c : Certificate) : FailsAs IsFault c.describe :=
  .bind (Name.text_faults c.subject) fun _ => .bind (Name.text_faults c.issuer) fun _ =>
    .bind (.map _ (inCalendar_faults c.notBefore)) fun _ =>
      .bind (.map _ (inCalendar_faults c.notAfter)) fun _ => .ok _

/-! ## Extensions -/

theorem network_faults (bits : Nat) (bs : Octets) : FailsAs IsFault (network bits bs) := by
  unfold network
  simp only []
  split
  · exact faulty_faults _
  · split
    · exact .ok _
    · exact faulty_faults _

theorem addressName_faults (bs : Octets) : FailsAs IsFault (addressName bs) := by
  unfold addressName
  split
  · exact .ok _
  · split
    · exact .ok _
    · split
      · exact network_faults 32 bs
      · split
        · exact network_faults 128 bs
        · exact faulty_faults _

theorem NameForm.read_faults (form : NameForm) : FailsAs IsFault form.read := by
  cases form with
  | dns name => exact .ok _
  | address bs => exact addressName_faults bs
  | directory name => exact .map _ (Name.text_faults name)
  | unsupported => exact faulty_faults _
  | other => exact .ok _

theorem generalNames_faults (bs : Octets) : FailsAs IsFault (generalNames bs) :=
  .bind (wellFormed_faults _) fun forms => .mapM NameForm.read_faults forms

theorem checkBasicConstraints_faults (bs : Octets) :
    FailsAs IsFault (checkBasicConstraints bs) := by
  unfold checkBasicConstraints
  refine .bind (wellFormed_faults _) fun constraints => ?_
  split
  · exact faulty_faults _
  · exact .ok ()

theorem checkKeyUsage_faults (bs : Octets) : FailsAs IsFault (checkKeyUsage bs) := by
  unfold checkKeyUsage
  refine .bind (wellFormed_faults _) fun bits => ?_
  split
  · exact faulty_faults _
  · exact .ok ()

theorem checkExtension_faults (e : Extension) : FailsAs IsFault (checkExtension e) := by
  have required (ok : Bool) :
      FailsAs IsFault (if ok then .ok () else faulty .malformed : Except Failure Unit) := by
    cases ok with
    | true => exact .ok ()
    | false => exact faulty_faults _
  unfold checkExtension
  simp only []
  split
  · exact .map _ (generalNames_faults _)
  · split
    · exact checkBasicConstraints_faults _
    · split
      · exact checkKeyUsage_faults _
      · split
        · exact required _
        · split
          · exact required _
          · exact .ok ()

theorem leafNames_faults (c : Certificate) : FailsAs IsFault c.leafNames := by
  unfold leafNames
  simp only []
  split
  -- an extension that is repeated ends it
  · exact faulty_faults _
  · refine .bind (.forM checkExtension_faults _) fun _ => ?_
    split
    · exact .ok []
    · exact .bind (generalNames_faults _) fun _ => .ok _

/-! ## Keys -/

/-- An unusable value, or an algorithm that is not supported. -/
def IsKeyFailure (f : Failure) : Prop := f.kind = .value ∨ f.kind = .unsupportedAlgorithm

theorem ecKind_failsAs (parameters : Option Der.Element) (key : Octets) :
    FailsAs IsKeyFailure (ecKind parameters key) := by
  unfold ecKind
  split
  · exact .error (.inl rfl)
  · split
    · exact .error (.inr rfl)
    · split
      · exact .error (.inl rfl)
      · split
        · exact .ok _
        · exact .error (.inl rfl)

theorem sized_failsAs (kind : KeyKind) (width : Nat) (key : Octets) :
    FailsAs IsKeyFailure (sized kind width key) := by
  unfold sized
  split
  · exact .ok kind
  · exact .error (.inl rfl)

theorem keyKind_failsAs (c : Certificate) : FailsAs IsKeyFailure c.keyKind := by
  have required (kind : KeyKind) (ok : Bool) :
      FailsAs IsKeyFailure (if ok then .ok kind else faulty .malformed) := by
    cases ok with
    | true => exact .ok kind
    | false => exact .error (.inl rfl)
  unfold keyKind
  simp only []
  -- one case for each algorithm, and one for all the others
  split
  · exact required .rsa _
  · split
    · exact ecKind_failsAs _ _
    · split
      · exact sized_failsAs _ _ _
      · split
        · exact sized_failsAs _ _ _
        · split
          · exact sized_failsAs _ _ _
          · split
            · exact sized_failsAs _ _ _
            · split
              · exact required .dsa _
              · exact .error (.inr rfl)

theorem authType_failsAs (c : Certificate) : FailsAs IsKeyFailure c.authType :=
  .map _ c.keyKind_failsAs

/-! ## Loading -/

/-- Octets that are a certificate of a version that is not accepted. -/
def HasVersion (octets : Octets) (version : Nat) : Prop :=
  version ≠ 0 ∧ version ≠ 2 ∧ ∃ c, signed? octets = some (version, c)

theorem ofOctets_error_iff {octets : Octets} {f : Failure} :
    ofOctets octets = .error f ↔
      (signed? octets = none ∧ f = CertificateFault.malformed.failure) ∨
      ∃ version, HasVersion octets version ∧ f = (CertificateFault.badVersion version).failure := by
  unfold ofOctets HasVersion
  cases hs : signed? octets with
  | none =>
    constructor
    · intro h
      cases h
      exact .inl ⟨rfl, rfl⟩
    · rintro (⟨-, rfl⟩ | ⟨version, ⟨-, -, c, hc⟩, -⟩)
      · rfl
      · cases hc
  | some result =>
    obtain ⟨version, c⟩ := result
    change (if version = 0 ∨ version = 2 then pure c else faulty (.badVersion version)) = _ ↔ _
    by_cases hv : version = 0 ∨ version = 2
    · rw [if_pos hv]
      constructor
      · intro h
        cases h
      · rintro (⟨h, -⟩ | ⟨_, ⟨h0, h2, c', hc⟩, -⟩)
        · cases h
        · cases hc
          exact (hv.elim h0 h2).elim
    · rw [if_neg hv]
      constructor
      · intro h
        cases h
        exact .inr ⟨version, ⟨fun h => hv (.inl h), fun h => hv (.inr h), c, rfl⟩, rfl⟩
      · rintro (⟨h, -⟩ | ⟨_, ⟨-, -, c', hc⟩, rfl⟩)
        · cases h
        · cases hc
          rfl

theorem bundle_eq {bs : Octets} {blocks : List Encoding.PemBlock}
    (h : Encoding.readPem? bs = some blocks) :
    bundle bs =
      ((blocks.filter (certificateLabels.contains ·.label)).mapM fun b => ofOctets b.content) >>=
        fun cs => if cs.isEmpty then refuse BundleFault.unreadable else .ok cs := by
  unfold bundle
  rw [h]
  rfl

/-- Before anything else stops octets from being read as a bundle, there is a certificate of a
version that is not accepted. -/
def BundlesVersion (bs : Octets) (version : Nat) : Prop :=
  ∃ blocks before b rest certificates, Encoding.readPem? bs = some blocks ∧
    blocks.filter (certificateLabels.contains ·.label) = before ++ b :: rest ∧
    before.Forall₂ (fun b c => ofOctets b.content = .ok c) certificates ∧
    HasVersion b.content version

theorem bundle_of_bundlesVersion {bs : Octets} {version : Nat} (h : BundlesVersion bs version) :
    bundle bs = .error (CertificateFault.badVersion version).failure := by
  obtain ⟨blocks, before, b, rest, certificates, hblocks, hsplit, hbefore, hversion⟩ := h
  have hfault := ofOctets_error_iff.mpr (.inr ⟨version, hversion, rfl⟩)
  rw [bundle_eq hblocks,
    mapM_eq_error_iff.mpr ⟨before, b, rest, certificates, hsplit, hbefore, hfault⟩]
  rfl

theorem bundle_eq_error {bs : Octets} {f : Failure} (h : bundle bs = .error f) :
    f.kind = .value ∨
      ∃ version, BundlesVersion bs version ∧ f = (CertificateFault.badVersion version).failure := by
  cases hblocks : Encoding.readPem? bs with
  | none =>
    unfold bundle at h
    rw [hblocks] at h
    cases h
    exact .inl rfl
  | some blocks =>
    rw [bundle_eq hblocks] at h
    cases hread : (blocks.filter (certificateLabels.contains ·.label)).mapM
        fun b => ofOctets b.content with
    | ok certificates =>
      rw [hread] at h
      cases certificates with
      | nil =>
        cases h
        exact .inl rfl
      | cons c cs => cases h
    | error g =>
      rw [hread] at h
      cases h
      obtain ⟨before, b, rest, certificates, hsplit, hbefore, hfault⟩ :=
        mapM_eq_error_iff.mp hread
      rcases ofOctets_error_iff.mp hfault with ⟨-, rfl⟩ | ⟨version, hversion, rfl⟩
      · exact .inl rfl
      · exact .inr ⟨version, ⟨blocks, before, b, rest, certificates, hblocks, hsplit, hbefore,
          hversion⟩, rfl⟩

end Certificate

end TrustGate
