import TrustGate.Factory
import TrustGate.Proofs.Certificate.Faults
import TrustGate.Proofs.Files
import TrustGate.Proofs.Text.Points
import TrustGate.Proofs.Footprint

/-!
# How loading a truststore ends

A truststore may name a file of certificates and hold a text with certificates.

    m.Holds files cs              the certificates of its file followed by those of its text
    m.IsUnaccepted files f        the first certificate that does not load has a version that
                                  is not accepted

Loading it reads it and looks at the outcome: whatever the file and the text are, it ends as

    m.outcome files               says                            (load_of_ok, load_of_error)

Unusable and unreadable sources are configuration errors, and a factory makes initialization
errors of them.  Certificates of other versions are the one exception   (load_documented_iff).
-/

namespace TrustGate

open Trust (Provider Observer ChainValidator TruststoreFault)

/-- Failures that are taken for an unusable truststore. -/
def IsUnusable (f : Failure) : Prop := (f.kind.isOs || f.kind.isValue) = true

theorem Files.read_failsAs (files : Files) (path : String) :
    FailsAs IsUnusable (files.read path) := by
  intro f h
  rcases Files.read_eq_error h with hos | ⟨-, rfl⟩
  · rw [IsUnusable, hos]
    rfl
  · rfl

theorem kind_of_asciiBytes {s : String} {f : Failure} (h : asciiBytes s = .error f) :
    f.kind = .unicodeEncode := by
  cases hcheck : Text.Codec.ascii.check (Text.points s) with
  | ok _ =>
    simp only [asciiBytes, hcheck] at h
    cases h
  | error g =>
    simp only [asciiBytes, hcheck] at h
    cases h
    exact Text.Codec.kind_of_check hcheck

theorem asciiBytes_failsAs (s : String) : FailsAs IsUnusable (asciiBytes s) := by
  intro f h
  rw [IsUnusable, kind_of_asciiBytes h]
  rfl

namespace TrustMaterial

/-! ## Sources of certificates -/

/-- The certificates of a source, which is read as a bundle unless it is missing. -/
def supply (read : String → Except Failure Octets) (source : Option String) :
    Except Failure (List Certificate) :=
  match source with
  | none => .ok []
  | some name => do Certificate.bundle (← read name)

inductive Supplies (read : String → Except Failure Octets) :
    Option String → List Certificate → Prop where
  | missing : Supplies read none []
  | bundle {name : String} {bs : Octets} {cs : List Certificate} (hread : read name = .ok bs)
      (hbundle : Certificate.bundle bs = .ok cs) : Supplies read (some name) cs

/-- The source is readable, but has a certificate of a version that is not accepted. -/
inductive IsOutdated (read : String → Except Failure Octets) : Option String → Failure → Prop where
  | bundle {name : String} {bs : Octets} {version : Nat} (hread : read name = .ok bs)
      (hversion : Certificate.BundlesVersion bs version) :
      IsOutdated read (some name) (Certificate.CertificateFault.badVersion version).failure

section

variable {read : String → Except Failure Octets} {source : Option String}
  {cs : List Certificate} {f : Failure}

theorem supply_eq_ok_iff : supply read source = .ok cs ↔ Supplies read source cs := by
  constructor
  · intro h
    cases source with
    | none =>
      cases h
      exact .missing
    | some name =>
      cases hread : read name with
      | ok bs =>
        simp only [supply, hread] at h
        exact .bundle hread h
      | error g =>
        simp only [supply, hread] at h
        cases h
  · rintro (_ | ⟨hread, hbundle⟩)
    · rfl
    · simp only [supply, hread]
      exact hbundle

theorem supply_of_isOutdated (h : IsOutdated read source f) : supply read source = .error f := by
  obtain ⟨hread, hversion⟩ := h
  simp only [supply, hread]
  exact Certificate.bundle_of_bundlesVersion hversion

theorem supply_eq_error (hfails : ∀ name, FailsAs IsUnusable (read name))
    (h : supply read source = .error f) : IsUnusable f ∨ IsOutdated read source f := by
  cases source with
  | none => cases h
  | some name =>
    cases hread : read name with
    | ok bs =>
      simp only [supply, hread] at h
      rcases Certificate.bundle_eq_error h with hkind | ⟨version, hversion, rfl⟩
      · exact .inl (by rw [IsUnusable, hkind]; rfl)
      · exact .inr (.bundle hread hversion)
    | error g =>
      simp only [supply, hread] at h
      cases h
      exact .inl (hfails name f hread)

theorem IsOutdated.kind (h : IsOutdated read source f) : f.kind = .invalidVersion := by
  obtain ⟨-, -⟩ := h
  rfl

end

/-! ## Material -/

variable (files : Files) (m : TrustMaterial)

/-- The certificates of the file followed by those of the text. -/
def Holds (cs : List Certificate) : Prop :=
  ∃ ofFile ofText, Supplies files.read (nonempty? m.cafile) ofFile ∧
    Supplies asciiBytes (nonempty? m.cadata) ofText ∧ cs = ofFile ++ ofText

/-- A certificate of a version that is not accepted is what the material cannot be read for: one
of the file, or one of the text behind a file that is loaded. -/
inductive IsUnaccepted (f : Failure) : Prop where
  | ofFile (h : IsOutdated files.read (nonempty? m.cafile) f)
  | ofText {cs : List Certificate} (hfile : Supplies files.read (nonempty? m.cafile) cs)
      (h : IsOutdated asciiBytes (nonempty? m.cadata) f)

theorem anchors_eq :
    m.anchors files = supply files.read (nonempty? m.cafile) >>= fun ofFile =>
      supply asciiBytes (nonempty? m.cadata) >>= fun ofText => .ok (ofFile ++ ofText) := by
  unfold anchors supply
  cases nonempty? m.cafile <;> cases nonempty? m.cadata <;>
    simp only [bind_assoc] <;> rfl

variable {files m} {cs : List Certificate} {f : Failure}

theorem anchors_eq_ok (h : m.anchors files = .ok cs) : m.Holds files cs := by
  rw [anchors_eq] at h
  cases hfile : supply files.read (nonempty? m.cafile) with
  | error g =>
    rw [hfile] at h
    cases h
  | ok ofFile =>
    rw [hfile] at h
    cases htext : supply asciiBytes (nonempty? m.cadata) with
    | error g =>
      rw [htext] at h
      cases h
    | ok ofText =>
      rw [htext] at h
      cases h
      exact ⟨ofFile, ofText, supply_eq_ok_iff.mp hfile, supply_eq_ok_iff.mp htext, rfl⟩

theorem anchors_eq_error (h : m.anchors files = .error f) :
    IsUnusable f ∨ m.IsUnaccepted files f := by
  rw [anchors_eq] at h
  cases hfile : supply files.read (nonempty? m.cafile) with
  | error g =>
    rw [hfile] at h
    cases h
    exact (supply_eq_error files.read_failsAs hfile).imp_right .ofFile
  | ok ofFile =>
    rw [hfile] at h
    cases htext : supply asciiBytes (nonempty? m.cadata) with
    | error g =>
      rw [htext] at h
      cases h
      exact (supply_eq_error asciiBytes_failsAs htext).imp_right
        (.ofText (supply_eq_ok_iff.mp hfile))
    | ok ofText =>
      rw [htext] at h
      cases h

theorem anchors_of_isUnaccepted (h : m.IsUnaccepted files f) : m.anchors files = .error f := by
  rw [anchors_eq]
  cases h with
  | ofFile h =>
    rw [supply_of_isOutdated h]
    rfl
  | ofText hfile h =>
    rw [supply_eq_ok_iff.mpr hfile, supply_of_isOutdated h]
    rfl

theorem IsUnaccepted.kind (h : m.IsUnaccepted files f) : f.kind = .invalidVersion := by
  cases h with
  | ofFile h => exact h.kind
  | ofText _ h => exact h.kind

theorem IsUnaccepted.not_isUnusable (h : m.IsUnaccepted files f) : ¬IsUnusable f := by
  unfold IsUnusable
  rw [h.kind]
  exact Bool.false_ne_true

theorem IsUnaccepted.ne_configuration (h : m.IsUnaccepted files f) :
    f.kind ≠ .configuration := by
  rw [h.kind]
  exact FailureKind.noConfusion

/-! ## What becomes of it -/

/-- What loading makes of the material. -/
def outcome (files : Files) (m : TrustMaterial) : Except Failure (List Certificate) :=
  match m.anchors files with
  | .ok [] => refuse TruststoreFault.empty
  | .ok cs => .ok cs
  | .error f =>
    .error (if f.kind.isOs || f.kind.isValue then
      (Failure.of (TruststoreFault.unreadable f.message)).because f else f)

theorem outcome_eq_ok (h : m.outcome files = .ok cs) : cs ≠ [] ∧ m.Holds files cs := by
  unfold outcome at h
  cases hanchors : m.anchors files with
  | error g =>
    rw [hanchors] at h
    cases h
  | ok held =>
    rw [hanchors] at h
    cases held with
    | nil => cases h
    | cons c rest =>
      cases h
      exact ⟨List.cons_ne_nil c rest, anchors_eq_ok hanchors⟩

theorem outcome_eq_error (h : m.outcome files = .error f) :
    f.kind = .configuration ∨ m.IsUnaccepted files f := by
  unfold outcome at h
  cases hanchors : m.anchors files with
  | ok held =>
    rw [hanchors] at h
    cases held with
    | nil =>
      cases h
      exact .inl rfl
    | cons c rest => cases h
  | error g =>
    rw [hanchors] at h
    rcases anchors_eq_error hanchors with hunusable | hunaccepted
    · simp only [show (g.kind.isOs || g.kind.isValue) = true from hunusable, if_true] at h
      cases h
      exact .inl rfl
    · simp only [show ¬(g.kind.isOs || g.kind.isValue) = true from hunaccepted.not_isUnusable] at h
      cases h
      exact .inr hunaccepted

theorem outcome_of_isUnaccepted (h : m.IsUnaccepted files f) : m.outcome files = .error f := by
  unfold outcome
  rw [anchors_of_isUnaccepted h]
  exact congrArg Except.error (if_neg h.not_isUnusable)

end TrustMaterial

/-! ## Validators and factories -/

section

variable {π τ : Type} [Platform π τ] {m : TrustMaterial} {cs : List Certificate} {f : Failure}

theorem load_eq (m : TrustMaterial) (checkHostname : Bool) (clock : Option Nat) (w : World π τ) :
    ChainValidator.load (some (.trust m)) checkHostname clock w =
      match m.outcome w.files with
      | .ok cs => (do
          debugLog ChainValidator.logger "Loaded %d trust anchor(s), host name check %s"
            [.int cs.length, .bool checkHostname]
          return ⟨.material m, cs, checkHostname, clock⟩ : Action π τ ChainValidator) w
      | .error f => .error f w := by
  have hread : (Trust.Truststore.material m).read w =
      (Action.ofExcept (m.anchors w.files) : Action π τ (List Certificate)) w :=
    Action.bind_of_ok (Action.get_eq w) _
  unfold ChainValidator.load TrustMaterial.outcome
  simp only [Trust.Truststore.ofProvider]
  rw [Action.bind_of_ok (Action.ofExcept_ok _ w)]
  cases hanchors : m.anchors w.files with
  | ok cs =>
    rw [hanchors] at hread
    rw [Action.bind_of_ok (Action.tryCatch_of_ok hread _)]
    cases cs <;> rfl
  | error f =>
    rw [hanchors] at hread
    have hthrown := Action.tryCatch_of_error hread fun f =>
      if f.kind.isOs || f.kind.isValue then
        throw ((Failure.of (TruststoreFault.unreadable f.message)).because f)
      else throw f
    by_cases hunusable : (f.kind.isOs || f.kind.isValue) = true
    · simp only [hunusable, if_true] at hthrown ⊢
      exact Action.bind_of_error hthrown _
    · simp only [hunusable] at hthrown ⊢
      exact Action.bind_of_error hthrown _

theorem load_of_ok (checkHostname : Bool) (clock : Option Nat) (w : World π τ)
    (h : m.outcome w.files = .ok cs) :
    ∃ j, ChainValidator.load (some (.trust m)) checkHostname clock w =
      .ok ⟨.material m, cs, checkHostname, clock⟩ { w with journal := j } := by
  rw [load_eq, h]
  obtain ⟨j, hlogged⟩ := debugLog_ok ChainValidator.logger
    "Loaded %d trust anchor(s), host name check %s" [.int cs.length, .bool checkHostname] w
  exact ⟨j, Action.bind_of_ok hlogged _⟩

theorem load_of_error (checkHostname : Bool) (clock : Option Nat) (w : World π τ)
    (h : m.outcome w.files = .error f) :
    ChainValidator.load (some (.trust m)) checkHostname clock w = .error f w := by
  rw [load_eq, h]

/-- A truststore that cannot be loaded makes no factory, whatever else the factory is to have. -/
theorem ofTruststore_of_error (identities : List Provider) (protocol : Value)
    (checkHostname : Bool) (observer : Option Observer) (w : World π τ)
    (h : m.outcome w.files = .error f) :
    Factory.ofTruststore (some (.trust m)) identities protocol checkHostname observer w =
      .error (if f.kind = .configuration then
        (Failure.of (UnloadableTruststore.mk f.message)).because f else f) w := by
  unfold Factory.ofTruststore Factory.loadValidator
  refine Action.bind_of_error ?_ _
  rw [Action.tryCatch_of_error (load_of_error checkHostname none w h)]
  split <;> rfl

/-- A truststore is loaded with all of its certificates, of which there is at least one, or it is
refused as a configuration error, and factories name that as the cause of an initialization
error. -/
inductive LoadsOrRefuses (m : TrustMaterial) (checkHostname : Bool) (clock : Option Nat)
    (w : World π τ) : Prop where
  | loads {v : ChainValidator} {w' : World π τ}
      (loaded : ChainValidator.load (some (.trust m)) checkHostname clock w = .ok v w')
      (nonempty : v.anchors ≠ []) (holds : m.Holds w.files v.anchors)
  | refuses {f : Failure} {w' : World π τ}
      (refused : ChainValidator.load (some (.trust m)) checkHostname clock w = .error f w')
      (kind : f.kind = .configuration)
      (factory : ∀ identities protocol observer,
        Factory.ofTruststore (some (.trust m)) identities protocol checkHostname observer w =
          .error ((Failure.of (UnloadableTruststore.mk f.message)).because f) w')

theorem loadsOrRefuses_of_ok (checkHostname : Bool) (clock : Option Nat) (w : World π τ)
    (h : m.outcome w.files = .ok cs) : LoadsOrRefuses m checkHostname clock w := by
  obtain ⟨hne, hholds⟩ := TrustMaterial.outcome_eq_ok h
  obtain ⟨j, hload⟩ := load_of_ok checkHostname clock w h
  exact .loads hload hne hholds

theorem loadsOrRefuses_of_configuration (checkHostname : Bool) (clock : Option Nat)
    (w : World π τ) (h : m.outcome w.files = .error f) (hkind : f.kind = .configuration) :
    LoadsOrRefuses m checkHostname clock w := by
  refine .refuses (load_of_error checkHostname clock w h) hkind ?_
  intro identities protocol observer
  rw [ofTruststore_of_error identities protocol checkHostname observer w h, if_pos hkind]

end

end TrustGate
