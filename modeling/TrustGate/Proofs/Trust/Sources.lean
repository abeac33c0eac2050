import TrustGate.Proofs.Trust.Decision
import TrustGate.Proofs.Trust.Loading
import TrustGate.Proofs.Value.Mapping
import TrustGate.Rehearsal.Stage

/-!
# What the engine is given, and what is parsed

A truststore names a file, holds a text, or does both.  It is read twice, by the engine and for
the anchors of a validator:

    Offers p engine file text w     installing `p` gives this file and this text to the engine
    m.ParsedFrom file text          the certificates of `m` are parsed from this file and this text

An empty name or text is no source of certificates, but the engine is given it all the same.  So
the two readers go by the same sources if and only if no source is empty (offered_parsed_iff).

What an empty text would add to a file shows only where the file can be read.  A path without a null
can be read in some system, with any content:

    Files.filledWith content        every path leads to a file with that content  (read_filledWith)
-/

namespace TrustGate

open Trust (Provider ChainValidator)

namespace Files

/-- Files wherever one looks, each with the given content. -/
def filledWith (content : Octets) : Files where
  stat _ := .ok .regular
  contents _ := .ok content

theorem read_filledWith {path : String} (h : hasNull path = false) (content : Octets) :
    (filledWith content).read path = .ok content := by
  unfold read
  simp only [hasNull_normalPath, h]
  rfl

end Files

/-! ## A bundle that loads -/

namespace Certificate

/-- A certificate of version 1 that says as little as a certificate can: the serial number 1, an
algorithm, no issuer, ten years, no subject, an empty key and an empty signature. -/
def leastOctets : Octets :=
  [0x30, 0x40, 0x30, 0x36,
    0x02, 0x01, 0x01,
    0x30, 0x03, 0x06, 0x01, 0x2A,
    0x30, 0x00,
    0x30, 0x1E,
    0x17, 0x0D, 0x32, 0x33, 0x30, 0x31, 0x30, 0x31, 0x30, 0x30, 0x30, 0x30, 0x30, 0x30, 0x5A,
    0x17, 0x0D, 0x33, 0x33, 0x30, 0x31, 0x30, 0x31, 0x30, 0x30, 0x30, 0x30, 0x30, 0x30, 0x5A,
    0x30, 0x00,
    0x30, 0x08, 0x30, 0x03, 0x06, 0x01, 0x2A, 0x03, 0x01, 0x00,
    0x30, 0x03, 0x06, 0x01, 0x2A,
    0x03, 0x01, 0x00]

theorem exists_bundle_eq_ok : ∃ bs cs, bundle bs = .ok cs := by
  have hok : (bundle (Encoding.asciiOctets
      (Encoding.pemText "CERTIFICATE" "\n" leastOctets))).isOk = true := by decide +kernel
  -- the bundle is read once, by the line above; from here on it is any octets that load
  revert hok
  generalize Encoding.asciiOctets (Encoding.pemText "CERTIFICATE" "\n" leastOctets) = bs
  intro hok
  cases hbundle : bundle bs with
  | ok cs => exact ⟨bs, cs, hbundle⟩
  | error f =>
    rw [hbundle] at hok
    cases hok

end Certificate

/-! ## Sources that are parsed -/

namespace TrustMaterial

theorem nonempty?_eq_self_iff {source : Option String} :
    nonempty? source = source ↔ source ≠ some "" := by
  unfold nonempty?
  split
  · simp
  · next hne => exact ⟨fun _ => hne, fun _ => rfl⟩

/-- The certificates of a file followed by those of a text, each of which may be missing. -/
def certificatesOf (files : Files) (file text : Option String) :
    Except Failure (List Certificate) := do
  let ofFile ← supply files.read file
  let ofText ← supply asciiBytes text
  return ofFile ++ ofText

/-- Whatever files there are, the certificates of the material are parsed from this file and this
text. -/
def ParsedFrom (m : TrustMaterial) (file text : Option String) : Prop :=
  ∀ files, m.anchors files = certificatesOf files file text

variable {files : Files} {cafile cadata : Option String} {m : TrustMaterial}

/-- Material has the sources it was made of; without a text it names a file. -/
theorem make_eq_ok (h : make files cafile cadata = .ok m) :
    m = ⟨cafile, cadata⟩ ∧
      (nonempty? cadata = none →
        ∃ path, nonempty? cafile = some path ∧ files.HasFile path) := by
  unfold make at h
  cases hfile : nonempty? cafile with
  | none =>
    cases htext : nonempty? cadata with
    | none =>
      rw [hfile, htext] at h
      cases h
    | some text =>
      rw [hfile, htext] at h
      cases h
      exact ⟨rfl, fun hnone => by cases hnone⟩
  | some path =>
    cases hpath : files.isFile path with
    | error f =>
      simp only [hfile, hpath] at h
      cases h
    | ok found =>
      simp only [hfile, hpath] at h
      cases found with
      | false => cases h
      | true =>
        cases h
        exact ⟨rfl, fun _ => ⟨path, rfl, Files.isFile_eq_true_iff.mp hpath⟩⟩

theorem parsedFrom_nonempty? (m : TrustMaterial) :
    m.ParsedFrom (nonempty? m.cafile) (nonempty? m.cadata) :=
  fun files => anchors_eq files m

/-- A text fails to be parsed for what it says, not for the state of a system. -/
theorem supply_asciiBytes_failsAs (text : Option String) :
    FailsAs (fun f => f.kind.isOs = false) (supply asciiBytes text) := by
  cases text with
  | none => exact .ok []
  | some text =>
    have hascii : FailsAs (fun f => f.kind.isOs = false) (asciiBytes text) := by
      intro f h
      rw [kind_of_asciiBytes h]
      rfl
    refine hascii.bind fun bs f hf => ?_
    rcases Certificate.bundle_eq_error hf with hkind | ⟨version, -, rfl⟩
    · rw [hkind]
      rfl
    · rfl

/-- The empty name is a path like others, and reading it fails where there are no files. -/
theorem not_parsedFrom_empty_name (hname : nonempty? m.cafile = none) (text : Option String) :
    ¬m.ParsedFrom (some "") text := by
  intro h
  -- in a system without files, reading the name fails as no text does
  have hread : certificatesOf .empty (some "") text =
      .error (SystemError.notFound.failure ["."]) := by rfl
  have hanchors := (anchors_eq .empty m).symm.trans ((h .empty).trans hread)
  rw [hname] at hanchors
  cases htext : supply asciiBytes (nonempty? m.cadata) with
  | ok cs =>
    rw [htext] at hanchors
    cases hanchors
  | error f =>
    rw [htext] at hanchors
    cases hanchors
    cases supply_asciiBytes_failsAs _ _ htext

/-- The empty text is no bundle, so nothing is parsed where the file alone would be. -/
theorem not_parsedFrom_empty_text {path : String} (hname : nonempty? m.cafile = some path)
    (hpath : hasNull path = false) (htext : nonempty? m.cadata = none) :
    ¬m.ParsedFrom (some path) (some "") := by
  intro h
  obtain ⟨bs, cs, hbundle⟩ := Certificate.exists_bundle_eq_ok
  have hfile : supply (Files.filledWith bs).read (some path) = .ok cs :=
    supply_eq_ok_iff.mpr (.bundle (Files.read_filledWith hpath bs) hbundle)
  have hempty : supply asciiBytes (some "") =
      .error (Failure.of Certificate.BundleFault.unreadable) := by rfl
  have hanchors := (anchors_eq (.filledWith bs) m).symm.trans (h (.filledWith bs))
  unfold certificatesOf at hanchors
  rw [hname, htext, hfile, hempty] at hanchors
  cases hanchors

/-- Material is parsed from the sources it was made of if and only if none of them is empty. -/
theorem parsedFrom_iff (h : make files cafile cadata = .ok m) :
    m.ParsedFrom cafile cadata ↔ cafile ≠ some "" ∧ cadata ≠ some "" := by
  obtain ⟨rfl, hfile⟩ := make_eq_ok h
  constructor
  · intro hparsed
    refine ⟨?_, ?_⟩
    · rintro rfl
      exact not_parsedFrom_empty_name rfl cadata hparsed
    · rintro rfl
      obtain ⟨path, hname, hpath⟩ := hfile rfl
      obtain ⟨rfl, -⟩ := ChainValidator.nonempty?_eq_some_iff.mp hname
      exact not_parsedFrom_empty_text hname hpath.whole rfl hparsed
  · rintro ⟨hname, htext⟩
    have hparsed := parsedFrom_nonempty? ⟨cafile, cadata⟩
    rwa [nonempty?_eq_self_iff.mpr hname, nonempty?_eq_self_iff.mpr htext] at hparsed

end TrustMaterial

/-! ## Sources that are given to the engine -/

namespace Trust.Provider

/-- Installing it installs the material: it is the material, or a validator that has loaded it. -/
inductive Brings (m : TrustMaterial) : Provider → Prop where
  | material : Brings m (.trust m)
  | validator {π τ : Type} [Platform π τ] {checkHostname : Bool} {clock : Option Nat}
      {w w' : World π τ} {v : ChainValidator}
      (loaded : ChainValidator.load (some (.trust m)) checkHostname clock w = .ok v w') :
      Brings m (.chain v)

section

variable {π τ : Type} [Platform π τ]

/-- A validator installs the truststore that it has loaded. -/
theorem truststore_of_load {m : TrustMaterial} {checkHostname : Bool} {clock : Option Nat}
    {w w' : World π τ} {v : ChainValidator}
    (h : ChainValidator.load (some (.trust m)) checkHostname clock w = .ok v w') :
    v.truststore = .material m := by
  rw [load_eq] at h
  cases houtcome : m.outcome w.files with
  | error f =>
    rw [houtcome] at h
    cases h
  | ok cs =>
    rw [houtcome] at h
    obtain ⟨-, u, -, hreturned⟩ := Action.exists_of_bind_ok h
    cases hreturned
    rfl

/-- Installing makes one call, which gives the engine this file and this text, and ends as the
engine answers it. -/
def Offers (p : Provider) (engine : EngineId) (file text : Option String) (w : World π τ) : Prop :=
  p.install engine w =
    Action.ofExcept (w.reply (.loadTrust engine file text)) (w.asked (.loadTrust engine file text))

variable {m : TrustMaterial} {p : Provider}

theorem offers_iff (h : p.Brings m) (engine : EngineId) (file text : Option String)
    (w : World π τ) : p.Offers engine file text w ↔ file = m.cafile ∧ text = m.cadata := by
  have hgiven : p.Offers engine m.cafile m.cadata w := by
    cases h with
    | material => rfl
    | @validator _ _ _ _ _ _ _ v loaded =>
      have hinstall : v.truststore.install engine w =
          (Truststore.material m).install engine w := by rw [truststore_of_load loaded]
      exact hinstall
  have hworld (file text : Option String) (h : p.Offers engine file text w) :
      (p.install engine).after w = w.asked (.loadTrust engine file text) := by
    unfold Action.after
    rw [h]
    cases (w.reply (.loadTrust engine file text) : Except Failure Unit) <;> rfl
  constructor
  · intro hoffers
    have hasked := congrArg World.history
      ((hworld _ _ hoffers).symm.trans (hworld _ _ hgiven))
    simp only [World.asked, List.cons.injEq, Happening.called.injEq, Call.loadTrust.injEq] at hasked
    exact hasked.1.1.2
  · rintro ⟨rfl, rfl⟩
    exact hgiven

/-- Installing material, or a validator that has loaded it, gives the engine the sources that the
material was made of as they are, whereas certificates are parsed from those that are not empty.
These are the same sources if and only if none was given empty. -/
theorem offered_parsed_iff {files : Files} {cafile cadata : Option String}
    (hmade : TrustMaterial.make files cafile cadata = .ok m) (hbrings : p.Brings m)
    (engine : EngineId) (w : World π τ) :
    (∀ file text, p.Offers engine file text w ↔ file = cafile ∧ text = cadata) ∧
      m.ParsedFrom (nonempty? cafile) (nonempty? cadata) ∧
      (m.ParsedFrom cafile cadata ↔ cafile ≠ some "" ∧ cadata ≠ some "") := by
  have hparsed := TrustMaterial.parsedFrom_iff hmade
  obtain ⟨rfl, -⟩ := TrustMaterial.make_eq_ok hmade
  refine ⟨?_, TrustMaterial.parsedFrom_nonempty? _, hparsed⟩
  intro file text
  exact offers_iff hbrings engine file text w

end

/-- Material with a text and an empty file name is made, and the engine is given that name, from
which no certificate is parsed. -/
theorem offered_parsed_iff_empty_name :
    TrustMaterial.make .empty (some "") (some "PEM") = .ok ⟨some "", some "PEM"⟩ ∧
      (trust ⟨some "", some "PEM"⟩).Offers 0 (some "") (some "PEM")
        (.initial (Rehearsal.Stage.start 0.0 0.0) .empty : World Rehearsal.Stage Float) ∧
      TrustMaterial.ParsedFrom ⟨some "", some "PEM"⟩ none (some "PEM") ∧
      ¬TrustMaterial.ParsedFrom ⟨some "", some "PEM"⟩ (some "") (some "PEM") := by
  have hmade : TrustMaterial.make .empty (some "") (some "PEM") = .ok ⟨some "", some "PEM"⟩ := by
    rfl
  obtain ⟨hoffers, hparsed, hiff⟩ := offered_parsed_iff hmade .material 0
    (.initial (Rehearsal.Stage.start 0.0 0.0) .empty : World Rehearsal.Stage Float)
  refine ⟨hmade, (hoffers _ _).mpr ⟨rfl, rfl⟩, hparsed, ?_⟩
  intro h
  exact (hiff.mp h).1 rfl

end Trust.Provider

end TrustGate
