import TrustGate.Proofs.Config.Fields
import TrustGate.Proofs.Config.Refused
import TrustGate.Proofs.Net.Labels
import TrustGate.Proofs.Trust.Decision

/-!
# What configuration is accepted

A mapping is accepted as a configuration if it keeps these rules, which do not speak of the order
of its entries:

    m.Typed                          every key names a field that admits its value
    provided, certified, present     some material is given, a key comes with its certificate,
                                     and the files that are named exist

What is refused is refused with a configuration error, but for one case: the system does not say
whether a file that is named is there, and how it refuses that escapes   (accepted_iff_acceptable).
-/

namespace TrustGate

open Trust.ChainValidator (nonempty?_eq_some_iff)

namespace Config

variable {files : Files} {c : Config} {path : String}

/-- A check that a file is there is passed if it is. -/
theorem required_eq_ok_iff {α β : Type} {fault : MaterialFault} {next : β → Except Failure α}
    {rest : Except Failure α} {x : α} :
    (files.isFile path >>= fun found =>
      if (!found) = true then refuse fault >>= next else rest) = .ok x ↔
      files.HasFile path ∧ rest = .ok x := by
  rw [← Files.isFile_eq_true_iff]
  constructor
  · intro h
    obtain ⟨found, hfound, h⟩ := exists_of_bind_ok h
    cases found with
    | false => cases h
    | true => exact ⟨hfound, h⟩
  · rintro ⟨hfound, h⟩
    rw [hfound]
    exact h

/-! ## Material -/

/-- A key comes with its certificate, and both files exist if they are named. -/
structure Identified (files : Files) (c : Config) : Prop where
  certified : ∀ key, nonempty? c.keyfile = some key → (nonempty? c.certfile).isSome = true
  certificate : ∀ path, nonempty? c.certfile = some path → files.HasFile path
  key : ∀ path, nonempty? c.keyfile = some path → files.HasFile path

theorem identityMaterial_eq_ok {identity : Option IdentityMaterial}
    (h : c.identityMaterial files = .ok identity) :
    c.Identified files ∧ identity.isSome = (nonempty? c.certfile).isSome := by
  cases hcertificate : nonempty? c.certfile with
  | none =>
    cases hkey : nonempty? c.keyfile with
    | none =>
      simp only [identityMaterial, hcertificate, hkey] at h
      cases h
      exact ⟨⟨by simp [hkey], by simp [hcertificate], by simp [hkey]⟩, rfl⟩
    | some key =>
      simp only [identityMaterial, hcertificate, hkey] at h
      cases h
  | some path =>
    simp only [identityMaterial, hcertificate] at h
    obtain ⟨made, hmade, rfl⟩ := exists_of_map_ok h
    simp only [IdentityMaterial.make, hcertificate] at hmade
    obtain ⟨hpath, hmade⟩ := required_eq_ok_iff.mp hmade
    refine ⟨⟨by simp [hcertificate], by simpa [hcertificate] using hpath, ?_⟩, rfl⟩
    intro key hkey
    simp only [hkey] at hmade
    exact (required_eq_ok_iff.mp hmade).1

theorem Identified.exists_identity (h : c.Identified files) :
    ∃ identity, c.identityMaterial files = .ok identity := by
  cases hcertificate : nonempty? c.certfile with
  | none =>
    cases hkey : nonempty? c.keyfile with
    | none =>
      refine ⟨none, ?_⟩
      simp only [identityMaterial, hcertificate, hkey]
    | some key =>
      have := h.certified key hkey
      rw [hcertificate] at this
      cases this
  | some path =>
    have hmade : ∃ made, IdentityMaterial.make files c.certfile c.keyfile
        (c.valueOf .keyPassword) = .ok made := by
      refine ⟨⟨path, c.keyfile, c.valueOf .keyPassword⟩, ?_⟩
      simp only [IdentityMaterial.make, hcertificate]
      refine required_eq_ok_iff.mpr ⟨h.certificate path hcertificate, ?_⟩
      cases hkey : nonempty? c.keyfile with
      | none => rfl
      | some key => exact required_eq_ok_iff.mpr ⟨h.key key hkey, rfl⟩
    obtain ⟨made, hmade⟩ := hmade
    refine ⟨some made, ?_⟩
    simp only [identityMaterial, hcertificate, hmade, Except.map]

theorem trustMaterial_eq_ok {trust : Option TrustMaterial} (h : c.trustMaterial files = .ok trust) :
    (∀ path, nonempty? c.cafile = some path → files.HasFile path) ∧
      trust.isSome = ((nonempty? c.cafile).isSome || (nonempty? c.cadata).isSome) := by
  cases hfile : nonempty? c.cafile with
  | none =>
    cases hdata : nonempty? c.cadata with
    | none =>
      simp only [trustMaterial, hfile, hdata] at h
      cases h
      exact ⟨by simp, rfl⟩
    | some text =>
      simp only [trustMaterial, TrustMaterial.make, hfile, hdata] at h
      cases h
      exact ⟨by simp, rfl⟩
  | some path =>
    simp only [trustMaterial, TrustMaterial.make, hfile] at h
    obtain ⟨made, hmade, rfl⟩ := exists_of_map_ok h
    refine ⟨?_, rfl⟩
    rintro _ ⟨⟩
    exact (required_eq_ok_iff.mp hmade).1

theorem exists_trust (h : ∀ path, nonempty? c.cafile = some path → files.HasFile path) :
    ∃ trust, c.trustMaterial files = .ok trust := by
  cases hfile : nonempty? c.cafile with
  | none =>
    cases hdata : nonempty? c.cadata with
    | none =>
      refine ⟨none, ?_⟩
      simp only [trustMaterial, hfile, hdata]
    | some text =>
      refine ⟨some ⟨c.cafile, c.cadata⟩, ?_⟩
      simp only [trustMaterial, TrustMaterial.make, hfile, hdata]
      rfl
  | some path =>
    have hmade : TrustMaterial.make files c.cafile c.cadata = .ok ⟨c.cafile, c.cadata⟩ := by
      simp only [TrustMaterial.make, hfile]
      exact required_eq_ok_iff.mpr ⟨h path hfile, rfl⟩
    refine ⟨some ⟨c.cafile, c.cadata⟩, ?_⟩
    simp only [trustMaterial, hfile, hmade, Except.map]

/-- The rules between the fields of a configuration, and those about its files. -/
structure Provided (files : Files) (c : Config) : Prop where
  given : (nonempty? c.cafile).isSome = true ∨ (nonempty? c.cadata).isSome = true ∨
    (nonempty? c.certfile).isSome = true
  identified : c.Identified files
  authorities : ∀ path, nonempty? c.cafile = some path → files.HasFile path

theorem accept_eq_ok_iff {c' : Config} : c.accept files = .ok c' ↔ c' = c ∧ c.Provided files := by
  constructor
  · intro h
    obtain ⟨rfl, identity, trust, hidentity, htrust, hsome⟩ := accept_eq_ok h
    obtain ⟨hidentified, hidentity⟩ := identityMaterial_eq_ok hidentity
    obtain ⟨hauthorities, htrust⟩ := trustMaterial_eq_ok htrust
    rw [hidentity, htrust, Bool.or_eq_true] at hsome
    exact ⟨rfl, by tauto, hidentified, hauthorities⟩
  · rintro ⟨rfl, h⟩
    obtain ⟨identity, hidentity⟩ := h.identified.exists_identity
    obtain ⟨trust, htrust⟩ := exists_trust h.authorities
    have hgiven : (trust.isNone && identity.isNone) = false := by
      have hidentityGiven := (identityMaterial_eq_ok hidentity).2
      have htrustGiven := (trustMaterial_eq_ok htrust).2
      rw [← Option.not_isSome, ← Option.not_isSome, hidentityGiven, htrustGiven]
      rcases h.given with h | h | h <;> simp [h]
    unfold accept
    rw [hidentity, htrust]
    show (if (trust.isNone && identity.isNone) = true then _ else _) = _
    rw [hgiven]
    rfl

end Config

/-! ## Mappings -/

namespace Mapping

/-- A mapping has a text for a field, and not the empty one. -/
def Gives (m : Mapping) (f : Field) (s : String) : Prop := (f.name, .text s) ∈ m.pairs ∧ s ≠ ""

/-- The rules that a configuration has to keep. -/
structure Acceptable (m : Mapping) (files : Files) : Prop where
  typed : m.Typed
  provided : ∃ f ∈ [Field.cafile, .cadata, .certfile], ∃ s, m.Gives f s
  certified : ∀ key, m.Gives .keyfile key → ∃ path, m.Gives .certfile path
  present : ∀ f ∈ [Field.cafile, .certfile, .keyfile], ∀ path, m.Gives f path → files.HasFile path

end Mapping

namespace Config

variable {files : Files} {m m' : Mapping} {c : Config} {s : String}

theorem optional_eq_text_iff {t : Option String} : valueOf.optional t = .text s ↔ t = some s := by
  cases t <;> simp [valueOf.optional]

/-- A field of texts has what the mapping gives, and nothing by default. -/
theorem valueOf_eq_text_iff (h : c.IsOver .default m) {f : Field} (hkept : f.kept = id)
    (hdefault : Config.default.valueOf f = .null) :
    c.valueOf f = .text s ↔ (f.name, .text s) ∈ m.pairs := by
  rw [h f, hkept, hdefault, Option.map_id, id_eq, ← Mapping.get?_eq_some_iff]
  cases m.get? f.name <;> simp

/-- A text that is used is one that the mapping gives. -/
theorem nonempty?_iff_gives (h : c.IsOver .default m) {f : Field} {t : Option String}
    (hvalue : c.valueOf f = valueOf.optional t) (hkept : f.kept = id)
    (hdefault : Config.default.valueOf f = .null) : nonempty? t = some s ↔ m.Gives f s := by
  rw [nonempty?_eq_some_iff, ← optional_eq_text_iff, ← hvalue,
    valueOf_eq_text_iff h hkept hdefault]
  exact Iff.rfl

/-- The rules of a mapping are those of the configuration that it stands for. -/
theorem acceptable_iff_provided (h : decode m.entries = .ok c) :
    m.Acceptable files ↔ c.Provided files := by
  obtain ⟨htyped, hover⟩ := decode_eq_ok_iff.mp h
  have hcafile (s : String) : nonempty? c.cafile = some s ↔ m.Gives .cafile s :=
    nonempty?_iff_gives hover rfl rfl rfl
  have hcadata (s : String) : nonempty? c.cadata = some s ↔ m.Gives .cadata s :=
    nonempty?_iff_gives hover rfl rfl rfl
  have hcertfile (s : String) : nonempty? c.certfile = some s ↔ m.Gives .certfile s :=
    nonempty?_iff_gives hover rfl rfl rfl
  have hkeyfile (s : String) : nonempty? c.keyfile = some s ↔ m.Gives .keyfile s :=
    nonempty?_iff_gives hover rfl rfl rfl
  constructor
  · rintro ⟨-, ⟨f, hf, s, hs⟩, hcertified, hpresent⟩
    refine ⟨?_, ⟨?_, ?_, ?_⟩, ?_⟩
    · simp only [List.mem_cons, List.not_mem_nil, or_false] at hf
      rcases hf with rfl | rfl | rfl
      · exact .inl (Option.isSome_of_mem ((hcafile _).mpr hs))
      · exact .inr (.inl (Option.isSome_of_mem ((hcadata _).mpr hs)))
      · exact .inr (.inr (Option.isSome_of_mem ((hcertfile _).mpr hs)))
    · intro key hkey
      obtain ⟨path, hpath⟩ := hcertified key ((hkeyfile _).mp hkey)
      exact Option.isSome_of_mem ((hcertfile _).mpr hpath)
    · exact fun path hpath =>
        hpresent .certfile (by decide) path ((hcertfile _).mp hpath)
    · exact fun path hpath =>
        hpresent .keyfile (by decide) path ((hkeyfile _).mp hpath)
    · exact fun path hpath =>
        hpresent .cafile (by decide) path ((hcafile _).mp hpath)
  · rintro ⟨hgiven, ⟨hcertified, hcertificate, hkey⟩, hauthorities⟩
    refine ⟨htyped, ?_, ?_, ?_⟩
    · rcases hgiven with hgiven | hgiven | hgiven
      · obtain ⟨s, hs⟩ := Option.isSome_iff_exists.mp hgiven
        exact ⟨.cafile, by decide, s, (hcafile _).mp hs⟩
      · obtain ⟨s, hs⟩ := Option.isSome_iff_exists.mp hgiven
        exact ⟨.cadata, by decide, s, (hcadata _).mp hs⟩
      · obtain ⟨s, hs⟩ := Option.isSome_iff_exists.mp hgiven
        exact ⟨.certfile, by decide, s, (hcertfile _).mp hs⟩
    · intro key hgives
      have hsome := hcertified key ((hkeyfile _).mpr hgives)
      obtain ⟨path, hpath⟩ := Option.isSome_iff_exists.mp hsome
      exact ⟨path, (hcertfile _).mp hpath⟩
    · intro f hf path hgives
      simp only [List.mem_cons, List.not_mem_nil, or_false] at hf
      rcases hf with rfl | rfl | rfl
      · exact hauthorities path ((hcafile _).mpr hgives)
      · exact hcertificate path ((hcertfile _).mpr hgives)
      · exact hkey path ((hkeyfile _).mpr hgives)

/-! ## Acceptance -/

variable {π τ : Type} [Platform π τ] {entries : List (Value × Value)} {w : World π τ} {f : Failure}

theorem checked_eq_ok_iff : checked entries = .ok c ↔ decode entries = .ok c := by
  unfold checked
  cases decode entries <;> simp

theorem ofEntries_ok_iff :
    (∃ u, ofEntries entries w = .ok c u) ↔ (checked entries >>= accept w.files) = .ok c := by
  obtain ⟨j, hends⟩ := ofEntries_eq entries w
  rw [hends]
  cases checked entries >>= accept w.files <;> simp

theorem ofEntries_error_iff :
    (∃ u, ofEntries entries w = .error f u) ↔ (checked entries >>= accept w.files) = .error f := by
  obtain ⟨j, hends⟩ := ofEntries_eq entries w
  rw [hends]
  cases checked entries >>= accept w.files <;> simp

theorem checked_accept_eq_ok_iff :
    (checked entries >>= accept files) = .ok c ↔ decode entries = .ok c ∧ c.Provided files := by
  constructor
  · intro h
    obtain ⟨decoded, hchecked, haccept⟩ := exists_of_bind_ok h
    obtain ⟨rfl, hprovided⟩ := accept_eq_ok_iff.mp haccept
    exact ⟨checked_eq_ok_iff.mp hchecked, hprovided⟩
  · rintro ⟨hdecode, hprovided⟩
    rw [checked_eq_ok_iff.mpr hdecode]
    exact accept_eq_ok_iff.mpr ⟨rfl, hprovided⟩

/-- A mapping is accepted as the configuration that it stands for, if that one is provided. -/
theorem accepted_iff :
    (∃ u, ofEntries entries w = .ok c u) ↔ decode entries = .ok c ∧ c.Provided w.files :=
  ofEntries_ok_iff.trans checked_accept_eq_ok_iff

/-- A refusal is a configuration error, unless the system does not say whether a file is there. -/
theorem refused_iff (hf : f.kind ≠ .configuration) :
    (∃ u, ofEntries entries w = .error f u) ↔
      ∃ c, decode entries = .ok c ∧ c.Denied w.files f := by
  rw [ofEntries_error_iff]
  constructor
  · intro h
    obtain ⟨c, hchecked, hdenied⟩ := (checked_accept_eq_error h).resolve_left hf
    exact ⟨c, checked_eq_ok_iff.mp hchecked, hdenied⟩
  · rintro ⟨c, hdecode, hdenied⟩
    exact checked_accept_of_denied (checked_eq_ok_iff.mpr hdecode) hdenied

/-- The order of the entries does not matter to what a mapping stands for. -/
theorem decode_of_perm (h : m'.pairs.Perm m.pairs) :
    decode m'.entries = .ok c ↔ decode m.entries = .ok c := by
  have hget (key : String) : m'.get? key = m.get? key := by
    apply Option.ext
    intro v
    show m'.get? key = some v ↔ m.get? key = some v
    rw [Mapping.get?_eq_some_iff, Mapping.get?_eq_some_iff, h.mem_iff]
  have htyped : m'.Typed ↔ m.Typed := by
    simp only [Mapping.Typed, h.mem_iff]
  rw [decode_eq_ok_iff, decode_eq_ok_iff, htyped]
  simp only [IsOver, hget]

/-- A mapping is accepted if and only if it keeps the rules, whatever the order of its entries, and
then the configuration has what the mapping gives and defaults for the rest.  What is refused is
refused with a configuration error, unless the entries are typed and the system does not say whether
a file that they name is there. -/
theorem accepted_iff_acceptable {π τ : Type} [Platform π τ] (m : Mapping) (w : World π τ) :
    ((∃ c u, ofEntries m.entries w = .ok c u) ↔ m.Acceptable w.files) ∧
      (∀ c u, ofEntries m.entries w = .ok c u → c.IsOver .default m) ∧
      (∀ m' : Mapping, m'.pairs.Perm m.pairs → ∀ c,
        (∃ u, ofEntries m'.entries w = .ok c u) ↔ ∃ u, ofEntries m.entries w = .ok c u) ∧
      ∀ f : Failure, f.kind ≠ .configuration →
        ((∃ u, ofEntries m.entries w = .error f u) ↔
          m.Typed ∧ ∃ c : Config, c.IsOver .default m ∧ c.Denied w.files f) := by
  refine ⟨⟨?_, ?_⟩, ?_, ?_, ?_⟩
  · rintro ⟨c, hc⟩
    obtain ⟨hdecode, hprovided⟩ := accepted_iff.mp hc
    exact (acceptable_iff_provided hdecode).mpr hprovided
  · intro h
    obtain ⟨c, hdecode⟩ := exists_decode h.typed
    exact ⟨c, accepted_iff.mpr ⟨hdecode, (acceptable_iff_provided hdecode).mp h⟩⟩
  · intro c u hc
    exact (decode_eq_ok_iff.mp (accepted_iff.mp ⟨u, hc⟩).1).2
  · intro m' hperm c
    rw [accepted_iff, accepted_iff, decode_of_perm hperm]
  · intro f hf
    rw [refused_iff hf]
    constructor
    · rintro ⟨c, hdecode, hdenied⟩
      obtain ⟨htyped, hover⟩ := decode_eq_ok_iff.mp hdecode
      exact ⟨htyped, c, hover, hdenied⟩
    · rintro ⟨htyped, c, hover, hdenied⟩
      exact ⟨c, decode_eq_ok_iff.mpr ⟨htyped, hover⟩, hdenied⟩

end Config

/-! ## Names that are too long -/

/-- A path of one part is normal. -/
theorem normalPath_of_name {name : String} (hslash : '/' ∉ name.toList) (hempty : name ≠ "")
    (hdot : name ≠ ".") :
    normalPath name = name ∧ pathRoot name = "" ∧ pathParts name = [name] := by
  have hparts : pathParts name = [name] := by
    unfold pathParts
    rw [Net.splitAt_of_not_mem hslash, List.map_singleton, String.ofList_toList]
  have hroot : pathRoot name = "" := by
    unfold pathRoot
    split
    · next h => simp [h] at hslash
    · next h => simp [h] at hslash
    · next h => simp [h] at hslash
    · rfl
  refine ⟨?_, hroot, hparts⟩
  unfold normalPath
  simp [hparts, hroot, hempty, hdot]

namespace Rehearsal.Tree

/-- A name of more than 255 octets is too long, whether or not there is anything to find. -/
theorem denies_of_name {tree : Tree} {name : String}
    (hhere : tree.node? tree.workingDirectory = some .directory) (hslash : '/' ∉ name.toList)
    (hnull : '\x00' ∉ name.toList) (hlong : 255 < name.utf8ByteSize) :
    tree.files.Denies name (nameTooLong.failure [name]) := by
  have hne {s : String} (hs : s.utf8ByteSize ≤ 255) : name ≠ s := by
    rintro rfl
    omega
  have hempty : name ≠ "" := hne (by decide)
  have hdot : name ≠ "." := hne (by decide)
  have hdots : name ≠ ".." := hne (by decide)
  have hwhole : hasNull name = false := by simpa [hasNull] using hnull
  obtain ⟨hnormal, hrootless, hparts⟩ := normalPath_of_name hslash hempty hdot
  have hfind : tree.find name = .error nameTooLong := by
    unfold find
    simp only [hempty, hrootless, hparts, if_true, if_false]
    split
    · rfl
    · simp only [walk, hhere, hempty, hdot, or_self, hdots, if_false, if_pos hlong]
  have hdenies := Files.Denies.intro hwhole (stat_of_error (hnormal ▸ hfind)) rfl
  rwa [hnormal] at hdenies

end Rehearsal.Tree

namespace Config

/-- A name that is too long for a file. -/
def overlongName : String := String.ofList (List.replicate 256 'a')

/-- A timeout of five seconds, and anchors in a file with too long a name. -/
def overlongAnchors : Mapping where
  pairs := [("so_timeout", .int 5), ("cafile", .text overlongName)]
  distinct := by decide

/-- The entries are typed, but looking for the file fails, and not with a configuration error. -/
theorem accepted_iff_acceptable_overlong :
    ∃ f : Failure, f.kind = .os ∧
      ∃ u, ofEntries overlongAnchors.entries emptyAnchors = .error f u := by
  have hletter (c : Char) (hc : c ≠ 'a') : c ∉ overlongName.toList := by
    unfold overlongName
    rw [String.toList_ofList]
    exact fun hmem => hc (List.eq_of_mem_replicate hmem)
  have hsize : 255 < overlongName.utf8ByteSize := by
    unfold overlongName
    rw [String.utf8ByteSize_ofList]
    decide +kernel
  have hdenies : emptyAnchors.files.Denies overlongName
      (Rehearsal.Tree.nameTooLong.failure [overlongName]) :=
    Rehearsal.Tree.denies_of_name rfl (hletter '/' (by decide)) (hletter '\x00' (by decide)) hsize
  have htyped : overlongAnchors.Typed := by
    intro key v hmem
    simp only [overlongAnchors, List.mem_cons, Prod.mk.injEq, List.not_mem_nil, or_false] at hmem
    rcases hmem with ⟨rfl, rfl⟩ | ⟨rfl, rfl⟩
    · exact ⟨.soTimeout, rfl, .inr (.whole (by decide +kernel) (by decide))⟩
    · exact ⟨.cafile, rfl, .inr ⟨overlongName, rfl⟩⟩
  have hover : IsOver { default with
      cafile := some overlongName, soTimeout := .float (Decimal.ofInt 5) } default
      overlongAnchors := by
    intro f
    cases f <;> rfl
  have hnamed : nonempty? (some overlongName) = some overlongName :=
    nonempty?_eq_some_iff.mpr ⟨rfl, fun h => by simp [h] at hsize⟩
  have hkind : (Rehearsal.Tree.nameTooLong.failure [overlongName]).kind = .os := rfl
  obtain ⟨-, -, -, hescapes⟩ := accepted_iff_acceptable overlongAnchors emptyAnchors
  refine ⟨_, hkind, (hescapes _ (by rw [hkind]; decide)).mpr ⟨htyped, _, hover, ?_⟩⟩
  exact .authorities rfl hnamed hdenies

end Config

end TrustGate
