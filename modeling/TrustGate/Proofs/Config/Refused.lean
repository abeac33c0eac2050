import TrustGate.Proofs.Config.Usable

/-!
# What configurations are refused for

A configuration that cannot be used is refused with a configuration error, whether it comes from a
mapping or from a file.  There are two exceptions, and both are about files:

    Config.Illegible files path f     the path has a null in it, or the file is no UTF-8
    c.Denied files f                  the system does not say whether a file that `c` names is there

What is derived from entries and files alone is written without an action:

    c.accept files                    the checks of the material
    Config.fromFile files path        the configuration in a file       (load_eq)
-/

namespace TrustGate

namespace Config

theorem error_or_of_bind_error {ε α β : Type} {r : Except ε α} {k : α → Except ε β} {e : ε}
    (h : r >>= k = .error e) : r = .error e ∨ ∃ x, r = .ok x ∧ k x = .error e := by
  cases r with
  | ok x => exact .inr ⟨x, rfl, h⟩
  | error e' =>
    cases h
    exact .inl rfl

variable {files : Files} {c : Config} {f : Failure} {path : String}

theorem error_of_map_error {ε α β : Type} {r : Except ε α} {k : α → β} {e : ε}
    (h : r.map k = .error e) : r = .error e := by
  cases r with
  | ok x => cases h
  | error e' =>
    cases h
    rfl

/-- A file that has to be there is denied, or that it is not there is the fault, or it is there and
what follows fails. -/
theorem required_eq_error {α β : Type} {fault : MaterialFault} {next : β → Except Failure α}
    {rest : Except Failure α}
    (h : (files.isFile path >>= fun found =>
      if (!found) = true then refuse fault >>= next else rest) = .error f) :
    files.Denies path f ∨ f.kind = .configuration ∨
      files.isFile path = .ok true ∧ rest = .error f := by
  rcases error_or_of_bind_error h with hfails | ⟨found, hfound, h⟩
  · exact .inl (Files.isFile_eq_error_iff.mp hfails)
  · cases found with
    | false =>
      cases h
      exact .inr (.inl rfl)
    | true => exact .inr (.inr ⟨hfound, h⟩)

/-- The system does not say whether a file is there that the configuration names, and the material
before it is there. -/
inductive Denied (files : Files) (c : Config) : Failure → Prop
  | certificate {path : String} {f : Failure} (named : nonempty? c.certfile = some path)
      (denied : files.Denies path f) : Denied files c f
  | key {path key : String} {f : Failure} (named : nonempty? c.certfile = some path)
      (found : files.isFile path = .ok true) (keyed : nonempty? c.keyfile = some key)
      (denied : files.Denies key f) : Denied files c f
  | authorities {identity : Option IdentityMaterial} {path : String} {f : Failure}
      (identified : c.identityMaterial files = .ok identity)
      (named : nonempty? c.cafile = some path) (denied : files.Denies path f) : Denied files c f

theorem Denied.isOs (h : c.Denied files f) : f.kind.isOs = true := by
  cases h with
  | certificate _ hdenied => exact hdenied.isOs
  | key _ _ _ hdenied => exact hdenied.isOs
  | authorities _ _ hdenied => exact hdenied.isOs

theorem identityMaterial_eq_error (h : c.identityMaterial files = .error f) :
    f.kind = .configuration ∨ c.Denied files f := by
  cases hcertificate : nonempty? c.certfile with
  | none =>
    cases hkey : nonempty? c.keyfile with
    | none =>
      simp only [identityMaterial, hcertificate, hkey] at h
      cases h
    | some key =>
      simp only [identityMaterial, hcertificate, hkey] at h
      cases h
      exact .inl rfl
  | some path =>
    simp only [identityMaterial, IdentityMaterial.make, hcertificate] at h
    rcases required_eq_error (error_of_map_error h) with hdenied | hkind | ⟨hfound, h⟩
    · exact .inr (.certificate hcertificate hdenied)
    · exact .inl hkind
    · cases hkey : nonempty? c.keyfile with
      | none =>
        simp only [hkey] at h
        cases h
      | some key =>
        simp only [hkey] at h
        rcases required_eq_error h with hdenied | hkind | ⟨-, h⟩
        · exact .inr (.key hcertificate hfound hkey hdenied)
        · exact .inl hkind
        · cases h

theorem trustMaterial_eq_error (h : c.trustMaterial files = .error f) :
    f.kind = .configuration ∨
      ∃ path, nonempty? c.cafile = some path ∧ files.Denies path f := by
  cases hfile : nonempty? c.cafile with
  | none =>
    cases hdata : nonempty? c.cadata with
    | none =>
      simp only [trustMaterial, hfile, hdata] at h
      cases h
    | some text =>
      simp only [trustMaterial, TrustMaterial.make, hfile, hdata] at h
      cases h
  | some path =>
    simp only [trustMaterial, TrustMaterial.make, hfile] at h
    rcases required_eq_error (error_of_map_error h) with hdenied | hkind | ⟨-, h⟩
    · exact .inr ⟨path, rfl, hdenied⟩
    · exact .inl hkind
    · cases h

/-- Material that is not there is a configuration error, unless the system does not say so. -/
theorem accept_eq_error (h : c.accept files = .error f) :
    f.kind = .configuration ∨ c.Denied files f := by
  rcases error_or_of_bind_error h with hidentity | ⟨identity, hidentity, h⟩
  · exact identityMaterial_eq_error hidentity
  · rcases error_or_of_bind_error h with htrust | ⟨trust, htrust, h⟩
    · refine (trustMaterial_eq_error htrust).imp_right ?_
      rintro ⟨path, hnamed, hdenied⟩
      exact .authorities hidentity hnamed hdenied
    · refine .inl ?_
      cases trust <;> cases identity <;> cases h
      rfl

theorem accept_of_denied (h : c.Denied files f) : c.accept files = .error f := by
  have hidentity (hfails : c.identityMaterial files = .error f) : c.accept files = .error f := by
    unfold accept
    rw [hfails]
    rfl
  cases h with
  | certificate hnamed hdenied =>
    refine hidentity ?_
    simp only [identityMaterial, IdentityMaterial.make, hnamed,
      Files.isFile_eq_error_iff.mpr hdenied]
    rfl
  | key hnamed hfound hkeyed hdenied =>
    refine hidentity ?_
    simp only [identityMaterial, IdentityMaterial.make, hnamed, hfound, hkeyed,
      Files.isFile_eq_error_iff.mpr hdenied]
    rfl
  | authorities hidentified hnamed hdenied =>
    unfold accept
    rw [hidentified]
    simp only [trustMaterial, TrustMaterial.make, hnamed, Files.isFile_eq_error_iff.mpr hdenied]
    rfl

/-! ## Files -/

/-- The path to a configuration has a null in it, or leads to a file that is no UTF-8. -/
inductive Illegible (files : Files) (path : String) : Failure → Prop
  | null (marked : hasNull path = true) : Illegible files path (Failure.of NullInPath.mk)
  | undecodable {octets : Octets} {fault : Encoding.Utf8Fault} (read : files.read path = .ok octets)
      (decoded : Encoding.decodeUtf8 octets = .error fault) :
      Illegible files path (Failure.of fault)

theorem Illegible.kind (h : Illegible files path f) :
    f.kind = .value ∨ f.kind = .unicodeDecode := by
  cases h with
  | null _ => exact .inl rfl
  | undecodable _ _ => exact .inr rfl

theorem readDocument_eq_error (h : readDocument files path = .error f) :
    f.kind = .configuration ∨ Illegible files path f := by
  unfold readDocument at h
  cases hread : files.read path with
  | error g =>
    rw [hread] at h
    rcases Files.read_eq_error hread with hos | ⟨hnull, rfl⟩
    · simp only [hos, if_true] at h
      cases h
      exact .inl rfl
    · cases h
      exact .inr (.null hnull)
  | ok octets =>
    rw [hread] at h
    cases hdecoded : Encoding.decodeUtf8 octets with
    | error fault =>
      simp only [pure_bind, hdecoded] at h
      cases h
      exact .inr (.undecodable hread hdecoded)
    | ok text =>
      simp only [pure_bind, hdecoded] at h
      cases hdocument : Toml.read? text with
      | some document =>
        simp only [hdocument] at h
        cases h
      | none =>
        simp only [hdocument] at h
        cases h
        exact .inl rfl

theorem readDocument_of_illegible (h : Illegible files path f) :
    readDocument files path = .error f := by
  unfold readDocument
  cases h with
  | null hmarked =>
    rw [Files.read_of_null hmarked]
    rfl
  | undecodable hread hdecoded =>
    rw [hread]
    simp only [pure_bind, hdecoded]
    rfl

/-- The configuration in a file. -/
def fromFile (files : Files) (path : String) : Except Failure Config := do
  let document ← readDocument files path
  let table ← tableOf (normalPath path) document
  checked table >>= accept files

/-- The configuration in a file is lost: the file is not legible, or one that it names is denied. -/
inductive Lost (files : Files) (path : String) (f : Failure) : Prop
  | illegible (h : Illegible files path f)
  | denied {document : Toml.Table} {table : List (Value × Value)} {c : Config}
      (read : readDocument files path = .ok document)
      (held : tableOf (normalPath path) document = .ok table) (decoded : checked table = .ok c)
      (denied : c.Denied files f)

theorem Lost.not_isFactory (h : Lost files path f) : f.kind.isFactory = false := by
  cases h with
  | illegible h => rcases h.kind with hkind | hkind <;> rw [hkind] <;> rfl
  | denied _ _ _ h => exact FailureKind.not_isFactory_of_isOs h.isOs

theorem checked_eq_error {entries : List (Value × Value)} (h : checked entries = .error f) :
    f.kind = .configuration := by
  unfold checked at h
  split at h
  · cases h
  · cases h
    rfl

/-- A mapping is refused, unless the system does not say whether a file is there. -/
theorem checked_accept_eq_error {entries : List (Value × Value)}
    (h : checked entries >>= accept files = .error f) :
    f.kind = .configuration ∨ ∃ c, checked entries = .ok c ∧ c.Denied files f := by
  rcases error_or_of_bind_error h with hchecked | ⟨c, hchecked, h⟩
  · exact .inl (checked_eq_error hchecked)
  · exact (accept_eq_error h).imp_right fun hdenied => ⟨c, hchecked, hdenied⟩

theorem checked_accept_of_denied {entries : List (Value × Value)} (h : checked entries = .ok c)
    (hdenied : c.Denied files f) : checked entries >>= accept files = .error f := by
  rw [h]
  exact accept_of_denied hdenied

theorem tableOf_eq_error {document : Toml.Table} (h : tableOf path document = .error f) :
    f.kind = .configuration := by
  unfold tableOf at h
  split at h
  · cases h
  · cases h
  · cases h
    rfl

theorem fromFile_eq_error (h : fromFile files path = .error f) :
    f.kind = .configuration ∨ Lost files path f := by
  rcases error_or_of_bind_error h with hread | ⟨document, hread, h⟩
  · exact (readDocument_eq_error hread).imp_right .illegible
  · rcases error_or_of_bind_error h with hheld | ⟨table, hheld, h⟩
    · exact .inl (tableOf_eq_error hheld)
    · refine (checked_accept_eq_error h).imp_right ?_
      rintro ⟨c, hdecoded, hdenied⟩
      exact .denied hread hheld hdecoded hdenied

theorem fromFile_of_document {document : Toml.Table}
    (hread : readDocument files path = .ok document) :
    fromFile files path =
      tableOf (normalPath path) document >>= fun table => checked table >>= accept files := by
  unfold fromFile
  rw [hread]
  rfl

theorem fromFile_of_lost (h : Lost files path f) : fromFile files path = .error f := by
  cases h with
  | illegible h =>
    unfold fromFile
    rw [readDocument_of_illegible h]
    rfl
  | denied hread hheld hdecoded hdenied =>
    rw [fromFile_of_document hread, hheld]
    exact checked_accept_of_denied hdecoded hdenied

variable {π τ : Type} [Platform π τ]

theorem load_eq (path : String) (w : World π τ) :
    ∃ j, load path w =
      match fromFile w.files path with
      | .ok c => .ok c { w with journal := j }
      | .error f => .error f { w with journal := j } := by
  unfold load
  rw [Action.bind_of_ok (Action.get_eq w)]
  cases hread : readDocument w.files path with
  | error f =>
    refine ⟨w.journal, ?_⟩
    unfold fromFile
    rw [hread]
    rfl
  | ok document =>
    rw [fromFile_of_document hread, Action.bind_of_ok (Action.ofExcept_ok document w)]
    cases tableOf (normalPath path) document with
    | error f => exact ⟨w.journal, rfl⟩
    | ok table =>
      rw [Action.bind_of_ok (Action.ofExcept_ok table w)]
      obtain ⟨j, hj⟩ := debugLog_ok logger "Loaded configuration from %s"
        [.text (normalPath path)] w
      obtain ⟨j', hj'⟩ := ofEntries_eq table { w with journal := j }
      exact ⟨j', (Action.bind_of_ok hj _).trans hj'⟩

end Config

end TrustGate
