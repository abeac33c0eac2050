import TrustGate.Proofs.Config.Accepted

/-!
# Configurations in files

A file is loaded as the configuration of the table that it holds:

    Holds files path document     the file is there, it is UTF-8, and it is TOML for `document`
    TableIn document table        the document's own table, or all of it if it has none

What cannot be loaded is refused with a configuration error, but for what escapes:

    Escapes files path f          a null in the path, octets that are no text, or a file in the
                                  table that the system does not say of whether it is there
                                                                    (loaded_iff_held)
-/

namespace TrustGate

namespace Config

/-! ## Documents -/

/-- A file is there, it is UTF-8, and it is TOML for a document. -/
def Holds (files : Files) (path : String) (document : Toml.Table) : Prop :=
  ∃ octets text, files.read path = .ok octets ∧
    Encoding.decodeUtf8 octets = .ok text ∧ Toml.read? text = some document

/-- The table of a document that the configuration is in. -/
inductive TableIn (document : Toml.Table) : List (Value × Value) → Prop
  | own {table : List (Value × Value)} (named : document.get? ownTable = some (.dict table)) :
      TableIn document table
  | whole (unnamed : document.get? ownTable = none) : TableIn document document

variable {files : Files} {path : String} {document : Toml.Table} {table : List (Value × Value)}
  {c : Config} {f : Failure}

theorem readDocument_eq_ok_iff :
    readDocument files path = .ok document ↔ Holds files path document := by
  constructor
  · intro h
    unfold readDocument at h
    cases hread : files.read path with
    | error g =>
      rw [hread] at h
      by_cases hos : g.kind.isOs = true
      · simp only [hos, if_true] at h
        cases h
      · simp only [hos, Bool.false_eq_true, if_false] at h
        cases h
    | ok octets =>
      rw [hread] at h
      cases hdecoded : Encoding.decodeUtf8 octets with
      | error fault =>
        simp only [pure_bind, hdecoded] at h
        cases h
      | ok text =>
        simp only [pure_bind, hdecoded] at h
        cases hdocument : Toml.read? text with
        | none =>
          simp only [hdocument] at h
          cases h
        | some _ =>
          simp only [hdocument] at h
          cases h
          exact ⟨octets, text, hread, hdecoded, hdocument⟩
  · rintro ⟨octets, text, hread, hdecoded, hdocument⟩
    unfold readDocument
    rw [hread]
    simp only [pure_bind, hdecoded, hdocument]
    rfl

theorem tableOf_eq_ok_iff : tableOf path document = .ok table ↔ TableIn document table := by
  constructor
  · intro h
    unfold tableOf at h
    split at h
    · next hunnamed =>
      cases h
      exact .whole hunnamed
    · next hnamed =>
      cases h
      exact .own hnamed
    · cases h
  · intro h
    unfold tableOf
    cases h with
    | own hnamed => rw [hnamed]
    | whole hunnamed => rw [hunnamed]

/-- A file holds a configuration if the table in it is one. -/
theorem fromFile_eq_ok_iff : fromFile files path = .ok c ↔ ∃ document table,
    Holds files path document ∧ TableIn document table ∧
      (checked table >>= accept files) = .ok c := by
  constructor
  · intro h
    obtain ⟨document, hread, h⟩ := exists_of_bind_ok h
    obtain ⟨table, htable, h⟩ := exists_of_bind_ok h
    exact ⟨document, table, readDocument_eq_ok_iff.mp hread, tableOf_eq_ok_iff.mp htable, h⟩
  · rintro ⟨document, table, hholds, htable, h⟩
    rw [fromFile_of_document (readDocument_eq_ok_iff.mpr hholds), tableOf_eq_ok_iff.mpr htable]
    exact h

/-! ## What escapes -/

/-- What loading a file fails with that is no configuration error. -/
inductive Escapes (files : Files) (path : String) : Failure → Prop
  | null (marked : hasNull path = true) :
      Escapes files path (Failure.plain .value "embedded null byte")
  | undecodable {octets : Octets} {fault : Encoding.Utf8Fault} (read : files.read path = .ok octets)
      (decoded : Encoding.decodeUtf8 octets = .error fault) : Escapes files path (Failure.of fault)
  | denied {document : Toml.Table} {table : List (Value × Value)} {c : Config} {f : Failure}
      (holds : Holds files path document) (held : TableIn document table)
      (decoded : decode table = .ok c) (denied : c.Denied files f) : Escapes files path f

theorem lost_iff_escapes : Lost files path f ↔ Escapes files path f := by
  constructor
  · intro h
    cases h with
    | illegible h =>
      cases h with
      | null hmarked => exact .null hmarked
      | undecodable hread hdecoded => exact .undecodable hread hdecoded
    | denied hread hheld hdecoded hdenied =>
      exact .denied (readDocument_eq_ok_iff.mp hread) (tableOf_eq_ok_iff.mp hheld)
        (checked_eq_ok_iff.mp hdecoded) hdenied
  · intro h
    cases h with
    | null hmarked => exact .illegible (.null hmarked)
    | undecodable hread hdecoded => exact .illegible (.undecodable hread hdecoded)
    | denied hholds hheld hdecoded hdenied =>
      exact .denied (readDocument_eq_ok_iff.mpr hholds) (tableOf_eq_ok_iff.mpr hheld)
        (checked_eq_ok_iff.mpr hdecoded) hdenied

/-! ## Loading -/

variable {π τ : Type} [Platform π τ]

theorem load_ok_iff {w : World π τ} :
    (∃ u, load path w = .ok c u) ↔ fromFile w.files path = .ok c := by
  obtain ⟨j, hload⟩ := load_eq path w
  rw [hload]
  cases fromFile w.files path <;> simp

theorem load_error_iff {w : World π τ} :
    (∃ u, load path w = .error f u) ↔ fromFile w.files path = .error f := by
  obtain ⟨j, hload⟩ := load_eq path w
  rw [hload]
  cases fromFile w.files path <;> simp

/-- A file is loaded as the configuration that the table in it is accepted as.  It fails with a
configuration error, unless there is a null in the path, the octets are no text, or the system does
not say whether a file that the table names is there. -/
theorem loaded_iff_held (path : String) (w : World π τ) :
    (∀ c, (∃ u, load path w = .ok c u) ↔ ∃ document table, Holds w.files path document ∧
      TableIn document table ∧ ∃ u, ofEntries table w = .ok c u) ∧
    ∀ f : Failure, f.kind ≠ .configuration →
      ((∃ u, load path w = .error f u) ↔ Escapes w.files path f) := by
  constructor
  · intro c
    rw [load_ok_iff, fromFile_eq_ok_iff]
    simp only [ofEntries_ok_iff]
  · intro f hf
    rw [load_error_iff, ← lost_iff_escapes]
    constructor
    · intro h
      exact (fromFile_eq_error h).resolve_left hf
    · exact fromFile_of_lost

/-- A file of one octet that starts no character. -/
def garbledFile : World Rehearsal.Stage Float :=
  .initial (Rehearsal.Stage.start 0.0 0.0)
    (Rehearsal.Tree.mk [(["srv", "c.toml"], .file [0xff])] []).files

/-- Loading it fails as its decoding does. -/
theorem loaded_iff_held_garbled :
    ∃ f u, load "/srv/c.toml" garbledFile = .error f u ∧ f.kind = .unicodeDecode := by
  have hread : garbledFile.files.read "/srv/c.toml" = .ok [0xff] := rfl
  have hdecoded : Encoding.decodeUtf8 [0xff] = .error ⟨0xff, 0, 1, Encoding.invalidStart⟩ := rfl
  have hescapes := Escapes.undecodable hread hdecoded
  obtain ⟨u, hu⟩ := ((loaded_iff_held "/srv/c.toml" garbledFile).2 _ (by decide)).mpr hescapes
  exact ⟨_, u, hu, rfl⟩

end Config

end TrustGate
