import TrustGate.Proofs.Config.Loaded
import TrustGate.Proofs.Probe.SetUp
import TrustGate.Proofs.Toml.Tables

/-!
# The settings of the probe

Options that are given replace what the file says:

    a.asked f            what the command line asks for in a field, if it does
    a.options            the options that are given, as a mapping
    Base files a table   the table that they are put on top of

A file has to be accepted as it stands, and the options are put on top of the configuration that it
is accepted as.  That configuration stands for the table of the file, so the outcome is the same as
if the options were put on top of the table itself   (accepted_putOnTop, loaded_iff_accepted_twice).
-/

namespace TrustGate.Probe

/-! ## Options -/

/-- What an option asks for, unless it is absent. -/
def given : Value → Option Value
  | .null => none
  | v => some v

/-- The fields that there are options for. -/
def optional : List Field :=
  [.cafile, .certfile, .keyfile, .protocol, .connectTimeout, .checkHostname, .debugLogging]

namespace Arguments

/-- What the command line asks for in a field. -/
def asked (a : Arguments) : Field → Option Value
  | .cafile => given a.cafile
  | .certfile => given a.certfile
  | .keyfile => given a.keyfile
  | .protocol => given a.protocol
  | .connectTimeout => given a.timeout
  | .checkHostname => if a.noCheckHostname then some (.bool false) else Option.none
  | .debugLogging => if a.debug then some (.bool true) else Option.none
  | .cadata | .keyPassword | .soTimeout => Option.none

theorem mem_optional_of_asked {a : Arguments} {f : Field} {v : Value} (h : a.asked f = some v) :
    f ∈ optional := by
  cases f with
  | cadata | keyPassword | soTimeout => cases h
  | _ => decide

/-- The options that are given. -/
def options (a : Arguments) : Mapping where
  pairs := optional.filterMap fun f => (a.asked f).map fun v => (f.name, v)
  distinct := by
    have hname {f : Field} {name : String}
        (h : name ∈ ((a.asked f).map fun v => (f.name, v)).map Prod.fst) : f.name = name := by
      rw [Option.map_map, Option.mem_def, Option.map_eq_some_iff] at h
      obtain ⟨v, -, hv⟩ := h
      exact hv
    rw [List.map_filterMap]
    refine List.Nodup.filterMap (fun f g name hf hg => ?_) (by decide)
    exact Field.name_injective ((hname hf).trans (hname hg).symm)

theorem get?_options (a : Arguments) (f : Field) : a.options.get? f.name = a.asked f := by
  apply Option.ext
  intro v
  rw [Mapping.get?_eq_some_iff]
  constructor
  · intro hmem
    obtain ⟨g, -, hg⟩ := List.mem_filterMap.mp hmem
    obtain ⟨x, hx, heq⟩ := Option.map_eq_some_iff.mp hg
    obtain ⟨hname, rfl⟩ := Prod.mk.inj heq
    rwa [← Field.name_injective hname]
  · intro hv
    exact List.mem_filterMap.mpr ⟨f, mem_optional_of_asked hv, by rw [hv]; rfl⟩

theorem entries_options (a : Arguments) : a.options.entries = a.overrides := by
  have hentries : a.options.entries =
      optional.flatMap fun f => ((a.asked f).map fun v => (Value.text f.name, v)).toList := by
    unfold Mapping.entries options
    rw [List.map_filterMap, List.filterMap_eq_flatMap_toList]
    simp only [Option.map_map, Function.comp_def]
  have hoption (f : Field) (v : Value) :
      ((given v).map fun v => (Value.text f.name, v)).toList =
        (match v with
        | .null => []
        | v => [(Value.text f.name, v)]) := by
    cases v <;> rfl
  rw [hentries]
  simp only [optional, List.flatMap_cons, List.flatMap_nil, List.append_nil, asked, hoption,
    overrides, List.append_assoc]
  cases a.noCheckHostname <;> cases a.debug <;> rfl

end Arguments

/-! ## The table of the file -/

/-- The table in a file is a mapping, as every table of a document is. -/
theorem exists_mapping_of_held {files : Files} {path : String} {document : Toml.Table}
    {table : List (Value × Value)} (hholds : Config.Holds files path document)
    (hheld : Config.TableIn document table) : ∃ m : Mapping, m.entries = table := by
  obtain ⟨_, _, -, -, hread⟩ := hholds
  have hdocument := Toml.read?_isTidy hread
  have htable : Toml.Table.IsTidy table := by
    cases hheld with
    | own hnamed => exact hdocument.get hnamed
    | whole _ => exact hdocument
  obtain ⟨m, hm, -⟩ := htable.exists_mapping
  exact ⟨m, hm⟩

/-- The table that the options are put on top of: that of the file, if one is named. -/
inductive Base (files : Files) (a : Arguments) : List (Value × Value) → Prop
  | unnamed (absent : a.config.isGiven = false) : Base files a []
  | file {document : Toml.Table} {table : List (Value × Value)} (named : a.config.isGiven = true)
      (holds : Config.Holds files a.config.shown document)
      (held : Config.TableIn document table) : Base files a table

variable {files : Files} {a : Arguments} {table : List (Value × Value)} {c held : Config}

theorem Base.exists_mapping (h : Base files a table) : ∃ m : Mapping, m.entries = table := by
  cases h with
  | unnamed _ => exact ⟨⟨[], List.nodup_nil⟩, rfl⟩
  | file _ hholds hheld => exact exists_mapping_of_held hholds hheld

/-! ## The settings -/

/-- The options on top of what a table stands for. -/
theorem decode_putOnTop (h : Base files a table) (hheld : Config.decode table = .ok held) :
    Config.decode (putOnTop table a.overrides) = .ok c ↔
      a.options.Typed ∧ c.IsOver held a.options := by
  obtain ⟨m, rfl⟩ := h.exists_mapping
  rw [← a.entries_options, ← Mapping.entries_update]
  exact Config.decode_update hheld

/-- The options on top of a table, or of the configuration that the table stands for. -/
theorem accepted_putOnTop (h : Base files a table) (hheld : Config.decode table = .ok held) :
    (Config.checked (putOnTop held.entries a.overrides) >>= Config.accept files) = .ok c ↔
      (Config.checked (putOnTop table a.overrides) >>= Config.accept files) = .ok c := by
  obtain ⟨m, rfl⟩ := h.exists_mapping
  have htop : Config.decode (putOnTop held.entries a.overrides) = .ok c ↔
      a.options.Typed ∧ c.IsOver held a.options := by
    rw [← a.entries_options, ← Config.entries_mapping, ← Mapping.entries_update]
    exact Config.decode_update (Config.mapping_stands hheld)
  rw [Config.checked_accept_eq_ok_iff, Config.checked_accept_eq_ok_iff, htop,
    decode_putOnTop h hheld]

theorem settings_eq_ok_iff : a.settings files = .ok c ↔ ∃ table, Base files a table ∧
    (a.config.isGiven = true → ∃ held, (Config.checked table >>= Config.accept files) = .ok held) ∧
    (Config.checked (putOnTop table a.overrides) >>= Config.accept files) = .ok c := by
  cases hgiven : a.config.isGiven with
  | false =>
    rw [Arguments.settings_of_unnamed hgiven]
    constructor
    · intro h
      exact ⟨[], .unnamed hgiven, nofun, h⟩
    · rintro ⟨table, hbase, -, h⟩
      cases hbase with
      | unnamed _ => exact h
      | file hnamed _ _ => exact nomatch hnamed.symm.trans hgiven
  | true =>
    constructor
    · intro h
      cases hfile : Config.fromFile files a.config.shown with
      | error f =>
        rw [Arguments.settings_of_error hgiven hfile] at h
        cases h
      | ok held =>
        obtain ⟨document, table, hholds, hin, haccepted⟩ := Config.fromFile_eq_ok_iff.mp hfile
        have hbase : Base files a table := .file hgiven hholds hin
        have hdecode := (Config.checked_accept_eq_ok_iff.mp haccepted).1
        rw [Arguments.settings_of_file hgiven hfile, accepted_putOnTop hbase hdecode] at h
        exact ⟨table, hbase, fun _ => ⟨held, haccepted⟩, h⟩
    · rintro ⟨table, hbase, hheld, h⟩
      obtain ⟨held, haccepted⟩ := hheld rfl
      have hdecode := (Config.checked_accept_eq_ok_iff.mp haccepted).1
      rw [← accepted_putOnTop hbase hdecode] at h
      cases hbase with
      | unnamed habsent => exact nomatch habsent.symm.trans hgiven
      | @file document _ hnamed hholds hin =>
        have hfile := Config.fromFile_eq_ok_iff.mpr ⟨document, table, hholds, hin, haccepted⟩
        rw [Arguments.settings_of_file hgiven hfile]
        exact h

variable {π τ : Type} [Platform π τ]

theorem loadConfig_ok_iff {w : World π τ} :
    (∃ u, loadConfig a w = .ok c u) ↔ a.settings w.files = .ok c := by
  obtain ⟨j, hload⟩ := loadConfig_eq a w
  rw [hload]
  cases a.settings w.files <;> simp

/-- The settings are loaded if the table of the file, where one is named, is accepted as it stands
and with the options on top, and then they are the latter: an option that is given replaces what the
table has, and one that is absent leaves it. -/
theorem loaded_iff_accepted_twice (a : Arguments) (w : World π τ) :
    (∀ c, (∃ u, loadConfig a w = .ok c u) ↔ ∃ table, Base w.files a table ∧
      (a.config.isGiven = true → ∃ held u, Config.ofEntries table w = .ok held u) ∧
      ∃ u, Config.ofEntries (putOnTop table a.overrides) w = .ok c u) ∧
    ∀ c u, loadConfig a w = .ok c u → ∃ table held, Base w.files a table ∧
      Config.decode table = .ok held ∧
      ∀ f : Field, c.valueOf f = ((a.asked f).map f.kept).getD (held.valueOf f) := by
  constructor
  · intro c
    rw [loadConfig_ok_iff, settings_eq_ok_iff]
    simp only [Config.ofEntries_ok_iff]
  · intro c u hc
    obtain ⟨table, hbase, hheld, haccepted⟩ := settings_eq_ok_iff.mp (loadConfig_ok_iff.mp ⟨u, hc⟩)
    have hdecode := (Config.checked_accept_eq_ok_iff.mp haccepted).1
    have hstands : ∃ held, Config.decode table = .ok held := by
      cases hbase with
      | unnamed _ => exact ⟨.default, rfl⟩
      | file hnamed _ _ =>
        obtain ⟨held, hheld⟩ := hheld hnamed
        exact ⟨held, (Config.checked_accept_eq_ok_iff.mp hheld).1⟩
    obtain ⟨held, hheld⟩ := hstands
    refine ⟨table, held, hbase, hheld, fun f => ?_⟩
    rw [((decode_putOnTop hbase hheld).mp hdecode).2 f, a.get?_options]

/-- A file that leaves its anchors to the command line, and the anchors. -/
def incompleteFile : World Rehearsal.Stage Float :=
  .initial (Rehearsal.Stage.start 0.0 0.0)
    (Rehearsal.Tree.mk [(["srv", "c.toml"], .file (Encoding.encodeUtf8 "debug_logging = true")),
      (["srv", "ca.pem"], .file [])] ["srv"]).files

/-- The options that would complete it. -/
def completing : Arguments :=
  { Arguments.none with
    host := .text "localhost", port := .int 443, config := .text "c.toml",
    cafile := .text "ca.pem" }

/-- With the option on top, the table of the file would be accepted, but the file is not. -/
theorem incomplete_file_refused :
    ∃ table, Base incompleteFile.files completing table ∧
      (∃ c u, Config.ofEntries (putOnTop table completing.overrides) incompleteFile = .ok c u) ∧
      ¬∃ c u, loadConfig completing incompleteFile = .ok c u := by
  have hread : incompleteFile.files.read completing.config.shown =
      .ok (Encoding.encodeUtf8 "debug_logging = true") := rfl
  have hdecoded : Encoding.decodeUtf8 (Encoding.encodeUtf8 "debug_logging = true") =
      .ok "debug_logging = true" := by decide +kernel
  have hdocument : Toml.read? "debug_logging = true" =
      some [(.text "debug_logging", .bool true)] := by cbv
  have hrefused : (Tls.outcome (loadConfig completing incompleteFile)).isOk = false := by
    decide +kernel
  refine ⟨[(.text "debug_logging", .bool true)],
    .file rfl ⟨_, _, hread, hdecoded, hdocument⟩ (.whole rfl), ⟨_, _, rfl⟩, ?_⟩
  rintro ⟨c, u, hloaded⟩
  rw [hloaded] at hrefused
  cases hrefused

end TrustGate.Probe
