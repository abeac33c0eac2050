import TrustGate.Probe.Run
import TrustGate.Proofs.Config.Refused
import TrustGate.Proofs.Connection.Blame
import TrustGate.Proofs.Tls.Installed

/-!
# How the probe is set up

The probe reads its settings and makes a factory for them before it connects anywhere:

    a.settings files          the configuration of the file, with the arguments on top
    Unready a w f             the settings cannot be used, or no factory can be made for them
    Thwarted files a f        the settings are lost, or the truststore that they name is

If it fails, it is for one of these, and it makes no calls but those that make and equip an engine.
In a factory that it made, chains are checked by the library's own validators
(setUp_ends, setUp_equips).
-/

namespace TrustGate

open Trust (Provider)
open Tls.Session (Delegated)

theorem Config.configureLogging_ok {π τ : Type} [Platform π τ] (c : Config) (w : World π τ) :
    ∃ j, c.configureLogging w = .ok () { w with journal := j } := by
  unfold configureLogging
  rw [Action.bind_of_ok (Action.get_eq w), Action.bind_of_ok (Action.set_eq _ w)]
  exact debugLog_ok ..

/-- The validators of a factory that was made for material are the library's own. -/
theorem Factory.MadeOf.delegated {trust : Option TrustMaterial} {anchors : List Certificate}
    {check : Bool} {version : TlsVersion} {f : Factory}
    (h : MadeOf (trustsOf trust anchors check) version check none f) :
    Delegated f.context.validators := by
  intro p hp
  unfold Tls.Context.validators at hp
  rw [h.managers, Tls.Context.filter_managers] at hp
  obtain ⟨q, hq, rfl⟩ := List.mem_map.mp hp
  obtain ⟨m, rfl⟩ := mem_trustsOf (List.mem_of_mem_filter hq)
  exact ⟨_, _, rfl, trivial⟩

namespace Probe

/-! ## Settings -/

namespace Arguments

/-- The entries of the file, if one is named, with those of the command line on top. -/
def mapping (files : Files) (a : Arguments) : Except Failure (List (Value × Value)) :=
  if a.config.isGiven then
    (Config.fromFile files a.config.shown).map fun c => putOnTop c.entries a.overrides
  else .ok (putOnTop [] a.overrides)

def settings (files : Files) (a : Arguments) : Except Failure Config := do
  let entries ← a.mapping files
  Config.checked entries >>= Config.accept files

/-- The settings are lost: the file is, or one that they name is denied. -/
inductive Unloadable (files : Files) (a : Arguments) (f : Failure) : Prop
  | file (named : a.config.isGiven = true) (lost : Config.Lost files a.config.shown f)
  | denied {entries : List (Value × Value)} {c : Config} (mapped : a.mapping files = .ok entries)
      (decoded : Config.checked entries = .ok c) (denied : c.Denied files f)

variable {files : Files} {a : Arguments} {f : Failure}

theorem Unloadable.not_isFactory (h : a.Unloadable files f) : f.kind.isFactory = false := by
  cases h with
  | file _ hlost => exact hlost.not_isFactory
  | denied _ _ hdenied => exact FailureKind.not_isFactory_of_isOs hdenied.isOs

theorem mapping_eq_error (h : a.mapping files = .error f) :
    a.config.isGiven = true ∧ Config.fromFile files a.config.shown = .error f := by
  unfold mapping at h
  split at h
  · next hgiven => exact ⟨hgiven, Config.error_of_map_error h⟩
  · cases h

theorem settings_of_error (hgiven : a.config.isGiven = true)
    (h : Config.fromFile files a.config.shown = .error f) : a.settings files = .error f := by
  unfold settings mapping
  rw [if_pos hgiven, h]
  rfl

theorem settings_of_unnamed (h : a.config.isGiven = false) :
    a.settings files = Config.checked (putOnTop [] a.overrides) >>= Config.accept files := by
  unfold settings mapping
  rw [h]
  rfl

theorem settings_of_file {c : Config} (hgiven : a.config.isGiven = true)
    (h : Config.fromFile files a.config.shown = .ok c) :
    a.settings files = Config.checked (putOnTop c.entries a.overrides) >>= Config.accept files := by
  unfold settings mapping
  rw [if_pos hgiven, h]
  rfl

/-- Settings that cannot be used are refused, unless they are lost. -/
theorem settings_eq_error (h : a.settings files = .error f) :
    f.kind = .configuration ∨ a.Unloadable files f := by
  rcases Config.error_or_of_bind_error h with hmapped | ⟨entries, hmapped, h⟩
  · obtain ⟨hgiven, hfile⟩ := mapping_eq_error hmapped
    exact (Config.fromFile_eq_error hfile).imp_right (.file hgiven)
  · refine (Config.checked_accept_eq_error h).imp_right ?_
    rintro ⟨c, hdecoded, hdenied⟩
    exact .denied hmapped hdecoded hdenied

theorem settings_of_unloadable (h : a.Unloadable files f) : a.settings files = .error f := by
  cases h with
  | file hgiven hlost => exact settings_of_error hgiven (Config.fromFile_of_lost hlost)
  | denied hmapped hdecoded hdenied =>
    unfold settings
    rw [hmapped]
    exact Config.checked_accept_of_denied hdecoded hdenied

theorem usable_of_settings {c : Config} (h : a.settings files = .ok c) : c.Usable files := by
  obtain ⟨entries, -, h⟩ := Config.exists_of_bind_ok h
  exact Config.usable_of_accept h

end Arguments

variable {π τ : Type} [Platform π τ]

theorem loadConfig_eq (a : Arguments) (w : World π τ) :
    ∃ j, loadConfig a w =
      match a.settings w.files with
      | .ok c => .ok c { w with journal := j }
      | .error f => .error f { w with journal := j } := by
  unfold loadConfig
  cases hgiven : a.config.isGiven with
  | false =>
    rw [Arguments.settings_of_unnamed hgiven]
    exact Config.ofEntries_eq _ w
  | true =>
    obtain ⟨j, hload⟩ := Config.load_eq a.config.shown w
    cases hfile : Config.fromFile w.files a.config.shown with
    | error f =>
      rw [hfile] at hload
      rw [Arguments.settings_of_error hgiven hfile]
      exact ⟨j, Action.bind_of_error hload _⟩
    | ok c =>
      rw [hfile] at hload
      rw [Arguments.settings_of_file hgiven hfile]
      obtain ⟨j', hentries⟩ := Config.ofEntries_eq (putOnTop c.entries a.overrides)
        { w with journal := j }
      exact ⟨j', (Action.bind_of_ok hload _).trans hentries⟩

/-! ## The factory -/

/-- The set-up reads settings, and the journal is all it touches until it makes the factory. -/
theorem setUp_eq (a : Arguments) (w : World π τ) :
    ∃ j, setUp a w =
      match a.settings w.files with
      | .ok c => ((fun factory => (c, factory)) <$> Factory.ofConfig c none)
          { w with journal := j }
      | .error f => .error f { w with journal := j } := by
  obtain ⟨j, hload⟩ := loadConfig_eq a w
  unfold setUp
  cases hsettings : a.settings w.files with
  | error f =>
    rw [hsettings] at hload
    exact ⟨j, Action.bind_of_error hload _⟩
  | ok c =>
    rw [hsettings] at hload
    obtain ⟨j', hlogging⟩ := c.configureLogging_ok { w with journal := j }
    have hmake (u : World π τ) :
        (do
          let factory ← Factory.ofConfig c none
          return (c, factory) : Action π τ (Config × Factory)) u =
          ((fun factory => (c, factory)) <$> Factory.ofConfig c none) u := by
      rw [Action.bind_eq, Action.map_eq]
      rfl
    exact ⟨j', (Action.bind_of_ok hload _).trans ((Action.bind_of_ok hlogging _).trans (hmake _))⟩

/-- The settings are lost, or the truststore that they name has a certificate of a version that is
not accepted. -/
inductive Thwarted (files : Files) (a : Arguments) (f : Failure) : Prop
  | unloadable (h : a.Unloadable files f)
  | unaccepted {c : Config} {m : TrustMaterial} (settled : a.settings files = .ok c)
      (trust : c.trustMaterial files = .ok (some m)) (h : m.IsUnaccepted files f)

theorem Thwarted.not_isFactory {files : Files} {a : Arguments} {f : Failure}
    (h : Thwarted files a f) : f.kind.isFactory = false := by
  cases h with
  | unloadable h => exact h.not_isFactory
  | unaccepted _ _ h =>
    rw [h.kind]
    rfl

variable {a : Arguments} {w : World π τ}

theorem setUp_of_thwarted {f : Failure} (h : Thwarted w.files a f) :
    ∃ u, setUp a w = .error f u := by
  obtain ⟨j, hsetUp⟩ := setUp_eq a w
  cases h with
  | unloadable h =>
    rw [Arguments.settings_of_unloadable h] at hsetUp
    exact ⟨_, hsetUp⟩
  | @unaccepted c m hsettings htrust h =>
    obtain ⟨hsound, identity, trust, hidentity, htrust', -⟩ :=
      Arguments.usable_of_settings hsettings
    obtain ⟨version, hversion, -⟩ := hsound.tlsProtocol
    rw [hsettings] at hsetUp
    simp only [Action.map_eq] at hsetUp
    rw [Factory.ofConfig_of_some none (w := { w with journal := j }) hidentity htrust hversion,
      ofTruststore_of_error _ _ _ _ { w with journal := j }
        (TrustMaterial.outcome_of_isUnaccepted h), if_neg h.ne_configuration] at hsetUp
    exact ⟨_, hsetUp⟩

/-- The settings cannot be used, or no factory can be made for them. -/
inductive Unready (a : Arguments) (w : World π τ) : Failure → Prop
  | settings {f : Failure} (refused : a.settings w.files = .error f)
      (kind : f.kind = .configuration) : Unready a w f
  | factory {c : Config} {f : Failure} {u : World π τ} (settled : a.settings w.files = .ok c)
      (failed : setUp a w = .error f u) (kind : f.kind = .initialization) : Unready a w f

theorem Unready.isFactory {f : Failure} (h : Unready a w f) : f.kind.isFactory = true := by
  cases h with
  | settings _ hkind =>
    rw [hkind]
    rfl
  | factory _ _ hkind =>
    rw [hkind]
    rfl

theorem Unready.setUp_eq_error {f : Failure} (h : Unready a w f) :
    ∃ u, setUp a w = .error f u := by
  cases h with
  | settings hrefused _ =>
    obtain ⟨j, hsetUp⟩ := setUp_eq a w
    rw [hrefused] at hsetUp
    exact ⟨_, hsetUp⟩
  | factory _ hfailed _ => exact ⟨_, hfailed⟩

/-- The set-up fails because the library refuses it or because it is thwarted, if calls fail as
operating systems do. -/
theorem setUp_ends (hos : FailsOnly (fun f => f.kind.isOs = true) w ((setUp a).after w)) :
    match setUp a w with
    | .ok (_, factory) _ => Delegated factory.context.validators
    | .error f _ => Unready a w f ∨ Thwarted w.files a f := by
  obtain ⟨j, hsetUp⟩ := setUp_eq a w
  unfold Action.after at hos
  rw [hsetUp] at hos ⊢
  cases hsettings : a.settings w.files with
  | error f => exact (Arguments.settings_eq_error hsettings).imp (.settings hsettings) .unloadable
  | ok c =>
    obtain ⟨hsound, identity, trust, hidentity, htrust, hsome⟩ :=
      Arguments.usable_of_settings hsettings
    obtain ⟨version, hversion, hresolves⟩ := hsound.tlsProtocol
    rw [hsettings] at hos
    have hplain : FailsOnly Factory.IsPlain { w with journal := j }
        ((Factory.ofConfig c none).after { w with journal := j }) := by
      rw [← Action.after_map (fun factory => (c, factory))]
      exact fun x hx f hfault => .inl (hos x hx f hfault)
    have hconfigured := Factory.ofConfig_configured none (w := { w with journal := j }) hidentity
      htrust hversion hresolves hsome hplain
    rw [hsettings] at hsetUp
    simp only [Action.map_eq] at hsetUp ⊢
    cases hf : Factory.ofConfig c none { w with journal := j } with
    | ok factory u =>
      rw [hf] at hconfigured
      obtain ⟨anchors, hmade⟩ := hconfigured
      exact hmade.delegated
    | error f u =>
      rw [hf] at hconfigured
      rw [hf] at hsetUp
      refine hconfigured.imp (.factory hsettings hsetUp) ?_
      rintro ⟨m, rfl, hunaccepted⟩
      exact .unaccepted hsettings htrust hunaccepted

theorem sound_of_setUp {c : Config} {factory : Factory} {u : World π τ}
    (h : setUp a w = .ok (c, factory) u) : c.Sound := by
  obtain ⟨j, hsetUp⟩ := setUp_eq a w
  cases hsettings : a.settings w.files with
  | error f =>
    rw [hsettings] at hsetUp
    cases hsetUp.symm.trans h
  | ok c' =>
    rw [hsettings] at hsetUp
    simp only [Action.map_eq] at hsetUp
    cases hf : Factory.ofConfig c' none { w with journal := j } with
    | error f v =>
      rw [hf] at hsetUp
      cases hsetUp.symm.trans h
    | ok factory' v =>
      rw [hf] at hsetUp
      cases hsetUp.symm.trans h
      exact (Arguments.usable_of_settings hsettings).sound

theorem setUp_equips (a : Arguments) (w : World π τ) :
    Makes Call.IsEquipping w ((setUp a).after w) := by
  obtain ⟨j, hsetUp⟩ := setUp_eq a w
  unfold Action.after
  rw [hsetUp]
  cases a.settings w.files with
  | error f => exact .refl w
  | ok c =>
    have hmap := Action.after_map (fun factory => (c, factory)) (Factory.ofConfig c none)
      { w with journal := j }
    have hequips := Factory.ofConfig_equips c none { w with journal := j }
    rw [← hmap] at hequips
    exact hequips

end Probe

end TrustGate
