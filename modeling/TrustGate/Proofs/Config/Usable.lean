import TrustGate.Factory
import TrustGate.Proofs.Decimal.Order
import TrustGate.Proofs.Tls.Pass
import TrustGate.Proofs.Tls.Setup
import TrustGate.Proofs.Trust.Loading
import TrustGate.Rehearsal.Stage
import TrustGate.Rehearsal.Tree

/-!
# Accepted configurations are usable

The constraints on a configuration are written down twice: where a mapping is decoded, and where
its fields are put to use.  What the first lets through, the second has nothing against:

    c.Sound                      what decoding makes sure of, kept field by field
    c.accept files               the checks of the material that follow
    Usable files c               what is known of a configuration that was accepted

A factory for such a configuration is pinned and checks host names as the configuration says.  If
it cannot be made, the engine has failed or the truststore cannot be loaded, and that is reported
as an initialization error                                              (accepted_usable).
-/

namespace TrustGate

open Trust (Provider Observer ChainValidator)

/-! ## Decoding -/

namespace Config

/-- What decoding makes sure of. -/
structure Sound (c : Config) : Prop where
  protocol : ∃ version, (c.protocol, version) ∈ Tls.protocolNames
  connectTimeout : ∃ x : Float, c.connectTimeout = .float x ∧ 0.0 ≤ x
  soTimeout : c.soTimeout = .null ∨ ∃ x : Float, c.soTimeout = .float x ∧ 0.0 < x

theorem sound_default : Config.default.Sound where
  protocol := ⟨.tls12, by decide⟩
  connectTimeout := ⟨0.0, rfl, by decide⟩
  soTimeout := .inl rfl

theorem exists_of_map_ok {ε α β : Type} {k : α → β} {r : Except ε α} {y : β}
    (h : r.map k = .ok y) : ∃ x, r = .ok x ∧ k x = y := by
  cases r with
  | ok x =>
    cases h
    exact ⟨x, rfl, rfl⟩
  | error e => cases h

theorem exists_of_bind_ok {ε α β : Type} {r : Except ε α} {k : α → Except ε β} {y : β}
    (h : r >>= k = .ok y) : ∃ x, r = .ok x ∧ k x = .ok y := by
  cases r with
  | ok x => exact ⟨x, rfl, h⟩
  | error e => cases h

theorem mem_protocolNames_of_read {f : Field} {v : Value} {s : String}
    (h : readProtocol f v = .ok s) : ∃ version, (s, version) ∈ Tls.protocolNames := by
  unfold readProtocol at h
  split at h
  · split at h
    · next version hname =>
      cases h
      exact ⟨version, (Tls.protocolOfName?_iff _ _).mp hname⟩
    · cases h
  · cases h

theorem le_of_readConnectTimeout {f : Field} {v t : Value} (h : readConnectTimeout f v = .ok t) :
    ∃ x : Float, t = .float x ∧ 0.0 ≤ x := by
  unfold readConnectTimeout at h
  obtain ⟨x, -, h⟩ := exists_of_bind_ok h
  split at h
  · next hle =>
    cases h
    exact ⟨x, rfl, hle⟩
  · cases h

theorem lt_of_readSoTimeout {f : Field} {v t : Value} (h : readSoTimeout f v = .ok t) :
    t = .null ∨ ∃ x : Float, t = .float x ∧ 0.0 < x := by
  unfold readSoTimeout at h
  split at h
  · cases h
    exact .inl rfl
  · obtain ⟨x, -, h⟩ := exists_of_bind_ok h
    split at h
    · next hlt =>
      cases h
      exact .inr ⟨x, rfl, hlt⟩
    · cases h

/-- Setting a field to a value that fits it keeps a configuration sound. -/
theorem Sound.assign {c c' : Config} (h : c.Sound) {f : Field} {v : Value}
    (ha : c.assign f v = .ok c') : c'.Sound := by
  cases f with
  | protocol =>
    obtain ⟨s, hs, rfl⟩ := exists_of_map_ok ha
    exact ⟨mem_protocolNames_of_read hs, h.connectTimeout, h.soTimeout⟩
  | connectTimeout =>
    obtain ⟨t, ht, rfl⟩ := exists_of_map_ok ha
    exact ⟨h.protocol, le_of_readConnectTimeout ht, h.soTimeout⟩
  | soTimeout =>
    obtain ⟨t, ht, rfl⟩ := exists_of_map_ok ha
    exact ⟨h.protocol, h.connectTimeout, lt_of_readSoTimeout ht⟩
  | _ =>
    obtain ⟨_, -, rfl⟩ := exists_of_map_ok ha
    exact ⟨h.protocol, h.connectTimeout, h.soTimeout⟩

theorem Sound.assignEntry {c c' : Config} (h : c.Sound) {entry : Value × Value}
    (ha : c.assignEntry entry = .ok c') : c'.Sound := by
  unfold Config.assignEntry at ha
  split at ha
  · split at ha
    · exact h.assign ha
    · cases ha
  · cases ha

theorem sound_of_foldlM {entries : List (Value × Value)} {start c : Config} (hstart : start.Sound)
    (h : entries.foldlM Config.assignEntry start = .ok c) : c.Sound := by
  induction entries generalizing start with
  | nil =>
    cases h
    exact hstart
  | cons entry rest ih =>
    rw [List.foldlM_cons] at h
    obtain ⟨next, hnext, h⟩ := exists_of_bind_ok h
    exact ih (hstart.assignEntry hnext) h

theorem sound_of_checked {entries : List (Value × Value)} {c : Config}
    (h : checked entries = .ok c) : c.Sound := by
  unfold checked at h
  split at h
  · next hdecode =>
    cases h
    exact sound_of_foldlM sound_default hdecode
  · cases h

/-! ## What a sound configuration stands for -/

theorem Sound.tlsProtocol {c : Config} (h : c.Sound) :
    ∃ version, c.tlsProtocol = .ok version ∧
      Tls.resolveProtocol (.version version) = .ok version := by
  obtain ⟨version, hmem⟩ := h.protocol
  refine ⟨version, ?_, ?_⟩
  · unfold Config.tlsProtocol
    rw [(Tls.protocolOfName?_iff _ _).mpr hmem]
  · simp only [Tls.protocolNames, List.mem_cons, Prod.mk.injEq, List.not_mem_nil, or_false] at hmem
    rcases hmem with ⟨-, rfl⟩ | ⟨-, rfl⟩ | ⟨-, rfl⟩ | ⟨-, rfl⟩ <;> rfl

theorem checkConnectTimeout_of_le {x : Float} (h : 0.0 ≤ x) :
    Connection.checkConnectTimeout (.float x) = .ok () := by
  have hnot : (decide (x < 0.0)) = false := decide_eq_false (Decimal.not_lt_of_le h)
  unfold Connection.checkConnectTimeout
  simp only [Value.isNegative?, hnot]

theorem checkSoTimeout_of_lt {x : Float} (h : 0.0 < x) :
    Connection.checkSoTimeout (.float x) = .ok () := by
  have hnot : (decide (x ≤ 0.0)) = false :=
    decide_eq_false fun hle => Decimal.not_lt_of_le hle h
  unfold Connection.checkSoTimeout
  simp only [Value.isNonpositive?, hnot]

/-- The bounds that decoding checks are those that connecting asks for. -/
theorem Sound.connectionParams {c : Config} (h : c.Sound) :
    c.connectionParams = .ok ⟨c.connectTimeout, c.soTimeout⟩ := by
  obtain ⟨x, hx, hle⟩ := h.connectTimeout
  have hconnect := checkConnectTimeout_of_le hle
  have hso : Connection.checkSoTimeout c.soTimeout = .ok () := by
    rcases h.soTimeout with hnull | ⟨y, hy, hlt⟩
    · rw [hnull]
      rfl
    · rw [hy]
      exact checkSoTimeout_of_lt hlt
  unfold Config.connectionParams Connection.Params.make
  rw [hx, hconnect, hso]
  rfl

/-! ## Material -/

/-- A configuration whose material exists, and which has some. -/
def accept (files : Files) (c : Config) : Except Failure Config := do
  let identity ← c.identityMaterial files
  let trust ← c.trustMaterial files
  if trust.isNone && identity.isNone then refuse LoadFault.noMaterial
  return c

/-- What is known of a configuration that was accepted with these files. -/
structure Usable (files : Files) (c : Config) : Prop where
  sound : c.Sound
  material : ∃ identity trust, c.identityMaterial files = .ok identity ∧
    c.trustMaterial files = .ok trust ∧ (identity.isSome = true ∨ trust.isSome = true)

variable {π τ : Type} [Platform π τ] {files : Files} {c : Config}

theorem accept_eq_ok {c' : Config} (h : c.accept files = .ok c') :
    c' = c ∧ ∃ identity trust, c.identityMaterial files = .ok identity ∧
      c.trustMaterial files = .ok trust ∧ (identity.isSome = true ∨ trust.isSome = true) := by
  unfold accept at h
  obtain ⟨identity, hidentity, h⟩ := exists_of_bind_ok h
  obtain ⟨trust, htrust, h⟩ := exists_of_bind_ok h
  by_cases hnone : (trust.isNone && identity.isNone) = true
  · rw [if_pos hnone] at h
    cases h
  · rw [if_neg hnone] at h
    cases h
    refine ⟨rfl, identity, trust, hidentity, htrust, ?_⟩
    cases identity <;> cases trust <;> simp_all

/-- Accepting a mapping is decoding it and checking its material; the journal may get a warning. -/
theorem ofEntries_eq (entries : List (Value × Value)) (w : World π τ) :
    ∃ j, ofEntries entries w =
      match checked entries >>= accept w.files with
      | .ok c => .ok c { w with journal := j }
      | .error f => .error f { w with journal := j } := by
  have hrest (c : Config) (w : World π τ) :
      (do
        let files := (← get).files
        let identity ← Action.ofExcept (c.identityMaterial files)
        let trust ← Action.ofExcept (c.trustMaterial files)
        if trust.isNone && identity.isNone then Action.refuse LoadFault.noMaterial
        return c : Action π τ Config) w =
        match accept w.files c with
        | .ok c => .ok c w
        | .error f => .error f w := by
    unfold accept
    rw [Action.bind_of_ok (Action.get_eq w)]
    cases c.identityMaterial w.files with
    | error f => rfl
    | ok identity =>
      cases c.trustMaterial w.files with
      | error f => rfl
      | ok trust => cases trust <;> cases identity <;> rfl
  unfold ofEntries
  cases hchecked : checked entries with
  | error f => exact ⟨w.journal, rfl⟩
  | ok c =>
    rw [Action.bind_of_ok (Action.ofExcept_ok c w)]
    cases c.checkHostname with
    | true => exact ⟨w.journal, hrest c w⟩
    | false =>
      obtain ⟨j, hj⟩ := warningLog_ok logger
        "TLS host name checking is disabled; any certificate from a trusted CA is accepted." [] w
      exact ⟨j, (Action.bind_of_ok hj _).trans (hrest c { w with journal := j })⟩

theorem usable_of_accept {entries : List (Value × Value)}
    (h : checked entries >>= accept files = .ok c) : Usable files c := by
  obtain ⟨decoded, hchecked, haccept⟩ := exists_of_bind_ok h
  obtain ⟨rfl, hmaterial⟩ := accept_eq_ok haccept
  exact ⟨sound_of_checked hchecked, hmaterial⟩

theorem usable_of_ofEntries {entries : List (Value × Value)} {w w' : World π τ}
    (h : ofEntries entries w = .ok c w') : Usable w.files c := by
  obtain ⟨j, hj⟩ := ofEntries_eq entries w
  rw [hj] at h
  cases haccepted : checked entries >>= accept w.files with
  | error f =>
    rw [haccepted] at h
    cases h
  | ok c' =>
    rw [haccepted] at h
    cases h
    exact usable_of_accept haccepted

end Config

/-! ## Engines that fail -/

namespace Tls

variable {π τ : Type} {engine : EngineId} {step : Step} {steps : List Step}
  {story : List (Happening τ)} {f : Failure}

/-- None of the steps installs anything of a caller's own making. -/
def OwnOnly (steps : List Step) : Prop :=
  ∀ p c, .install p ∈ steps → p.store? ≠ some (.custom c)

/-- A step fails as the call that was made in it did, or because the engine is not pinned. -/
theorem Taken.cause (h : Taken engine step story (.error f)) (hown : OwnOnly [step]) :
    f.kind.isValue = true ∨ ∃ x ∈ story, x.fault? = some f := by
  cases h with
  | unconfirmed _ => exact .inl rfl
  | custom _ hstore _ => exact absurd hstore (hown _ _ List.mem_cons_self)
  | lacking hstore _ => exact absurd hstore (hown _ _ List.mem_cons_self)
  | _ => exact .inr ⟨_, List.mem_cons_self, rfl⟩

theorem CarriedOut.cause (h : CarriedOut engine steps story (.error f)) (hown : OwnOnly steps) :
    f.kind.isValue = true ∨ ∃ x ∈ story, x.fault? = some f := by
  generalize hr : (Except.error f : Except Failure Unit) = r at h
  induction h with
  | done => cases hr
  | next _ _ ih =>
    rcases ih (fun p c hp => hown p c (List.mem_cons_of_mem _ hp)) hr with hvalue | ⟨x, hx, hf⟩
    · exact .inl hvalue
    · exact .inr ⟨x, List.mem_append_right _ hx, hf⟩
  | stopped hstep =>
    cases hr
    refine hstep.cause fun p c hp => hown p c ?_
    rw [List.mem_singleton.mp hp]
    exact List.mem_cons_self

theorem ownOnly_plan {identities trusts : List Provider} (version : TlsVersion) (check : Bool)
    (hidentities : ∀ p ∈ identities, ∀ c, p.store? ≠ some (.custom c))
    (htrusts : ∀ p ∈ trusts, ∀ c, p.store? ≠ some (.custom c)) :
    OwnOnly (pinning version check ++ .confirm version :: equipping identities trusts) := by
  intro p c hp
  have hmem : p ∈ identities ∨ p ∈ trusts := by
    simp only [pinning, equipping, List.mem_append, List.mem_cons, List.mem_map] at hp
    split at hp <;> simp_all
    all_goals tauto
  exact hmem.elim (hidentities p · c) (htrusts p · c)

/-- A failure of the engine's, or an unusable value, is reported as an initialization error. -/
theorem Reported.kind {g : Failure} (h : Reported f g)
    (hf : f.kind.isOs = true ∨ f.kind.isValue = true) : g.kind = .initialization := by
  cases h with
  | unchanged _ hos hvalue => simp_all
  | _ => rfl

end Tls

/-! ## Factories -/

namespace Factory

variable {π τ : Type} [Platform π τ]

/-- A failure of the engine or the operating system, or of an unusable value. -/
def IsPlain (f : Failure) : Prop := f.kind.isOs = true ∨ f.kind.isValue = true

/-- What a factory is that was made for these providers. -/
structure MadeOf (trusts : List Provider) (version : TlsVersion) (check : Bool)
    (observer : Option Observer) (f : Factory) : Prop where
  protocol : f.context.protocol = version
  checkHostname : f.context.checkHostname = check
  managers : f.context.managers = trusts.map (Tls.Context.manager observer)

theorem make_of_error {identities trusts : List Provider} {protocol : Value} {check : Bool}
    {observer : Option Observer} {w u : World π τ} {g : Failure}
    (h : Tls.Context.build identities trusts protocol check observer w = .error g u) :
    make identities trusts protocol check observer w = .error g u := Action.bind_of_error h _

theorem make_of_ok {identities trusts : List Provider} {protocol : Value} {check : Bool}
    {observer : Option Observer} {w u : World π τ} {c : Tls.Context}
    (h : Tls.Context.build identities trusts protocol check observer w = .ok c u) :
    ∃ j, make identities trusts protocol check observer w = .ok ⟨c⟩ { u with journal := j } := by
  obtain ⟨j, hj⟩ := debugLog_ok logger "Socket factory ready: %r" [.other c.quoted] u
  exact ⟨j, (Action.bind_of_ok h _).trans (Action.bind_of_ok hj _)⟩

/-- A factory for providers of the library's own, of which there is at least one, is as asked for,
or making it fails as an initialization error. -/
theorem make_ends {identities trusts : List Provider} {protocol : Value} {version : TlsVersion}
    (check : Bool) (observer : Option Observer)
    (hcheck : Tls.Context.checkProviders identities trusts = .ok ())
    (hinstalls : ∀ p ∈ identities, p.installs = true)
    (hidentities : ∀ p ∈ identities, ∀ c, p.store? ≠ some (.custom c))
    (htrusts : ∀ p ∈ trusts, ∀ c, p.store? ≠ some (.custom c))
    (hversion : Tls.resolveProtocol protocol = .ok version) (w : World π τ)
    (hplain : FailsOnly IsPlain w ((make identities trusts protocol check observer).after w)) :
    match make identities trusts protocol check observer w with
    | .ok f _ => MadeOf trusts version check observer f
    | .error g _ => g.kind = .initialization := by
  obtain ⟨story, r, hstory, hplan, hends⟩ :=
    Tls.build_of_checked check observer hcheck hinstalls hversion w
  cases r with
  | ok _ =>
    obtain ⟨c, u, hbuild, -⟩ := hends
    obtain ⟨j, hmake⟩ := make_of_ok hbuild
    obtain ⟨hresolved, hhostname, hmanagers⟩ := Tls.Context.of_build hbuild
    cases hversion.symm.trans hresolved
    rw [hmake]
    exact ⟨rfl, hhostname, hmanagers⟩
  | error f =>
    obtain ⟨g, u, hbuild, hreported⟩ := hends
    have hmake := make_of_error hbuild
    rw [Action.after_of_error hmake] at hplain
    rw [Action.after_of_error hbuild] at hstory
    rw [hmake]
    refine hreported.kind ?_
    rcases hplan.cause (Tls.ownOnly_plan version check hidentities htrusts) with
      hvalue | ⟨x, hx, hf⟩
    · exact .inr hvalue
    · refine hplain x ?_ f hf
      rw [World.since_eq hstory]
      exact List.mem_reverse.mpr hx

/-- The identity providers of a configuration. -/
def identitiesOf (identity : Option IdentityMaterial) : List Provider :=
  (identity.map Provider.identity).toList

/-- The trust providers that a factory makes of truststore material that was loaded. -/
def trustsOf (trust : Option TrustMaterial) (anchors : List Certificate) (check : Bool) :
    List Provider :=
  (trust.map fun m => Provider.chain ⟨.material m, anchors, check, none⟩).toList

theorem mem_identitiesOf {identity : Option IdentityMaterial} {p : Provider}
    (h : p ∈ identitiesOf identity) : ∃ m, p = .identity m := by
  unfold identitiesOf at h
  cases identity with
  | none => cases h
  | some m => exact ⟨m, List.mem_singleton.mp h⟩

theorem mem_trustsOf {trust : Option TrustMaterial} {anchors : List Certificate} {check : Bool}
    {p : Provider} (h : p ∈ trustsOf trust anchors check) :
    ∃ m, p = .chain ⟨.material m, anchors, check, none⟩ := by
  unfold trustsOf at h
  cases trust with
  | none => cases h
  | some m => exact ⟨m, List.mem_singleton.mp h⟩

/-- Identity or trust material is enough for a context. -/
theorem checkProviders_of_material {identity : Option IdentityMaterial}
    {trust : Option TrustMaterial} (anchors : List Certificate) (check : Bool)
    (h : identity.isSome = true ∨ trust.isSome = true) :
    Tls.Context.checkProviders (identitiesOf identity) (trustsOf trust anchors check) = .ok () := by
  cases identity with
  | none =>
    cases trust with
    | none => simp at h
    | some m => rfl
  | some i => cases trust <;> rfl

variable {c : Config} {identity : Option IdentityMaterial} {trust : Option TrustMaterial}
  {version : TlsVersion}

theorem ofConfig_of_none (observer : Option Observer) {w : World π τ}
    (hidentity : c.identityMaterial w.files = .ok identity)
    (htrust : c.trustMaterial w.files = .ok none) (hversion : c.tlsProtocol = .ok version) :
    ofConfig c observer w =
      make (identitiesOf identity) [] (.version version) c.checkHostname observer w := by
  unfold ofConfig
  rw [Action.bind_of_ok (Action.get_eq w), hidentity, htrust, hversion]
  rfl

theorem ofConfig_of_some (observer : Option Observer) {w : World π τ} {m : TrustMaterial}
    (hidentity : c.identityMaterial w.files = .ok identity)
    (htrust : c.trustMaterial w.files = .ok (some m)) (hversion : c.tlsProtocol = .ok version) :
    ofConfig c observer w =
      ofTruststore (some (.trust m)) (identitiesOf identity) (.version version) c.checkHostname
        observer w := by
  unfold ofConfig
  rw [Action.bind_of_ok (Action.get_eq w), hidentity, htrust, hversion]
  rfl

/-- A truststore that can be loaded is put behind a validator. -/
theorem ofTruststore_of_ok {m : TrustMaterial} {anchors : List Certificate}
    (identities : List Provider) (protocol : Value) (check : Bool) (observer : Option Observer)
    {w : World π τ} (h : m.outcome w.files = .ok anchors) :
    ∃ j, ofTruststore (some (.trust m)) identities protocol check observer w =
      make identities (trustsOf (some m) anchors check) protocol check observer
        { w with journal := j } := by
  obtain ⟨j, hload⟩ := load_of_ok check none w h
  exact ⟨j, Action.bind_of_ok (Action.tryCatch_of_ok hload _) _⟩

/-- What a factory is that was made for a configuration, or what its making fails with. -/
def Configured (c : Config) (trust : Option TrustMaterial) (version : TlsVersion)
    (observer : Option Observer) (files : Files) : EStateM.Result Failure (World π τ) Factory → Prop
  | .ok f _ => ∃ anchors,
    MadeOf (trustsOf trust anchors c.checkHostname) version c.checkHostname observer f
  | .error g _ => g.kind = .initialization ∨ ∃ m ∈ trust, m.IsUnaccepted files g

/-- Behind a truststore that is loaded, making the factory ends as it should. -/
theorem configured_of_make (anchors : List Certificate) (observer : Option Observer) (files : Files)
    (hresolves : Tls.resolveProtocol (.version version) = .ok version)
    (hsome : identity.isSome = true ∨ trust.isSome = true) {w : World π τ}
    (hplain : FailsOnly IsPlain w ((make (identitiesOf identity)
      (trustsOf trust anchors c.checkHostname) (.version version) c.checkHostname
      observer).after w)) :
    Configured c trust version observer files
      (make (identitiesOf identity) (trustsOf trust anchors c.checkHostname) (.version version)
        c.checkHostname observer w) := by
  have hinstalls : ∀ p ∈ identitiesOf identity, p.installs = true := by
    intro p hp
    obtain ⟨m, rfl⟩ := mem_identitiesOf hp
    rfl
  have hidentities : ∀ p ∈ identitiesOf identity, ∀ o, p.store? ≠ some (.custom o) := by
    intro p hp o
    obtain ⟨m, rfl⟩ := mem_identitiesOf hp
    exact nofun
  have htrusts : ∀ p ∈ trustsOf trust anchors c.checkHostname, ∀ o,
      p.store? ≠ some (.custom o) := by
    intro p hp o
    obtain ⟨m, rfl⟩ := mem_trustsOf hp
    exact nofun
  have hends := make_ends c.checkHostname observer
    (checkProviders_of_material anchors c.checkHostname hsome) hinstalls hidentities htrusts
    hresolves w hplain
  cases hm : make (identitiesOf identity) (trustsOf trust anchors c.checkHostname)
      (.version version) c.checkHostname observer w with
  | ok f u =>
    rw [hm] at hends
    exact ⟨anchors, hends⟩
  | error g u =>
    rw [hm] at hends
    exact .inl hends

/-- A factory for material that exists is as the configuration says, or cannot be made for what the
engine or the truststore is. -/
theorem ofConfig_configured (observer : Option Observer) {w : World π τ}
    (hidentity : c.identityMaterial w.files = .ok identity)
    (htrust : c.trustMaterial w.files = .ok trust) (hversion : c.tlsProtocol = .ok version)
    (hresolves : Tls.resolveProtocol (.version version) = .ok version)
    (hsome : identity.isSome = true ∨ trust.isSome = true)
    (hplain : FailsOnly IsPlain w ((ofConfig c observer).after w)) :
    Configured c trust version observer w.files (ofConfig c observer w) := by
  unfold Action.after at hplain
  cases trust with
  | none =>
    rw [ofConfig_of_none observer hidentity htrust hversion] at hplain ⊢
    exact configured_of_make [] observer w.files hresolves hsome hplain
  | some m =>
    rw [ofConfig_of_some observer hidentity htrust hversion] at hplain ⊢
    cases houtcome : m.outcome w.files with
    | ok anchors =>
      obtain ⟨j, hmake⟩ := ofTruststore_of_ok (identitiesOf identity) (.version version)
        c.checkHostname observer houtcome
      rw [hmake] at hplain ⊢
      exact configured_of_make anchors observer w.files hresolves hsome hplain
    | error g =>
      rw [ofTruststore_of_error (identitiesOf identity) (.version version) c.checkHostname observer
        w houtcome]
      rcases TrustMaterial.outcome_eq_error houtcome with hkind | hunaccepted
      · rw [if_pos hkind]
        exact .inl rfl
      · rw [if_neg hunaccepted.ne_configuration]
        exact .inr ⟨m, rfl, hunaccepted⟩

end Factory

/-! ## Usable configurations -/

/-- Whatever a mapping says, once it is accepted everything that is derived from the configuration
is there.  A factory for it is as the configuration says; making one fails, if it does, with no
failure that the configuration or an argument is refused with. -/
theorem accepted_usable {π τ : Type} [Platform π τ] (entries : List (Value × Value)) (c : Config)
    (w w' : World π τ) (h : Config.ofEntries entries w = .ok c w') :
    ∃ identity trust version, c.identityMaterial w.files = .ok identity ∧
      c.trustMaterial w.files = .ok trust ∧ (identity.isSome = true ∨ trust.isSome = true) ∧
      c.tlsProtocol = .ok version ∧ Tls.resolveProtocol (.version version) = .ok version ∧
      c.connectionParams = .ok ⟨c.connectTimeout, c.soTimeout⟩ ∧
      ∀ (observer : Option Observer) (v : World π τ), v.files = w.files →
        FailsOnly Factory.IsPlain v ((Factory.ofConfig c observer).after v) →
        match Factory.ofConfig c observer v with
        | .ok f _ => f.context.protocol = version ∧ f.context.checkHostname = c.checkHostname ∧
          ∀ m ∈ trust, ∃ anchors, f.context.managers =
            [.delegate (.chain ⟨.material m, anchors, c.checkHostname, none⟩)
              (observer.getD .default)]
        | .error g _ => g.kind ∉ [.configuration, .argument, .key] ∧
          (g.kind = .initialization ∨ ∃ m ∈ trust, m.IsUnaccepted w.files g) := by
  obtain ⟨hsound, identity, trust, hidentity, htrust, hsome⟩ := Config.usable_of_ofEntries h
  obtain ⟨version, hversion, hresolves⟩ := hsound.tlsProtocol
  refine ⟨identity, trust, version, hidentity, htrust, hsome, hversion, hresolves,
    hsound.connectionParams, fun observer v hfiles hplain => ?_⟩
  rw [← hfiles] at hidentity htrust ⊢
  have hconfigured :=
    Factory.ofConfig_configured observer hidentity htrust hversion hresolves hsome hplain
  cases hm : Factory.ofConfig c observer v with
  | ok f u =>
    rw [hm] at hconfigured
    obtain ⟨anchors, hmade⟩ := hconfigured
    refine ⟨hmade.protocol, hmade.checkHostname, fun m hmem => ⟨anchors, ?_⟩⟩
    cases hmem
    exact hmade.managers
  | error g u =>
    rw [hm] at hconfigured
    refine ⟨?_, hconfigured⟩
    rcases hconfigured with hkind | ⟨m, -, hunaccepted⟩
    · rw [hkind]
      decide
    · rw [hunaccepted.kind]
      decide

/-- A connect timeout of negative zero, and a file of anchors. -/
def boundary : Config :=
  { Config.default with
    cafile := some "/srv/ca.pem", connectTimeout := .float (-0.0), protocol := "TLSv1.3" }

/-- The file of anchors is there, in the working directory, and it is empty. -/
def emptyAnchors : World Rehearsal.Stage Float :=
  .initial (Rehearsal.Stage.start 0.0 0.0)
    (Rehearsal.Tree.mk [(["srv", "ca.pem"], .file [])] ["srv"]).files

theorem failsPlainly_boundary :
    FailsOnly Factory.IsPlain emptyAnchors
      ((Factory.ofConfig boundary none).after emptyAnchors) := by
  have hnothing : (emptyAnchors.since
      ((Factory.ofConfig boundary none).after emptyAnchors)).isEmpty = true := by
    decide +kernel
  intro x hx
  rw [List.isEmpty_iff.mp hnothing] at hx
  cases hx

/-- The mapping of all fields is accepted, and its timeouts pass; no factory can be made for it,
but not for want of a good configuration. -/
theorem accepted_usable_boundary :
    Config.ofEntries boundary.entries emptyAnchors = .ok boundary emptyAnchors ∧
      boundary.tlsProtocol = .ok .tls13 ∧
      boundary.connectionParams = .ok ⟨.float (-0.0), .null⟩ ∧
      ∃ g u, Factory.ofConfig boundary none emptyAnchors = .error g u ∧
        g.kind ∉ [.configuration, .argument, .key] := by
  have haccepted : Config.ofEntries boundary.entries emptyAnchors = .ok boundary emptyAnchors := rfl
  obtain ⟨_, _, _, -, -, -, -, -, hparams, hfactory⟩ :=
    accepted_usable boundary.entries boundary emptyAnchors emptyAnchors haccepted
  have hfailed : (Tls.outcome (Factory.ofConfig boundary none emptyAnchors)).isOk = false := by
    decide +kernel
  have hends := hfactory none emptyAnchors rfl failsPlainly_boundary
  refine ⟨haccepted, rfl, hparams, ?_⟩
  cases hf : Factory.ofConfig boundary none emptyAnchors with
  | ok f u =>
    rw [hf] at hfailed
    cases hfailed
  | error g u =>
    rw [hf] at hends
    exact ⟨g, u, rfl, hends.1⟩

end TrustGate
