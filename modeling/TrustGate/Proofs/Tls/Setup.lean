import TrustGate.Proofs.Connection.Attempts
import TrustGate.Proofs.Tls.Observed

/-!
# What building a context does to the engine

A context is built by a plan, a list of steps that is fixed before the first is taken:

    pinning version check            a new engine, pinned to one version
    confirm version                  the engine is asked what it was pinned to
    equipping identities trusts      what the providers hold, or else the default trust

    Taken engine step story r        `story` is what happens in the step, and `r` how it ends
    CarriedOut engine steps story r  the steps are taken in order, up to the first that fails

Each part of the building carries out its part of the plan, whatever fails on the way
(setUp_takes), so all that happens to the engine can be read off the plan, and what is wrong with
it is told before any of it is carried out or else by the step that failed (build_reports).
-/

namespace TrustGate

namespace Trust.Provider

/-- The truststore that a provider installs. -/
def store? : Provider → Option Truststore
  | .trust m => some (.material m)
  | .chain v => some v.truststore
  | .custom c => some (.custom c)
  | .identity _ | .delegate _ _ | .other _ => none

end Trust.Provider

/-- Calls that leave the platform's default trust alone. -/
def Call.SparesDefaults {τ : Type} : Call τ → Prop
  | .loadDefaultTrust _ => False
  | _ => True

/-- Calls that make an engine or equip it. -/
def Call.IsEquipping {τ : Type} : Call τ → Prop
  | .newEngine _ | .setMinimumVersion _ _ | .setMaximumVersion _ _ | .setCheckHostname _ _
  | .versions _ | .loadIdentity _ _ _ _ | .loadTrust _ _ _ | .loadDefaultTrust _ | .install _ _
  | .anchors _ => True
  | _ => False

/-- The engine is asked which versions it is pinned to. -/
def Happening.isReading {τ : Type} : Happening τ → Bool
  | .called (.versions _) _ => true
  | _ => false

/-- If the engine tells what it is pinned to, it is this version. -/
def Happening.readsBack {τ : Type} (version : TlsVersion) : Happening τ → Bool
  | .called (.versions _) (least, greatest) => least == version && greatest == version
  | _ => true

namespace Tls

open TrustGate.Trust (Provider Truststore)
open TrustGate.Connection (Narrates)

variable {π τ : Type}

/-! ## Plans -/

/-- A step of building a context. -/
inductive Step where
  | create
  | minimum (version : TlsVersion)
  | maximum (version : TlsVersion)
  | checkHostname (check : Bool)
  | confirm (version : TlsVersion)
  | install (p : Provider)
  | defaults

def Step.isConfirm : Step → Bool
  | .confirm _ => true
  | _ => false

/-- What happens in a step, and how it ends.  Only the installing of a truststore of a caller's own
making can fail before anything happens: it may have nothing to call. -/
inductive Taken (engine : EngineId) :
    Step → List (Happening τ) → Except Failure Unit → Prop
  | create (r : Except Failure Unit) : Taken engine .create [.called (.newEngine engine) r] r
  | minimum (version : TlsVersion) (r : Except Failure Unit) :
      Taken engine (.minimum version) [.called (.setMinimumVersion engine version) r] r
  | maximum (version : TlsVersion) (r : Except Failure Unit) :
      Taken engine (.maximum version) [.called (.setMaximumVersion engine version) r] r
  | checkHostname (check : Bool) (r : Except Failure Unit) :
      Taken engine (.checkHostname check) [.called (.setCheckHostname engine check) r] r
  | confirmed (version : TlsVersion) :
      Taken engine (.confirm version) [.called (.versions engine) (version, version)] (.ok ())
  | unconfirmed {version : TlsVersion} {reply : TlsVersion × TlsVersion} :
      reply ≠ (version, version) →
      Taken engine (.confirm version) [.called (.versions engine) reply]
        (.error (Failure.plain .value ("TLS engine cannot pin " ++ version.name)))
  | identity (m : IdentityMaterial) (r : Except Failure Unit) :
      Taken engine (.install (.identity m))
        [.called (.loadIdentity engine m.certfile m.keyfile m.password) r] r
  | material {p : Provider} {m : TrustMaterial} (r : Except Failure Unit) :
      p.store? = some (.material m) →
      Taken engine (.install p) [.called (.loadTrust engine m.cafile m.cadata) r] r
  | custom {p : Provider} {c : Trust.Custom} (r : Except Failure Unit) :
      p.store? = some (.custom c) → c.install = .usable →
      Taken engine (.install p) [.called (.install c engine) r] r
  | lacking {p : Provider} {c : Trust.Custom} {f : Failure} : p.store? = some (.custom c) →
      c.install.demand c.typeName "install" = .error f →
      Taken engine (.install p) [] (.error f)
  | defaults (r : Except Failure Unit) :
      Taken engine .defaults [.called (.loadDefaultTrust engine) r] r

namespace Taken

variable {engine : EngineId} {step : Step} {story : List (Happening τ)} {r : Except Failure Unit}

theorem filter_of_isConfirm (h : Taken engine step story r) (hc : step.isConfirm = true) :
    story.filter (!·.isReading) = [] := by
  cases h <;> first | rfl | cases hc

theorem filter_of_not_isConfirm (h : Taken engine step story r) (hc : step.isConfirm = false) :
    story.filter (!·.isReading) = story := by
  cases h <;> first | rfl | cases hc

theorem spares (h : Taken engine step story r) (hstep : step ≠ .defaults) :
    ∀ x ∈ story, x.Within Call.SparesDefaults := by
  cases h <;> simp_all [Happening.Within, Call.SparesDefaults]

theorem equips (h : Taken engine step story r) : ∀ x ∈ story, x.Within Call.IsEquipping := by
  cases h <;> simp [Happening.Within, Call.IsEquipping]

end Taken

/-- The steps are taken in order, and the first that fails is the last that is taken. -/
inductive CarriedOut (engine : EngineId) :
    List Step → List (Happening τ) → Except Failure Unit → Prop
  | done : CarriedOut engine [] [] (.ok ())
  | next {step : Step} {steps : List Step} {story more : List (Happening τ)}
      {r : Except Failure Unit} : Taken engine step story (.ok ()) →
      CarriedOut engine steps more r → CarriedOut engine (step :: steps) (story ++ more) r
  | stopped {step : Step} {steps : List Step} {story : List (Happening τ)} {f : Failure} :
      Taken engine step story (.error f) → CarriedOut engine (step :: steps) story (.error f)

/-- A new engine that speaks one version only. -/
def pinning (version : TlsVersion) (check : Bool) : List Step :=
  [.create, .minimum version, .maximum version, .checkHostname check]

/-- What the providers hold, and the default trust if no trust provider installs anything. -/
def equipping (identities trusts : List Provider) : List Step :=
  identities.map .install ++ (trusts.filter (·.installs)).map .install ++
    if trusts.any (·.installs) then [] else [.defaults]

namespace CarriedOut

variable {engine : EngineId} {step : Step} {steps more : List Step}
  {story story' : List (Happening τ)} {r : Except Failure Unit} {f : Failure}

theorem single (h : Taken engine step story r) : CarriedOut engine [step] story r := by
  cases r with
  | ok _ =>
    have hdone : CarriedOut engine [step] (story ++ []) (.ok ()) := .next h .done
    rwa [List.append_nil] at hdone
  | error f => exact .stopped h

theorem append (h : CarriedOut engine steps story (.ok ()))
    (h' : CarriedOut engine more story' r) :
    CarriedOut engine (steps ++ more) (story ++ story') r := by
  induction steps generalizing story with
  | nil =>
    cases h
    exact h'
  | cons step steps ih =>
    cases h with
    | next hstep hsteps =>
      rw [List.append_assoc]
      exact .next hstep (ih hsteps)

/-- After a failure nothing of the rest of the plan is carried out. -/
theorem append_error (h : CarriedOut engine steps story (.error f)) (more : List Step) :
    CarriedOut engine (steps ++ more) story (.error f) := by
  induction steps generalizing story with
  | nil => cases h
  | cons step steps ih =>
    cases h with
    | next hstep hsteps => exact .next hstep (ih hsteps)
    | stopped hstep => exact .stopped hstep

/-- If the engine reads back the version that it was pinned to, asking it is no step of its own. -/
theorem confirmed {version : TlsVersion} (h : CarriedOut engine steps story r)
    (hone : ∀ v, .confirm v ∈ steps → v = version)
    (hreads : ∀ x ∈ story, x.readsBack version = true) :
    CarriedOut engine (steps.filter (!·.isConfirm)) (story.filter (!·.isReading)) r := by
  induction h with
  | done => exact .done
  | @next step steps story more r hstep _ ih =>
    have hrest := ih (fun v hv => hone v (List.mem_cons_of_mem _ hv))
      (fun x hx => hreads x (List.mem_append_right _ hx))
    rw [List.filter_append]
    cases hc : step.isConfirm with
    | true =>
      rw [List.filter_cons_of_neg (by simp [hc]), hstep.filter_of_isConfirm hc, List.nil_append]
      exact hrest
    | false =>
      rw [List.filter_cons_of_pos (by simp [hc]), hstep.filter_of_not_isConfirm hc]
      exact .next hstep hrest
  | @stopped step steps story f hstep =>
    cases hc : step.isConfirm with
    | true =>
      cases hstep with
      | @unconfirmed v reply hreply =>
        -- Reading back is the only way to stop here, and what is read back is the version.
        cases hone v List.mem_cons_self
        obtain ⟨least, greatest⟩ := reply
        have hread : (least == version && greatest == version) = true :=
          hreads _ List.mem_cons_self
        simp only [Bool.and_eq_true, beq_iff_eq] at hread
        exact absurd (Prod.ext hread.1 hread.2) hreply
      | _ => cases hc
    | false =>
      rw [List.filter_cons_of_pos (by simp [hc]), hstep.filter_of_not_isConfirm hc]
      exact .stopped hstep

/-- What no step of the plan does is not done. -/
theorem within {allowed : Call τ → Prop} (h : CarriedOut engine steps story r)
    (htaken : ∀ step ∈ steps, ∀ story r, Taken engine step story r →
      ∀ x ∈ story, x.Within allowed) : ∀ x ∈ story, x.Within allowed := by
  induction h with
  | done => simp
  | next hstep _ ih =>
    intro x hx
    rcases List.mem_append.mp hx with hx | hx
    · exact htaken _ List.mem_cons_self _ _ hstep x hx
    · exact ih (fun step hmem => htaken step (List.mem_cons_of_mem _ hmem)) x hx
  | stopped hstep => exact htaken _ List.mem_cons_self _ _ hstep

end CarriedOut

/-! ## Carrying out a plan -/

/-- From `w` to the end `p` the steps are carried out, and `x` is the result if all succeed. -/
def Takes {α : Type} (engine : EngineId) (steps : List Step) (x : α) (w : World π τ)
    (p : EStateM.Result Failure (World π τ) α) : Prop :=
  ∃ story r, Narrates w (Action.final p) story ∧ CarriedOut engine steps story r ∧
    outcome p = r.map fun _ => x

namespace Takes

variable {α β : Type} {engine : EngineId} {steps more : List Step} {w : World π τ}

theorem nothing (engine : EngineId) (x : α) (w : World π τ) :
    Takes engine [] x w (.ok x w) := ⟨[], .ok (), .refl w, .done, rfl⟩

theorem bind {a : Action π τ α} {f : α → Action π τ β} {x : α} {y : β}
    (h : Takes engine steps x w (a w)) (hf : ∀ u, Takes engine more y u (f x u)) :
    Takes engine (steps ++ more) y w ((a >>= f) w) := by
  obtain ⟨story, r, hstory, hsteps, hends⟩ := h
  rw [Action.bind_eq]
  cases ha : a w with
  | error g u =>
    rw [ha] at hstory hends
    cases r with
    | ok _ => cases hends
    | error f =>
      cases hends
      exact ⟨story, .error g, hstory, hsteps.append_error more, rfl⟩
  | ok x' u =>
    rw [ha] at hstory hends
    cases r with
    | error f => cases hends
    | ok _ =>
      cases hends
      obtain ⟨story', r', hstory', hsteps', hends'⟩ := hf u
      exact ⟨story ++ story', r', hstory.append hstory', hsteps.append hsteps', hends'⟩

variable [Platform π τ]

/-- One call for one step. -/
theorem ask {step : Step} (call : Call τ) (read : Reply call → Except Failure Unit)
    (hstep : ∀ reply, Taken engine step [.called call reply] (read reply)) (w : World π τ) :
    Takes engine [step] () w
      ((TrustGate.ask call >>= fun reply => Action.ofExcept (read reply) : Action π τ Unit) w) := by
  refine ⟨[.called call (w.reply call)], read (w.reply call), ?_, .single (hstep _), ?_⟩
  · rw [Action.bind_of_ok (w.ask_asked call)]
    cases read (w.reply call) <;> exact .call rfl
  · rw [Action.bind_of_ok (w.ask_asked call)]
    cases read (w.reply call) <;> rfl

/-- One call for one step, and what follows. -/
theorem askThen {step : Step} (call : Call τ) (read : Reply call → Except Failure Unit)
    (hstep : ∀ reply, Taken engine step [.called call reply] (read reply)) {y : β}
    {rest : Unit → Action π τ β} (w : World π τ)
    (hrest : ∀ u, Takes engine more y u (rest () u)) :
    Takes engine (step :: more) y w
      ((TrustGate.ask call >>= fun reply => Action.ofExcept (read reply) >>= rest :
        Action π τ β) w) := by
  rw [← bind_assoc]
  exact (Takes.ask call read hstep w).bind hrest

end Takes

section

variable [Platform π τ] (engine : EngineId) (w : World π τ)

theorem install_takes {p : Provider} (hp : p.installs = true) :
    Takes engine [.install p] () w (p.install engine w) := by
  have hstore (store : Truststore) (h : p.store? = some store) :
      Takes engine [.install p] () w (store.install engine w) := by
    cases store with
    | material m =>
      exact .ask (.loadTrust engine m.cafile m.cadata) (fun r => r) (fun r => .material r h) w
    | custom c =>
      show Takes engine [.install p] () w ((do
        Action.ofExcept (c.install.demand c.typeName "install")
        Action.ofExcept (← ask (.install c engine)) : Action π τ Unit) w)
      cases hc : c.install.demand c.typeName "install" with
      | error f => exact ⟨[], .error f, .refl w, .single (.lacking h hc), rfl⟩
      | ok _ =>
        have husable : c.install = .usable := by
          cases hi : c.install <;> rw [hi] at hc <;> first | rfl | cases hc
        exact .ask (.install c engine) (fun r => r) (fun r => .custom r h husable) w
  cases p with
  | trust m => exact hstore (.material m) rfl
  | identity m =>
    exact .ask (.loadIdentity engine m.certfile m.keyfile m.password) (fun r => r)
      (fun r => .identity m r) w
  | chain v => exact hstore v.truststore rfl
  | custom c => exact hstore (.custom c) rfl
  | delegate p o => cases hp
  | other t => cases hp

theorem installAll_takes {ps : List Provider} (hps : ∀ p ∈ ps, p.installs = true) :
    Takes engine (ps.map .install) () w (Context.installAll engine ps w) := by
  induction ps generalizing w with
  | nil => exact .nothing engine () w
  | cons p ps ih =>
    have hp := install_takes engine w (hps p List.mem_cons_self)
    exact hp.bind fun u => ih u fun q hq => hps q (List.mem_cons_of_mem _ hq)

theorem newEngine_takes :
    Takes w.nextEngine [.create] w.nextEngine w (Context.newEngine w) := by
  have hnew : Context.newEngine w =
      (do
        Action.ofExcept (← ask (.newEngine w.nextEngine))
        modify fun u => { u with nextEngine := w.nextEngine + 1 }
        return w.nextEngine : Action π τ EngineId) w := rfl
  rw [hnew]
  refine .askThen (.newEngine w.nextEngine) (fun r => r) .create w fun u => ?_
  exact ⟨[], .ok (), rfl, .done, rfl⟩

/-- Reading the versions back. -/
theorem confirm_takes (version : TlsVersion) :
    Takes engine [.confirm version] engine w
      ((do
        let (least, greatest) ← ask (.versions engine)
        if least = version ∧ greatest = version then return engine
        else Action.refuse (NotPinned.mk version) : Action π τ EngineId) w) := by
  rw [Action.bind_of_ok (w.ask_asked (.versions engine))]
  have hstory : Narrates w (w.asked (.versions engine))
      [.called (.versions engine) (w.reply (.versions engine))] := .call rfl
  generalize (w.reply (.versions engine) : TlsVersion × TlsVersion) = reply at hstory
  show Takes engine [.confirm version] engine w
    ((if reply.1 = version ∧ reply.2 = version then return engine
      else Action.refuse (NotPinned.mk version) : Action π τ EngineId) (w.asked (.versions engine)))
  by_cases hpinned : reply.1 = version ∧ reply.2 = version
  · have hreply : reply = (version, version) := Prod.ext hpinned.1 hpinned.2
    rw [if_pos hpinned]
    rw [hreply] at hstory
    exact ⟨_, .ok (), hstory, .single (.confirmed version), rfl⟩
  · have hreply : reply ≠ (version, version) := by
      rintro rfl
      exact hpinned ⟨rfl, rfl⟩
    rw [if_neg hpinned]
    exact ⟨_, _, hstory, .single (.unconfirmed hreply), rfl⟩

theorem pinnedEngine_takes (version : TlsVersion) (check : Bool) :
    Takes w.nextEngine (pinning version check ++ [.confirm version]) w.nextEngine w
      (Context.pinnedEngine version check w) := by
  refine (newEngine_takes w).bind fun u => ?_
  refine .askThen (.setMinimumVersion w.nextEngine version) (fun r => r) (.minimum version) u
    fun u => ?_
  refine .askThen (.setMaximumVersion w.nextEngine version) (fun r => r) (.maximum version) u
    fun u => ?_
  refine .askThen (.setCheckHostname w.nextEngine check) (fun r => r) (.checkHostname check) u
    fun u => ?_
  exact confirm_takes w.nextEngine u version

theorem filter_installs_isEmpty (trusts : List Provider) :
    (trusts.filter (·.installs)).isEmpty = !trusts.any (·.installs) := by
  induction trusts with
  | nil => rfl
  | cons p ps ih => cases hp : p.installs <;> simp [hp, ih]

/-- The default trust comes last, if it comes at all. -/
theorem defaults_takes (trusts : List Provider) :
    Takes engine (if trusts.any (·.installs) then [] else [.defaults]) engine w
      ((do
        if (trusts.filter (·.installs)).isEmpty then
          Action.ofExcept (← ask (.loadDefaultTrust engine))
        return engine : Action π τ EngineId) w) := by
  rw [filter_installs_isEmpty]
  cases trusts.any (·.installs) with
  | true => exact .nothing engine engine w
  | false =>
    refine .askThen (.loadDefaultTrust engine) (fun r => r) .defaults w fun u => ?_
    exact .nothing engine engine u

/-- Setting up an engine carries out the plan. -/
theorem setUp_takes {identities : List Provider} (trusts : List Provider) (version : TlsVersion)
    (check : Bool) (hidentities : ∀ p ∈ identities, p.installs = true) :
    Takes w.nextEngine
      (pinning version check ++ .confirm version :: equipping identities trusts)
      w.nextEngine w (Context.setUp identities trusts version check w) := by
  have hinstallers : ∀ p ∈ trusts.filter (·.installs), p.installs = true := fun p hp =>
    (List.mem_filter.mp hp).2
  have hplan : pinning version check ++ .confirm version :: equipping identities trusts =
      (pinning version check ++ [.confirm version]) ++ (identities.map .install ++
        ((trusts.filter (·.installs)).map .install ++
          if trusts.any (·.installs) then [] else [.defaults])) := by
    simp [equipping]
  rw [hplan]
  refine (pinnedEngine_takes w version check).bind fun u => ?_
  refine (installAll_takes w.nextEngine u hidentities).bind fun u => ?_
  refine (installAll_takes w.nextEngine u hinstallers).bind fun u => ?_
  exact defaults_takes w.nextEngine u trusts

end

/-! ## Building -/

/-- The single version that a protocol stands for. -/
inductive Resolves : Value → TlsVersion → Prop
  | name {name : String} {version : TlsVersion} : (name, version) ∈ protocolNames →
      Resolves (.text name) version
  | version {version : TlsVersion} : version ≠ .minimumSupported → version ≠ .maximumSupported →
      Resolves (.version version) version

theorem protocolOfName?_iff (name : String) (version : TlsVersion) :
    protocolOfName? name = some version ↔ (name, version) ∈ protocolNames := by
  unfold protocolOfName?
  constructor
  · intro h
    obtain ⟨before, after, hnames, -⟩ := List.lookup_eq_some_iff.mp h
    rw [hnames]
    simp
  · intro h
    simp only [protocolNames, List.mem_cons, Prod.mk.injEq, List.not_mem_nil, or_false] at h
    rcases h with ⟨rfl, rfl⟩ | ⟨rfl, rfl⟩ | ⟨rfl, rfl⟩ | ⟨rfl, rfl⟩ <;> decide

theorem isSingle_iff (version : TlsVersion) :
    isSingle version = true ↔ version ≠ .minimumSupported ∧ version ≠ .maximumSupported := by
  cases version <;> decide

theorem resolveProtocol_ok_iff (protocol : Value) (version : TlsVersion) :
    resolveProtocol protocol = .ok version ↔ Resolves protocol version := by
  constructor
  · intro h
    unfold resolveProtocol at h
    split at h
    · split at h
      · next hname =>
        cases h
        exact .name ((protocolOfName?_iff _ _).mp hname)
      · cases h
    · split at h
      · next hsingle =>
        cases h
        obtain ⟨hmin, hmax⟩ := (isSingle_iff _).mp hsingle
        exact .version hmin hmax
      · cases h
    · cases h
  · intro h
    cases h with
    | name hname =>
      simp only [resolveProtocol, (protocolOfName?_iff _ _).mpr hname]
    | version hmin hmax =>
      simp only [resolveProtocol, (isSingle_iff _).mpr ⟨hmin, hmax⟩, if_true]

theorem resolveProtocol_error {protocol : Value} {f : Failure}
    (h : resolveProtocol protocol = .error f) : f.kind = .configuration := by
  unfold resolveProtocol at h
  split at h <;> (try split at h) <;> cases h <;> rfl

/-- Why nothing is built: there is no provider, one is of no use, or no single version is asked
for. -/
inductive Misconfigured (identities trusts : List Provider) (protocol : Value) : Prop
  | nothing : identities = [] → trusts = [] → Misconfigured identities trusts protocol
  | identity {p : Provider} : p ∈ identities → p.installs = false →
      Misconfigured identities trusts protocol
  | trust {p : Provider} : p ∈ trusts → p.installs = false → p.isChainValidator = false →
      Misconfigured identities trusts protocol
  | protocol : (∀ version, ¬Resolves protocol version) → Misconfigured identities trusts protocol

theorem checkProviders_cases (identities trusts : List Provider) :
    (Context.checkProviders identities trusts = .ok () ∧ (identities ≠ [] ∨ trusts ≠ []) ∧
      (∀ p ∈ identities, p.installs = true) ∧
      ∀ p ∈ trusts, p.installs = true ∨ p.isChainValidator = true) ∨
    ∃ f, Context.checkProviders identities trusts = .error f ∧ f.kind = .configuration ∧
      ∀ protocol, Misconfigured identities trusts protocol := by
  unfold Context.checkProviders
  by_cases hnone : identities = [] ∧ trusts = []
  · obtain ⟨rfl, rfl⟩ := hnone
    exact .inr ⟨_, rfl, rfl, fun _ => .nothing rfl rfl⟩
  · have hsome : (identities.isEmpty && trusts.isEmpty) = false := by
      rw [Bool.and_eq_false_iff, List.isEmpty_eq_false_iff, List.isEmpty_eq_false_iff]
      exact not_and_or.mp hnone
    rw [hsome]
    cases hi : identities.find? (!·.installs) with
    | some p =>
      have hp : p.installs = false := by simpa using List.find?_some hi
      exact .inr ⟨_, rfl, rfl, fun _ => .identity (List.mem_of_find?_eq_some hi) hp⟩
    | none =>
      cases ht : trusts.find? fun p => !(p.installs || p.isChainValidator) with
      | some p =>
        have hp : p.installs = false ∧ p.isChainValidator = false := by
          simpa using List.find?_some ht
        exact .inr ⟨_, rfl, rfl, fun _ => .trust (List.mem_of_find?_eq_some ht) hp.1 hp.2⟩
      | none =>
        refine .inl ⟨rfl, not_and_or.mp hnone, fun p hp => ?_, fun p hp => ?_⟩
        · simpa using List.find?_eq_none.mp hi p hp
        · simpa [Decidable.or_iff_not_imp_left] using List.find?_eq_none.mp ht p hp

/-- How a failure of the engine or of a provider is reported. -/
inductive Reported (f : Failure) : Failure → Prop
  | keyManagement : f.kind.isSsl = true → Reported f
      ((Failure.plain .initialization ("Key management exception: " ++ f.message)).because f)
  | keyMaterial : f.kind.isSsl = false → f.kind.isOs = true → Reported f
      ((Failure.plain .initialization ("Cannot read key material: " ++ f.message)).because f)
  | unsupported : f.kind.isSsl = false → f.kind.isOs = false → f.kind.isValue = true → Reported f
      ((Failure.plain .initialization ("Unsupported TLS configuration: " ++ f.message)).because f)
  | unchanged : f.kind.isSsl = false → f.kind.isOs = false → f.kind.isValue = false → Reported f f

section

variable [Platform π τ]

theorem explainSetup_reported (f : Failure) (w : World π τ) :
    ∃ g u, Context.explainSetup f w = .error g u ∧ Reported f g ∧ u.history = w.history := by
  have hexplained (fault : SetupFault) (hfault : SetupFault.ofKind? f.kind = some fault) :
      ∃ u, Context.explainSetup f w = .error
        ((Failure.plain .initialization (fault.label ++ f.message)).because f) u ∧
        u.history = w.history := by
    obtain ⟨j, hj⟩ := emit_ok (π := π) (τ := τ) Context.logger Logging.error (fault.label ++ "%s")
      [.text f.message] (some f) w
    refine ⟨{ w with journal := j }, ?_, rfl⟩
    unfold Context.explainSetup
    rw [hfault]
    exact Action.bind_of_ok hj _
  cases hssl : f.kind.isSsl with
  | true =>
    obtain ⟨u, hu, hhistory⟩ := hexplained .keyManagement (by simp [SetupFault.ofKind?, hssl])
    exact ⟨_, u, hu, .keyManagement hssl, hhistory⟩
  | false =>
    cases hos : f.kind.isOs with
    | true =>
      obtain ⟨u, hu, hhistory⟩ := hexplained .keyMaterial (by simp [SetupFault.ofKind?, hssl, hos])
      exact ⟨_, u, hu, .keyMaterial hssl hos, hhistory⟩
    | false =>
      cases hvalue : f.kind.isValue with
      | true =>
        obtain ⟨u, hu, hhistory⟩ :=
          hexplained .unsupported (by simp [SetupFault.ofKind?, hssl, hos, hvalue])
        exact ⟨_, u, hu, .unsupported hssl hos hvalue, hhistory⟩
      | false =>
        refine ⟨f, w, ?_, .unchanged hssl hos hvalue, rfl⟩
        simp only [Context.explainSetup, SetupFault.ofKind?, hssl, hos, hvalue,
          Bool.false_eq_true, if_false]
        rfl

/-- How building ends once everything was checked: as the plan was carried out. -/
theorem build_of_checked {identities trusts : List Provider} {protocol : Value}
    {version : TlsVersion} (check : Bool) (observer : Option Trust.Observer)
    (hcheck : Context.checkProviders identities trusts = .ok ())
    (hidentities : ∀ p ∈ identities, p.installs = true)
    (hversion : resolveProtocol protocol = .ok version) (w : World π τ) :
    ∃ story r,
      Narrates w ((Context.build identities trusts protocol check observer).after w) story ∧
      CarriedOut w.nextEngine
        (pinning version check ++ .confirm version :: equipping identities trusts) story r ∧
      match r with
      | .ok () => ∃ c u, Context.build identities trusts protocol check observer w = .ok c u ∧
          c.protocol = version
      | .error f => ∃ g u, Context.build identities trusts protocol check observer w = .error g u ∧
          Reported f g := by
  obtain ⟨j, hj⟩ := debugLog_ok (π := π) (τ := τ) Context.logger "Initializing trust managers" [] w
  have hmanagers : Context.createManagers trusts observer w =
      .ok (trusts.map (Context.manager observer)) { w with journal := j } :=
    Action.bind_of_ok hj _
  obtain ⟨story, r, hstory, hplan, hends⟩ :=
    setUp_takes { w with journal := j } trusts version check hidentities
  refine ⟨story, r, ?_⟩
  unfold Action.after Context.build
  rw [hcheck, hversion, Action.bind_of_ok (Action.ofExcept_ok _ _),
    Action.bind_of_ok (Action.ofExcept_ok _ _), Action.bind_of_ok hmanagers]
  cases hs : Context.setUp identities trusts version check { w with journal := j } with
  | ok engine u =>
    rw [hs] at hstory hends
    rw [Action.bind_of_ok (Action.tryCatch_of_ok hs _)]
    obtain ⟨j', hj'⟩ := debugLog_ok (π := π) (τ := τ) Context.logger
      "TLS context pinned to %s with %d identity and %d trust provider(s)"
      [.text version.name, .int identities.length, .int trusts.length] u
    rw [Action.bind_of_ok hj']
    cases r with
    | error f => cases hends
    | ok _ => exact ⟨hstory, hplan, _, _, rfl, rfl⟩
  | error f u =>
    rw [hs] at hstory hends
    obtain ⟨g, u', hg, hreported, hhistory⟩ := explainSetup_reported f u
    rw [Action.bind_of_error ((Action.tryCatch_of_error hs _).trans hg)]
    cases r with
    | ok _ => cases hends
    | error f' =>
      cases hends
      exact ⟨hhistory.trans hstory, hplan, g, u', rfl, hreported⟩

/-- A context that cannot be built for what was asked is refused before anything happens.  Anything
else that fails is a step of the plan, and is reported by the first family it belongs to. -/
theorem build_reports (identities trusts : List Provider) (protocol : Value) (check : Bool)
    (observer : Option Trust.Observer) (w : World π τ) :
    (Misconfigured identities trusts protocol ∧
      ∃ f u, Context.build identities trusts protocol check observer w = .error f u ∧
        f.kind = .configuration ∧ u.history = w.history) ∨
    (¬Misconfigured identities trusts protocol ∧ ∃ version story r, Resolves protocol version ∧
      Narrates w ((Context.build identities trusts protocol check observer).after w) story ∧
      CarriedOut w.nextEngine
        (pinning version check ++ .confirm version :: equipping identities trusts) story r ∧
      match r with
      | .ok () => ∃ c u, Context.build identities trusts protocol check observer w = .ok c u ∧
          c.protocol = version
      | .error f => ∃ g u, Context.build identities trusts protocol check observer w = .error g u ∧
          Reported f g) := by
  rcases checkProviders_cases identities trusts with
    ⟨hcheck, hsome, hidentities, htrusts⟩ | ⟨f, hcheck, hkind, hmisconfigured⟩
  · cases hversion : resolveProtocol protocol with
    | ok version =>
      have hresolves := (resolveProtocol_ok_iff protocol version).mp hversion
      obtain ⟨story, r, hbuild⟩ :=
        build_of_checked check observer hcheck hidentities hversion w
      refine .inr ⟨fun hmisconfigured => ?_, version, story, r, hresolves, hbuild⟩
      cases hmisconfigured with
      | nothing hi ht => exact hsome.elim (absurd hi) (absurd ht)
      | identity hp hlacks => rw [hidentities _ hp] at hlacks; cases hlacks
      | trust hp hlacks hchecks =>
        rcases htrusts _ hp with h | h
        · rw [h] at hlacks
          cases hlacks
        · rw [h] at hchecks
          cases hchecks
      | protocol hnone => exact hnone version hresolves
    | error f =>
      refine .inl ⟨.protocol fun version hresolves => ?_, f, w, ?_, resolveProtocol_error hversion,
        rfl⟩
      · rw [(resolveProtocol_ok_iff protocol version).mpr hresolves] at hversion
        cases hversion
      · unfold Context.build
        rw [hcheck, hversion]
        rfl
  · refine .inl ⟨hmisconfigured protocol, f, w, ?_, hkind, rfl⟩
    unfold Context.build
    rw [hcheck]
    rfl

end

/-- A stream's unsupported operation is of two families, and the earlier one decides. -/
example : SetupFault.ofKind? (.ofName "UnsupportedOperation") = some .keyMaterial ∧
    (FailureKind.ofName "UnsupportedOperation").isValue = true := by decide

end Tls

end TrustGate
