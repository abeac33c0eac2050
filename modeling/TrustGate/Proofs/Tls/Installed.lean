import TrustGate.Factory
import TrustGate.Proofs.Tls.Setup

/-!
# What is installed is what was given

An engine that reads back what it was pinned to is given what the providers hold, in order,
and nothing else:

    pinning version check ++ equipping identities trusts

The plan ends with the platform's default trust only if no trust provider installs anything.
Every truststore is installed, so a factory for a truststore never loads the default trust, and
neither does a factory for a configuration that names trust of its own (installed_exactly_given).
-/

namespace TrustGate

open TrustGate.Action (Quietly makes_bind)
open TrustGate.Connection (Narrates)
open TrustGate.Trust (Provider Observer)

variable {π τ : Type} [Platform π τ]

/-! ## Calls that building makes -/

namespace Tls

section

variable {allowed : Call τ → Prop}

/-- Building a context makes the calls of its plan. -/
theorem build_makes (identities trusts : List Provider) (protocol : Value) (check : Bool)
    (observer : Option Observer)
    (htaken : ∀ version engine step,
      step ∈ pinning version check ++ .confirm version :: equipping identities trusts →
      ∀ story r, Taken engine step story r → ∀ x ∈ story, x.Within allowed)
    (w : World π τ) :
    Makes allowed w ((Context.build identities trusts protocol check observer).after w) := by
  have hrefused {f : Failure}
      (hbuild : Context.build identities trusts protocol check observer w = .error f w) :
      Makes allowed w ((Context.build identities trusts protocol check observer).after w) := by
    rw [Action.after_of_error hbuild]
    exact ⟨[], rfl, by simp⟩
  rcases checkProviders_cases identities trusts with
    ⟨hcheck, -, hidentities, -⟩ | ⟨f, hcheck, -, -⟩
  · cases hversion : resolveProtocol protocol with
    | ok version =>
      obtain ⟨story, r, hstory, hplan, -⟩ :=
        build_of_checked check observer hcheck hidentities hversion w
      have hwithin := hplan.within (htaken version w.nextEngine)
      exact ⟨story.reverse, hstory, fun x hx => hwithin x (List.mem_reverse.mp hx)⟩
    | error f =>
      refine hrefused (f := f) ?_
      unfold Context.build
      rw [hcheck, hversion]
      rfl
  · refine hrefused (f := f) ?_
    unfold Context.build
    rw [hcheck]
    rfl

end

/-- With a trust provider that installs anything, the default trust is left alone. -/
theorem build_spares (identities : List Provider) {trusts : List Provider} (protocol : Value)
    (check : Bool) (observer : Option Observer) (htrusts : trusts.any (·.installs) = true)
    (w : World π τ) :
    Makes Call.SparesDefaults w
      ((Context.build identities trusts protocol check observer).after w) := by
  refine build_makes identities trusts protocol check observer
    (fun version engine step hstep story r htaken => htaken.spares ?_) w
  rintro rfl
  simp [pinning, equipping, htrusts] at hstep

theorem build_equips (identities trusts : List Provider) (protocol : Value) (check : Bool)
    (observer : Option Observer) (w : World π τ) :
    Makes Call.IsEquipping w
      ((Context.build identities trusts protocol check observer).after w) :=
  build_makes identities trusts protocol check observer
    (fun _ _ _ _ _ _ htaken => htaken.equips) w

end Tls

namespace Factory

section

variable {allowed : Call τ → Prop}

theorem make_makes {identities trusts : List Provider} {protocol : Value} {check : Bool}
    {observer : Option Observer}
    (hbuild : ∀ w : World π τ, Makes allowed w
      ((Tls.Context.build identities trusts protocol check observer).after w)) (w : World π τ) :
    Makes allowed w ((make identities trusts protocol check observer).after w) := by
  refine makes_bind hbuild (fun c w => ?_) w
  have hlog : Quietly allowed
      (debugLog logger "Socket factory ready: %r" [.other c.quoted] : Action π τ Unit) :=
    emit_quietly
  exact (hlog.bind (fun _ => .pure _) w).makes

variable (hanchors : ∀ c, allowed (.anchors c))

include hanchors

theorem read_quietly (store : Trust.Truststore) :
    (store.read : Action π τ (List Certificate)).Quietly allowed := by
  cases store with
  | material m => exact .bind .get fun w => .ofExcept _
  | custom c => exact .bind (.ask (hanchors c)) fun reply => .ofExcept _

theorem load_quietly (truststore : Option Provider) (check : Bool) (clock : Option Nat) :
    (Trust.ChainValidator.load truststore check clock :
      Action π τ Trust.ChainValidator).Quietly allowed := by
  unfold Trust.ChainValidator.load
  cases truststore with
  | none => exact .refuse _
  | some p =>
    refine .bind (.ofExcept _) fun store => .bind (.tryCatch (read_quietly hanchors store)
      fun f => ?_) fun anchors => ?_
    · split
      · exact .throw _
      · exact .throw _
    · split
      · exact .bind (.refuse _) fun _ => .bind emit_quietly fun _ => .pure _
      · exact .bind emit_quietly fun _ => .pure _

theorem loadValidator_quietly (truststore : Option Provider) (check : Bool) :
    (loadValidator truststore check : Action π τ Trust.ChainValidator).Quietly allowed := by
  refine .tryCatch (load_quietly hanchors truststore check none) fun f => ?_
  split
  · exact .throw _
  · exact .throw _

theorem ofTruststore_makes (truststore : Option Provider) {identities : List Provider}
    {protocol : Value} {check : Bool} {observer : Option Observer}
    (hbuild : ∀ v (w : World π τ), Makes allowed w
      ((Tls.Context.build identities [.chain v] protocol check observer).after w))
    (w : World π τ) :
    Makes allowed w ((ofTruststore truststore identities protocol check observer).after w) :=
  makes_bind (fun w => (loadValidator_quietly hanchors truststore check w).makes)
    (fun v w => make_makes (hbuild v) w) w

/-- A factory for a configuration is built with the validator of its truststore, or without any
trust if it has none. -/
theorem ofConfig_makes {c : Config} {observer : Option Observer}
    (hbuild : ∀ identities v version (w : World π τ), Makes allowed w
      ((Tls.Context.build identities [.chain v] (.version version) c.checkHostname
        observer).after w))
    (hnone : ∀ files, c.trustMaterial files = .ok none → ∀ identities version (w : World π τ),
      Makes allowed w
        ((Tls.Context.build identities [] (.version version) c.checkHostname observer).after w))
    (w : World π τ) : Makes allowed w ((ofConfig c observer).after w) := by
  have hofExcept {α : Type} (r : Except Failure α) (w : World π τ) :
      Makes allowed w ((Action.ofExcept r : Action π τ α).after w) :=
    (Quietly.ofExcept r w).makes
  unfold ofConfig
  refine makes_bind (fun w => (Quietly.get w).makes) (fun u w => ?_) w
  refine makes_bind (hofExcept _) (fun identity w => ?_) w
  cases htrust : c.trustMaterial u.files with
  | error f => exact .refl w
  | ok trust =>
    unfold Action.after
    rw [Action.bind_of_ok (Action.ofExcept_ok _ _)]
    cases trust with
    | none =>
      exact makes_bind (hofExcept _)
        (fun version w => make_makes (hnone u.files htrust _ version) w) w
    | some m =>
      exact makes_bind (hofExcept _)
        (fun version w => ofTruststore_makes hanchors _ (fun v => hbuild _ v version) w) w

end

/-- Trust from a truststore is all the trust there is. -/
theorem ofTruststore_spares (truststore : Option Provider) (identities : List Provider)
    (protocol : Value) (check : Bool) (observer : Option Observer) (w : World π τ) :
    Makes Call.SparesDefaults w
      ((ofTruststore truststore identities protocol check observer).after w) :=
  ofTruststore_makes (fun _ => trivial) truststore
    (fun _ w => Tls.build_spares identities protocol check observer rfl w) w

/-- A configuration names trust of its own: a file or a text that is not empty. -/
def NamesTrust (c : Config) : Prop := nonempty? c.cafile ≠ none ∨ nonempty? c.cadata ≠ none

omit [Platform π τ] in
theorem trustMaterial_ne_none {c : Config} (hc : NamesTrust c) (files : Files) :
    c.trustMaterial files ≠ .ok none := by
  unfold Config.trustMaterial
  split
  · next hfile hdata =>
    rcases hc with h | h
    · exact absurd hfile h
    · exact absurd hdata h
  · cases TrustMaterial.make files c.cafile c.cadata <;> simp [Except.map]

theorem ofConfig_spares {c : Config} (hc : NamesTrust c) (observer : Option Observer)
    (w : World π τ) : Makes Call.SparesDefaults w ((ofConfig c observer).after w) := by
  refine ofConfig_makes (fun _ => trivial)
    (fun identities _ _ w => Tls.build_spares identities _ _ observer rfl w)
    (fun files hnone => ?_) w
  exact absurd hnone (trustMaterial_ne_none hc files)

theorem ofConfig_equips (c : Config) (observer : Option Observer) (w : World π τ) :
    Makes Call.IsEquipping w ((ofConfig c observer).after w) :=
  ofConfig_makes (fun _ => trivial)
    (fun identities _ _ w => Tls.build_equips identities _ _ _ observer w)
    (fun _ _ identities _ w => Tls.build_equips identities [] _ _ observer w) w

end Factory

namespace Tls

theorem not_isConfirm_of_mem_equipping {identities trusts : List Provider} {step : Step}
    (h : step ∈ equipping identities trusts) : step.isConfirm = false := by
  unfold equipping at h
  rcases List.mem_append.mp h with h | h
  · rcases List.mem_append.mp h with h | h
    · obtain ⟨p, -, rfl⟩ := List.mem_map.mp h
      rfl
    · obtain ⟨p, -, rfl⟩ := List.mem_map.mp h
      rfl
  · split at h
    · cases h
    · cases List.mem_singleton.mp h
      rfl

theorem filter_plan (identities trusts : List Provider) (version : TlsVersion) (check : Bool) :
    (pinning version check ++ .confirm version :: equipping identities trusts).filter
      (!·.isConfirm) = pinning version check ++ equipping identities trusts := by
  have hpinning : (pinning version check).filter (!·.isConfirm) = pinning version check := rfl
  have hequipping : (equipping identities trusts).filter (!·.isConfirm) =
      equipping identities trusts := List.filter_eq_self.mpr fun step hstep => by
    rw [not_isConfirm_of_mem_equipping hstep]
    rfl
  rw [List.filter_append, List.filter_cons_of_neg (by simp [Step.isConfirm]), hpinning, hequipping]

/-- The only version that the plan has confirmed is the one that it pins. -/
theorem eq_of_confirm_mem {identities trusts : List Provider} {version v : TlsVersion}
    {check : Bool}
    (h : .confirm v ∈ pinning version check ++ .confirm version :: equipping identities trusts) :
    v = version := by
  rcases List.mem_append.mp h with h | h
  · simp [pinning] at h
  · rcases List.mem_cons.mp h with h | h
    · cases h
      rfl
    · cases not_isConfirm_of_mem_equipping h

/-- An engine that keeps to the version it is pinned to is given what the providers hold, in order,
up to the first call that fails, and there is a context if none fails.  The default trust is loaded
if no trust provider installs anything, and only then: not for a truststore, and not for a
configuration that names trust of its own. -/
theorem installed_exactly_given (identities trusts : List Provider) (protocol : Value)
    (version : TlsVersion) (check : Bool) (observer : Option Observer) (w : World π τ)
    (hcheck : Context.checkProviders identities trusts = .ok ())
    (hversion : resolveProtocol protocol = .ok version)
    (hreads : ∀ x ∈ w.since ((Context.build identities trusts protocol check observer).after w),
      x.readsBack version = true) :
    (∃ story r,
      Narrates w ((Context.build identities trusts protocol check observer).after w) story ∧
      CarriedOut w.nextEngine (pinning version check ++ equipping identities trusts)
        (story.filter (!·.isReading)) r ∧
      ((∃ c u, Context.build identities trusts protocol check observer w = .ok c u) ↔
        r = .ok ())) ∧
    (∀ (truststore : Option Provider) (v : World π τ), Makes Call.SparesDefaults v
      ((Factory.ofTruststore truststore identities protocol check observer).after v)) ∧
    ∀ (c : Config) (v : World π τ), Factory.NamesTrust c →
      Makes Call.SparesDefaults v ((Factory.ofConfig c observer).after v) := by
  refine ⟨?_, fun truststore v => Factory.ofTruststore_spares truststore _ _ _ _ v,
    fun c v hc => Factory.ofConfig_spares hc observer v⟩
  rcases checkProviders_cases identities trusts with ⟨-, -, hidentities, -⟩ | ⟨f, hfails, -, -⟩
  · obtain ⟨story, r, hstory, hplan, hends⟩ :=
      build_of_checked check observer hcheck hidentities hversion w
    have hsince : w.since ((Context.build identities trusts protocol check observer).after w) =
        story.reverse := World.since_eq hstory
    rw [hsince] at hreads
    have hconfirmed := hplan.confirmed (fun v hv => eq_of_confirm_mem hv)
      fun x hx => hreads x (List.mem_reverse.mpr hx)
    rw [filter_plan] at hconfirmed
    refine ⟨story, r, hstory, hconfirmed, ?_⟩
    cases r with
    | ok _ =>
      obtain ⟨c, u, hbuild, -⟩ := hends
      exact ⟨fun _ => rfl, fun _ => ⟨c, u, hbuild⟩⟩
    | error f =>
      obtain ⟨g, u, hbuild, -⟩ := hends
      refine ⟨fun ⟨c, v, hok⟩ => ?_, fun h => ?_⟩
      · cases hbuild.symm.trans hok
      · cases h
  · rw [hcheck] at hfails
    cases hfails

open TrustGate.Tls.Session (judge smooth)

def ownCertificate : Provider := .identity ⟨"cert.pem", none, .null⟩

def ownAnchors : Provider := .trust ⟨some "ca.pem", none⟩

/-- A context with a certificate, a validator and a file of anchors. -/
def buildOwn : Action Rehearsal.Stage Float Context :=
  Context.build [ownCertificate] [judge 0, ownAnchors] (.text "TLSv1.3") true none

theorem exists_buildOwn : ∃ c u, buildOwn smooth = .ok c u := by
  have hbuilt : (outcome (buildOwn smooth)).isOk = true := by decide +kernel
  cases h : buildOwn smooth with
  | ok c u => exact ⟨c, u, rfl⟩
  | error f u =>
    rw [h] at hbuilt
    cases hbuilt

/-- The certificate and the anchors are installed, and the default trust is not. -/
theorem installed_exactly_given_own :
    Context.checkProviders [ownCertificate] [judge 0, ownAnchors] = .ok () ∧
      resolveProtocol (.text "TLSv1.3") = .ok .tls13 ∧
      (∀ x ∈ smooth.since (buildOwn.after smooth), x.readsBack .tls13 = true) ∧
      equipping [ownCertificate] [judge 0, ownAnchors] =
        [.install ownCertificate, .install ownAnchors] ∧
      ∃ story : List (Happening Float), Narrates smooth (buildOwn.after smooth) story ∧
        CarriedOut 0 (pinning .tls13 true ++ [.install ownCertificate, .install ownAnchors])
          (story.filter (!·.isReading)) (.ok ()) := by
  have hcheck : Context.checkProviders [ownCertificate] [judge 0, ownAnchors] = .ok () := rfl
  have hversion : resolveProtocol (.text "TLSv1.3") = .ok .tls13 := rfl
  have hreads : ∀ x ∈ smooth.since (buildOwn.after smooth), x.readsBack .tls13 = true := by
    decide +kernel
  obtain ⟨⟨story, r, hstory, hplan, hbuilt⟩, -, -⟩ :=
    installed_exactly_given [ownCertificate] [judge 0, ownAnchors] (.text "TLSv1.3") .tls13 true
      none smooth hcheck hversion hreads
  rw [hbuilt.mp exists_buildOwn] at hplan
  exact ⟨hcheck, hversion, hreads, rfl, story, hstory, hplan⟩

end Tls

end TrustGate
