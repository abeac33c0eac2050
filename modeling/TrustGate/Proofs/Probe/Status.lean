import TrustGate.Proofs.Connection.Arguments
import TrustGate.Proofs.Probe.SetUp

/-!
# What the probe exits with

A probe whose calls fail as operating systems do ends in one of four ways:

    Unready a w f      the settings are refused, or no factory can be made        status 2
    Fails a w          connecting fails, or the session that was opened does      status 1
    Reports a w s      the peer is trusted, and the snapshot `s` is printed       status 0
    Mishap a w f       the failure `f` escapes

It is a mishap if the set-up is thwarted, if the host or the port is refused, which is not found
out before the set-up is done, or if the peer presents a chain that baffles the validator or
cannot be described                                                             (run_status).
-/

namespace TrustGate

namespace Probe

open Connection (Refused IsPort)
open Tls.Session (peerChain known Presents Unreadable)

/-! ## Snapshots -/

namespace Snapshot

variable {π τ : Type} [Platform π τ] {host port : Value} {id : SocketId} {w u : World π τ}
  {f : Failure}

/-- The chain of the peer cannot be read, or its leaf cannot be described. -/
inductive Indescribable (id : SocketId) (w : World π τ) (f : Failure) : Prop
  | unread {u : World π τ} (read : peerChain id w = .error f u) (fault : Unreadable id w f)
  | undescribed {chain : List Certificate} {cipher : Option Cipher} {u v : World π τ}
      (read : peerChain id w = .ok chain u) (told : Tls.Session.cipher id u = .ok cipher v)
      (fault : describeLeaf chain = .error f)

theorem Indescribable.not_isOs (h : Indescribable id w f) : f.kind.isOs = false := by
  cases h with
  | unread _ h => rcases h.kind with hkind | hkind | hkind <;> rw [hkind] <;> rfl
  | @undescribed chain _ _ _ _ _ h =>
    cases chain with
    | nil => cases h
    | cons leaf rest => exact (leaf.describe_faults f h).not_isOs

/-- A snapshot is not taken because a call fails, or because the peer cannot be described. -/
theorem take_cause (ho : (known w id).isOpen = true) (h : take host port id w = .error f u) :
    FailedIn w u f ∨ Indescribable id w f := by
  have hends := Tls.Session.peerChain_ends ho
  unfold take at h
  cases hchain : peerChain id w with
  | error g x =>
    rw [hchain] at hends
    cases (Action.bind_of_error hchain _).symm.trans h
    exact hends.imp_right (.unread hchain)
  | ok chain x =>
    rw [Action.bind_of_ok hchain] at h
    have hread := ((Tls.Session.peerChain_quietly id).of_ok hchain).makes.suffix
    cases hcipher : Tls.Session.cipher id x with
    | error g y =>
      cases (Action.bind_of_error hcipher _).symm.trans h
      exact .inl ((Tls.Session.cipher_cause hcipher).widen hread List.suffix_rfl)
    | ok cipher y =>
      rw [Action.bind_of_ok hcipher] at h
      have hasked := ((Tls.Session.cipher_quietly id).of_ok hcipher).makes.suffix
      cases hleaf : describeLeaf chain with
      | error g =>
        rw [hleaf, Action.bind_of_error (Action.ofExcept_error g y)] at h
        cases h
        exact .inr (.undescribed hchain hcipher hleaf)
      | ok leaf =>
        rw [hleaf, Action.bind_of_ok (Action.ofExcept_ok leaf y)] at h
        cases hversion : Tls.Session.version id y with
        | error g z =>
          cases (Action.bind_of_error hversion _).symm.trans h
          exact .inl ((Tls.Session.version_cause hversion).widen (hread.trans hasked)
            List.suffix_rfl)
        | ok version z =>
          rw [Action.bind_of_ok hversion] at h
          cases h

theorem take_of_indescribable (h : Indescribable id w f) (host port : Value) :
    ∃ u, take host port id w = .error f u := by
  unfold take
  cases h with
  | unread hchain _ => exact ⟨_, Action.bind_of_error hchain _⟩
  | undescribed hchain hcipher hleaf =>
    rw [Action.bind_of_ok hchain, Action.bind_of_ok hcipher, hleaf]
    exact ⟨_, Action.bind_of_error (Action.ofExcept_error f _) _⟩

end Snapshot

variable {π τ : Type} [Platform π τ] {a : Arguments} {c : Config} {factory : Factory}
  {id : SocketId} {w u : World π τ} {f : Failure}

/-- Whatever comes of the snapshot, the session is closed after it, and at least once. -/
theorem snapshotAndClose_ends (a : Arguments) (id : SocketId) (w : World π τ) :
    match Snapshot.take a.host a.port id w with
    | .ok s _ => ∃ v, snapshotAndClose a id w = .ok s v
    | .error f u => ∃ v, snapshotAndClose a id w = .error f v ∧ u.history <:+ v.history := by
  have hcleaned := Action.onFailure_eq (Snapshot.take a.host a.port id : Action π τ Snapshot)
    (Tls.Session.close id) w
  unfold snapshotAndClose
  cases htaken : Snapshot.take a.host a.port id w with
  | ok s u =>
    rw [htaken] at hcleaned
    exact ⟨_, Action.bind_of_ok hcleaned _⟩
  | error f u =>
    rw [htaken] at hcleaned
    exact ⟨_, Action.bind_of_error hcleaned _, List.suffix_cons _ _⟩

/-! ## Connecting -/

/-- The request that the arguments make. -/
def Arguments.request (a : Arguments) (c : Config) : Connection.Request :=
  ⟨a.host, a.port, .null, .int 0, c.connectTimeout, c.soTimeout⟩

theorem request_of_sound (hc : c.Sound) (hhost : a.host.isGiven = true) (hport : IsPort a.port) :
    Connection.Request.withParams a.host a.port .null (.int 0) ⟨c.connectTimeout, c.soTimeout⟩ =
      .ok (a.request c) := by
  obtain ⟨x, hx, hle⟩ := hc.connectTimeout
  have htimeout := Config.checkConnectTimeout_of_le hle
  rw [← hx] at htimeout
  simp only [Connection.Request.withParams]
  unfold Connection.Request.make
  rw [hhost, Connection.checkPort_of_isPort hport, htimeout]
  rfl

variable [Duration τ]

theorem counts_of_sound (hc : c.Sound)
    (hlimits : ∀ x : Float, ∃ limit : τ, Duration.ofValue (.float x) = .ok limit) :
    Connection.Counts τ (a.request c) := by
  obtain ⟨x, hx, -⟩ := hc.connectTimeout
  intro _
  show ∃ limit : τ, Duration.ofValue c.connectTimeout = .ok limit
  rw [hx]
  exact hlimits x

/-- What is tried once the probe is set up. -/
def session (a : Arguments) (c : Config) (factory : Factory) : Action π τ Ending := do
  let id ← factory.createTimedSocket a.host a.port .null (.int 0)
    (some ⟨c.connectTimeout, c.soTimeout⟩)
  let s ← snapshotAndClose a id
  return .returned 0 (a.print s)

/-- An action whose failures of a family are printed and answered with a result. -/
def answering {α : Type} (family : FailureKind → Bool) (line : Failure → String) (answer : α)
    (action : Action π τ α) : Action π τ α :=
  tryCatch action fun f => do
    if family f.kind then
      printError (line f)
      return answer
    else throw f

section

omit [Platform π τ] [Duration τ]

variable {α : Type} {family : FailureKind → Bool} {action : Action π τ α}

theorem answering_of_ok {x : α} (h : action w = .ok x u) (line : Failure → String) (answer : α) :
    answering family line answer action w = .ok x u := Action.tryCatch_of_ok h _

theorem answering_of_family (h : action w = .error f u) (hf : family f.kind = true)
    (line : Failure → String) (answer : α) :
    ∃ j, answering family line answer action w = .ok answer { u with journal := j } := by
  unfold answering
  rw [Action.tryCatch_of_error h, if_pos hf]
  exact ⟨_, rfl⟩

theorem answering_of_other (h : action w = .error f u) (hf : family f.kind = false)
    (line : Failure → String) (answer : α) :
    answering family line answer action w = .error f u := by
  unfold answering
  rw [Action.tryCatch_of_error h, if_neg (Bool.eq_false_iff.mp hf)]
  rfl

end

/-- Failures of the operating system's are answered with status 1. -/
theorem connectAndPrint_eq (hc : c.Sound) (a : Arguments) (factory : Factory) (w : World π τ) :
    ∃ line, connectAndPrint a c factory w =
      answering FailureKind.isOs line (.returned 1 "") (session a c factory) w := by
  unfold connectAndPrint
  rw [hc.connectionParams, Action.bind_of_ok (Action.ofExcept_ok _ w)]
  exact ⟨_, rfl⟩

theorem probe_of_ready (h : setUp a w = .ok (c, factory) u) :
    probe a w = connectAndPrint a c factory u := by
  have hready : (do return some (← setUp a) : Action π τ (Option (Config × Factory))) w =
      .ok (some (c, factory)) u := Action.bind_of_ok h _
  exact Action.bind_of_ok (Action.tryCatch_of_ok hready _) _

/-- A set-up that is refused is answered with status 2. -/
theorem probe_of_refusal (h : setUp a w = .error f u) (hf : f.kind.isFactory = true) :
    ∃ j, probe a w = .ok (.returned 2 "") { u with journal := j } := by
  obtain ⟨j, hanswered⟩ := answering_of_family (Action.bind_of_error h _) hf
    (fun f => "[Probe] configuration error: " ++ f.message ++ "\n") none
  exact ⟨j, Action.bind_of_ok hanswered _⟩

theorem probe_of_other (h : setUp a w = .error f u) (hf : f.kind.isFactory = false) :
    probe a w = .error f u :=
  Action.bind_of_error (answering_of_other (Action.bind_of_error h _) hf
    (fun f => "[Probe] configuration error: " ++ f.message ++ "\n") none) _

/-- A set-up that fails is all that happens. -/
theorem history_of_setUp_error (h : setUp a w = .error f u) :
    ((probe a).after w).history = u.history := by
  cases hkind : f.kind.isFactory with
  | true =>
    obtain ⟨j, hprobe⟩ := probe_of_refusal h hkind
    rw [Action.after_of_ok hprobe]
  | false => rw [Action.after_of_error (probe_of_other h hkind)]

section

variable {e : Ending} {v : World π τ} (hready : setUp a w = .ok (c, factory) u)

include hready

theorem probe_of_session (h : session a c factory u = .ok e v) : probe a w = .ok e v := by
  obtain ⟨line, hline⟩ := connectAndPrint_eq (sound_of_setUp hready) a factory u
  rw [probe_of_ready hready, hline]
  exact answering_of_ok h ..

theorem probe_of_failure (h : session a c factory u = .error f v) (hf : f.kind.isOs = true) :
    ∃ j, probe a w = .ok (.returned 1 "") { v with journal := j } := by
  obtain ⟨line, hline⟩ := connectAndPrint_eq (sound_of_setUp hready) a factory u
  rw [probe_of_ready hready, hline]
  exact answering_of_family h hf ..

theorem probe_of_escape (h : session a c factory u = .error f v) (hf : f.kind.isOs = false) :
    probe a w = .error f v := by
  obtain ⟨line, hline⟩ := connectAndPrint_eq (sound_of_setUp hready) a factory u
  rw [probe_of_ready hready, hline]
  exact answering_of_other h hf ..

end

theorem session_of_refused {fault : Connection.RequestFault} (h : Refused a.host a.port fault)
    (c : Config) (factory : Factory) (w : World π τ) :
    session a c factory w = .error (Failure.of fault) w := by
  have hrequest := Connection.make_of_refused h .null (.int 0) c.connectTimeout c.soTimeout
  refine Action.bind_of_error ?_ _
  unfold Factory.createTimedSocket
  simp only [Connection.Request.withParams]
  rw [hrequest]
  rfl

/-! ## How a probe ends -/

/-- The probe is set up, and it is told where to connect to. -/
structure Departs (a : Arguments) (w : World π τ) (c : Config) (factory : Factory)
    (u : World π τ) : Prop where
  ready : setUp a w = .ok (c, factory) u
  host : a.host.isGiven = true
  port : IsPort a.port

theorem Departs.socket_eq (h : Departs a w c factory u) :
    factory.createTimedSocket a.host a.port .null (.int 0)
      (some ⟨c.connectTimeout, c.soTimeout⟩) u =
      Connection.connect factory.context (a.request c) true u := by
  unfold Factory.createTimedSocket
  simp only []
  rw [request_of_sound (sound_of_setUp h.ready) h.host h.port]
  rfl

theorem Departs.session_of_error (h : Departs a w c factory u) {v : World π τ}
    (hf : Connection.connect factory.context (a.request c) true u = .error f v) :
    session a c factory u = .error f v := Action.bind_of_error (h.socket_eq.trans hf) _

theorem Departs.session_of_ok (h : Departs a w c factory u) {v : World π τ}
    (hid : Connection.connect factory.context (a.request c) true u = .ok id v) :
    session a c factory u =
      (do
        let s ← snapshotAndClose a id
        return .returned 0 (a.print s) : Action π τ Ending) v :=
  Action.bind_of_ok (h.socket_eq.trans hid) _

/-- The operating system fails connecting, or the session after that. -/
inductive Fails (a : Arguments) (w : World π τ) : Prop
  | connecting {c : Config} {factory : Factory} {u v : World π τ} {f : Failure}
      (departs : Departs a w c factory u)
      (failed : Connection.connect factory.context (a.request c) true u = .error f v)
      (os : f.kind.isOs = true)
  | connected {c : Config} {factory : Factory} {u v x : World π τ} {id : SocketId} {f : Failure}
      (departs : Departs a w c factory u)
      (connected : Connection.connect factory.context (a.request c) true u = .ok id v)
      (failed : snapshotAndClose a id v = .error f x) (os : f.kind.isOs = true)

/-- The session is opened with a peer that is trusted, and its snapshot is taken. -/
inductive Reports (a : Arguments) (w : World π τ) (s : Snapshot) : Prop
  | intro {c : Config} {factory : Factory} {u t v x : World π τ} {id : SocketId}
      (departs : Departs a w c factory u)
      (opened : Connection.openSocket (a.request c) u = .ok id t)
      (trusted : Connection.Trusts factory.context (a.request c) id t)
      (connected : Connection.connect factory.context (a.request c) true u = .ok id v)
      (taken : snapshotAndClose a id v = .ok s x)

/-- What the probe answers with. -/
inductive Answers (a : Arguments) (w : World π τ) : Ending → Prop
  | unready {f : Failure} (h : Unready a w f) : Answers a w (.returned 2 "")
  | failed (h : Fails a w) : Answers a w (.returned 1 "")
  | reported {s : Snapshot} (h : Reports a w s) : Answers a w (.returned 0 (a.print s))

/-- What escapes the probe. -/
inductive Mishap (a : Arguments) (w : World π τ) : Failure → Prop
  | thwarted {f : Failure} (h : Thwarted w.files a f) : Mishap a w f
  | refused {c : Config} {factory : Factory} {u : World π τ} {fault : Connection.RequestFault}
      (ready : setUp a w = .ok (c, factory) u) (h : Refused a.host a.port fault) :
      Mishap a w (Failure.of fault)
  | baffled {c : Config} {factory : Factory} {u : World π τ} {f : Failure}
      (departs : Departs a w c factory u)
      (h : Connection.Baffles factory.context (a.request c) u f) : Mishap a w f
  | indescribable {c : Config} {factory : Factory} {u v : World π τ} {id : SocketId} {f : Failure}
      (departs : Departs a w c factory u)
      (connected : Connection.connect factory.context (a.request c) true u = .ok id v)
      (h : Snapshot.Indescribable id v f) : Mishap a w f

/-- The probe answers, or what escapes it is a mishap. -/
def Accounted (a : Arguments) (w : World π τ) : EStateM.Result Failure (World π τ) Ending → Prop
  | .ok e _ => Answers a w e
  | .error f _ => Mishap a w f

theorem probe_of_answers {e : Ending} (h : Answers a w e) : ∃ u, probe a w = .ok e u := by
  cases h with
  | unready h =>
    obtain ⟨u, hfailed⟩ := h.setUp_eq_error
    obtain ⟨j, hprobe⟩ := probe_of_refusal hfailed h.isFactory
    exact ⟨_, hprobe⟩
  | failed h =>
    cases h with
    | connecting hdeparts hfailed hos =>
      obtain ⟨j, hprobe⟩ := probe_of_failure hdeparts.ready (hdeparts.session_of_error hfailed) hos
      exact ⟨_, hprobe⟩
    | connected hdeparts hconnected hfailed hos =>
      obtain ⟨j, hprobe⟩ := probe_of_failure hdeparts.ready
        ((hdeparts.session_of_ok hconnected).trans (Action.bind_of_error hfailed _)) hos
      exact ⟨_, hprobe⟩
  | reported h =>
    obtain ⟨hdeparts, -, -, hconnected, htaken⟩ := h
    exact ⟨_, probe_of_session hdeparts.ready
      ((hdeparts.session_of_ok hconnected).trans (Action.bind_of_ok htaken _))⟩

theorem probe_of_mishap (h : Mishap a w f) : ∃ u, probe a w = .error f u := by
  cases h with
  | thwarted h =>
    obtain ⟨u, hthwarted⟩ := setUp_of_thwarted h
    exact ⟨u, probe_of_other hthwarted h.not_isFactory⟩
  | refused hready h => exact ⟨_, probe_of_escape hready (session_of_refused h _ _ _) rfl⟩
  | baffled hdeparts h =>
    obtain ⟨v, hfailed⟩ := Connection.connect_of_baffles h
    exact ⟨v, probe_of_escape hdeparts.ready (hdeparts.session_of_error hfailed) h.not_isOs⟩
  | @indescribable _ _ _ v id _ hdeparts hconnected h =>
    obtain ⟨x, htaken⟩ := Snapshot.take_of_indescribable h a.host a.port
    have hends := snapshotAndClose_ends a id v
    rw [htaken] at hends
    obtain ⟨y, hfailed, -⟩ := hends
    exact ⟨y, probe_of_escape hdeparts.ready
      ((hdeparts.session_of_ok hconnected).trans (Action.bind_of_error hfailed _)) h.not_isOs⟩

omit [Duration τ] in
theorem Departs.grows (h : Departs a w c factory u) : w.history <:+ u.history := by
  have hequips := (setUp_equips a w).suffix
  rwa [Action.after_of_ok h.ready] at hequips

omit [Platform π τ] [Duration τ] in
/-- A call that failed did so as operating systems do, so no other failure comes of it. -/
theorem not_failedIn {v x : World π τ} (hos : FailsOnly (fun f => f.kind.isOs = true) w v)
    (hkind : f.kind.isOs = false) (hu : w.history <:+ u.history) (hx : x.history <:+ v.history) :
    ¬FailedIn u x f := by
  intro hfailed
  have hholds := (hfailed.widen hu hx).holds hos
  rw [hkind] at hholds
  cases hholds

section

variable (hos : FailsOnly (fun f => f.kind.isOs = true) w ((probe a).after w))

include hos

theorem accounted_of_setUp_error (h : setUp a w = .error f u) : Accounted a w (probe a w) := by
  have hkept := history_of_setUp_error h
  rw [← Action.after_of_error h] at hkept
  have hends := setUp_ends (hos.narrow List.suffix_rfl (setUp_equips a w).suffix
    (hkept ▸ List.suffix_rfl) fun _ h => h)
  rw [h] at hends
  rcases hends with hunready | hthwarted
  · obtain ⟨j, hprobe⟩ := probe_of_refusal h hunready.isFactory
    rw [hprobe]
    exact Answers.unready hunready
  · rw [probe_of_other h hthwarted.not_isFactory]
    exact Mishap.thwarted hthwarted

theorem accounted_of_connect_error
    (hlimits : ∀ x : Float, ∃ limit : τ, Duration.ofValue (.float x) = .ok limit)
    (hd : Departs a w c factory u) {v : World π τ}
    (hf : Connection.connect factory.context (a.request c) true u = .error f v) :
    Accounted a w (probe a w) := by
  cases hkind : f.kind.isOs with
  | true =>
    obtain ⟨j, hprobe⟩ := probe_of_failure hd.ready (hd.session_of_error hf) hkind
    rw [hprobe]
    exact Answers.failed (.connecting hd hf hkind)
  | false =>
    have hprobe := probe_of_escape hd.ready (hd.session_of_error hf) hkind
    rw [Action.after_of_error hprobe] at hos
    rw [hprobe]
    -- The set-up is a part of the run, so no call failed otherwise in it either.
    have hgrows := Connection.connect_grows factory.context (a.request c) u
    rw [Action.after_of_error hf] at hgrows
    have hsetUp := hos.narrow List.suffix_rfl hd.grows hgrows fun _ h => h
    rw [← Action.after_of_ok hd.ready] at hsetUp
    have hdelegated := setUp_ends hsetUp
    rw [hd.ready] at hdelegated
    have hcounts := counts_of_sound (a := a) (sound_of_setUp hd.ready) hlimits
    rcases Connection.connect_cause hcounts hdelegated hf with hos' | hfailed | hbaffles
    · rw [hkind] at hos'
      cases hos'
    · exact absurd hfailed (not_failedIn hos hkind hd.grows List.suffix_rfl)
    · exact Mishap.baffled hd hbaffles

theorem accounted_of_connected (hd : Departs a w c factory u) {v : World π τ}
    (hid : Connection.connect factory.context (a.request c) true u = .ok id v) :
    Accounted a w (probe a w) := by
  obtain ⟨t, hopened, -, -, htrusted, hopen⟩ := Connection.connect_ok hid
  have hends := snapshotAndClose_ends a id v
  cases htaken : Snapshot.take a.host a.port id v with
  | ok s y =>
    rw [htaken] at hends
    obtain ⟨x, hclosed⟩ := hends
    rw [probe_of_session hd.ready
      ((hd.session_of_ok hid).trans (Action.bind_of_ok hclosed _))]
    exact Answers.reported ⟨hd, hopened, htrusted, hid, hclosed⟩
  | error f y =>
    rw [htaken] at hends
    obtain ⟨x, hclosed, hgrows⟩ := hends
    have hsession := (hd.session_of_ok hid).trans (Action.bind_of_error hclosed _)
    cases hkind : f.kind.isOs with
    | true =>
      obtain ⟨j, hprobe⟩ := probe_of_failure hd.ready hsession hkind
      rw [hprobe]
      exact Answers.failed (.connected hd hid hclosed hkind)
    | false =>
      have hprobe := probe_of_escape hd.ready hsession hkind
      rw [Action.after_of_error hprobe] at hos
      rw [hprobe]
      have hreached := Connection.connect_grows factory.context (a.request c) u
      rw [Action.after_of_ok hid] at hreached
      rcases Snapshot.take_cause hopen htaken with hfailed | hindescribable
      · exact absurd hfailed (not_failedIn hos hkind (hd.grows.trans hreached) hgrows)
      · exact Mishap.indescribable hd hid hindescribable

end

/-- However the probe ends, it answers with a status, or the failure that escapes is a mishap. -/
theorem probe_accounted
    (hlimits : ∀ x : Float, ∃ limit : τ, Duration.ofValue (.float x) = .ok limit)
    (hos : FailsOnly (fun f => f.kind.isOs = true) w ((probe a).after w)) :
    Accounted a w (probe a w) := by
  cases hready : setUp a w with
  | error f u => exact accounted_of_setUp_error hos hready
  | ok ready u =>
    obtain ⟨c, factory⟩ := ready
    rcases Connection.refused_or a.host a.port with ⟨fault, hrefused⟩ | ⟨hhost, hport⟩
    · rw [probe_of_escape hready (session_of_refused hrefused c factory u) rfl]
      exact Mishap.refused hready hrefused
    · have hdeparts : Departs a w c factory u := ⟨hready, hhost, hport⟩
      cases hconnect : Connection.connect factory.context (a.request c) true u with
      | error f v => exact accounted_of_connect_error hos hlimits hdeparts hconnect
      | ok id v => exact accounted_of_connected hos hdeparts hconnect

/-- Short of a place to connect to, the probe makes no call but for the engine. -/
theorem probe_equips (h : ∀ c factory u, ¬Departs a w c factory u) :
    Makes Call.IsEquipping w ((probe a).after w) := by
  have hequips := setUp_equips a w
  cases hready : setUp a w with
  | error f u =>
    rw [Action.after_of_error hready] at hequips
    obtain ⟨new, hnew, hall⟩ := hequips
    exact ⟨new, (history_of_setUp_error hready).trans hnew, hall⟩
  | ok ready u =>
    obtain ⟨c, factory⟩ := ready
    rw [Action.after_of_ok hready] at hequips
    rcases Connection.refused_or a.host a.port with ⟨fault, hrefused⟩ | ⟨hhost, hport⟩
    · rw [Action.after_of_error
        (probe_of_escape hready (session_of_refused hrefused c factory u) rfl)]
      exact hequips
    · exact absurd ⟨hready, hhost, hport⟩ (h c factory u)

def hostless : List String := ["", "443", "--certfile", "cert.pem"]

/-- What the words ask for. -/
def hostlessArguments : Arguments :=
  { Arguments.none with host := .text "", port := .int 443, certfile := .text "cert.pem" }

/-- The certificate is there, and the engine takes it. -/
def certified : World Rehearsal.Stage Float :=
  .initial (Rehearsal.Stage.start 0.0 0.0)
    (Rehearsal.Tree.mk [(["srv", "cert.pem"], .file [])] ["srv"]).files

theorem setUp_hostless : ∃ c factory u, setUp hostlessArguments certified = .ok (c, factory) u := by
  have hready : (Tls.outcome (setUp hostlessArguments certified)).isOk = true := by decide +kernel
  cases h : setUp hostlessArguments certified with
  | ok ready u => exact ⟨ready.1, ready.2, u, rfl⟩
  | error f u =>
    rw [h] at hready
    cases hready

end Probe

end TrustGate
