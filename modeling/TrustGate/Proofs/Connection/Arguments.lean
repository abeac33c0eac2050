import TrustGate.Factory
import TrustGate.Proofs.Connection.Upgraded

/-!
# Hosts and ports that are refused

A factory has three entry points that are given a host and a port:

    entry.enter f host port       the entry point with what else it is given
    entry.refusal host port       what it refuses a bad host or port for
    RefusedFirst w fault p        `p` is that refusal, before anything was done since `w`

Connecting, with timeouts or without, checks both before anything else is done.  Upgrading checks
the host only, so that no port ever stops it (bad_arguments_refused_first).
-/

namespace TrustGate

/-- The call asks whether a socket is open. -/
def Call.IsGlance {τ : Type} : Call τ → Prop
  | .isOpen _ => True
  | _ => False

/-- The call takes an open socket for a session. -/
def Call.IsTaking {τ : Type} (plain : SocketId) : Call τ → Prop
  | .duplicate s _ | .wrap _ s _ => s = plain
  | _ => False

namespace Connection

/-! ## Ports -/

/-- A whole number from 1 to 65535; a protocol version is one, by its wire number. -/
inductive IsPort : Value → Prop
  | int {n : Int} : 1 ≤ n → n ≤ 65535 → IsPort (.int n)
  | version {v : TlsVersion} : 1 ≤ v.number → v.number ≤ 65535 → IsPort (.version v)

theorem isPort_iff (port : Value) :
    IsPort port ↔ (∀ b, port ≠ .bool b) ∧
      ∃ n, port.integer? = some n ∧ leastPort ≤ n ∧ n ≤ greatestPort := by
  constructor
  · intro h
    cases h with
    | int hle hge => exact ⟨by simp, _, rfl, hle, hge⟩
    | version hle hge => exact ⟨by simp, _, rfl, hle, hge⟩
  · rintro ⟨hbool, n, hn, hle, hge⟩
    cases port with
    | bool b => exact absurd rfl (hbool b)
    | int i =>
      cases hn
      exact .int hle hge
    | version v =>
      cases hn
      exact .version hle hge
    | _ => cases hn

/-- A value that is no port is refused by the name of its field. -/
theorem checkPort_of_not_isPort {port : Value} (h : ¬IsPort port) (field : String) :
    checkPort field port = refuse (RequestFault.badPort field port.quoted) := by
  rw [isPort_iff] at h
  unfold checkPort
  split
  · rfl
  · next hbool =>
    split
    · next n hn =>
      rw [if_neg fun hrange => h ⟨hbool, n, hn, hrange⟩]
    · rfl

theorem checkPort_of_isPort {port : Value} (h : IsPort port) (field : String) :
    checkPort field port = .ok () := by
  have hrange {n : Int} (hle : 1 ≤ n) (hge : n ≤ 65535) : leastPort ≤ n ∧ n ≤ greatestPort :=
    ⟨hle, hge⟩
  cases h with
  | int hle hge => exact if_pos (hrange hle hge)
  | version hle hge => exact if_pos (hrange hle hge)

/-- What a host and a port are refused for; the host comes first. -/
inductive Refused (host port : Value) : RequestFault → Prop
  | host (missing : host.isGiven = false) : Refused host port .emptyHost
  | port (given : host.isGiven = true) (bad : ¬IsPort port) :
      Refused host port (.badPort "port" port.quoted)

theorem refused_or (host port : Value) :
    (∃ fault, Refused host port fault) ∨ host.isGiven = true ∧ IsPort port := by
  cases hhost : host.isGiven with
  | false => exact .inl ⟨_, .host hhost⟩
  | true =>
    by_cases hport : IsPort port
    · exact .inr ⟨rfl, hport⟩
    · exact .inl ⟨_, .port hhost hport⟩

theorem make_of_refused {host port : Value} {fault : RequestFault} (h : Refused host port fault)
    (localAddress localPort connectTimeout soTimeout : Value) :
    Request.make host port localAddress localPort connectTimeout soTimeout = refuse fault := by
  unfold Request.make
  cases h with
  | host hmissing =>
    rw [hmissing]
    rfl
  | port hgiven hbad =>
    rw [hgiven, checkPort_of_not_isPort hbad "port"]
    rfl

/-- What a host and a port are refused for, if they are. -/
def refusal (host : String) (port : Value) : RequestFault :=
  if host = "" then .emptyHost else .badPort "port" port.quoted

theorem refused_refusal {host : String} {port : Value} (hbad : host = "" ∨ ¬IsPort port) :
    Refused (.text host) port (refusal host port) := by
  unfold refusal
  by_cases hhost : host = ""
  · rw [if_pos hhost, hhost]
    exact .host rfl
  · rw [if_neg hhost]
    exact .port (by simpa [Value.isGiven] using hhost) (hbad.resolve_left hhost)

theorem make_refused {host : String} {port : Value} (hbad : host = "" ∨ ¬IsPort port)
    (localAddress localPort connectTimeout soTimeout : Value) :
    Request.make (.text host) port localAddress localPort connectTimeout soTimeout =
      refuse (refusal host port) :=
  make_of_refused (refused_refusal hbad) localAddress localPort connectTimeout soTimeout

/-! ## Upgrading -/

variable {π τ : Type} [Platform π τ]

/-- Whatever the port is, the socket is duplicated or given to the engine. -/
theorem Upgrades.takes {c : Tls.Context} {plain : SocketId} {host : Option String}
    {autoClose handshake : Bool} {w : World π τ} {p : End π τ SocketId}
    (h : Upgrades c plain host autoClose handshake w p) :
    ∃ call reply, call.IsTaking plain ∧
      .called call reply :: w.history <:+ (Action.final p).history := by
  have hwrap (s : SocketId) (u : World π τ) :
      .called (.wrap c.engine s host) (u.reply (.wrap c.engine s host)) :: u.history <:+
        ((c.wrap s host handshake).after u).history :=
    (wrap_goes_on c s host handshake u).suffix
  have hhanded {s : SocketId} {u v : World π τ} (hs : Handed plain w autoClose s u)
      (hv : ((c.wrap s host handshake).after u).history <:+ v.history) :
      ∃ call reply, call.IsTaking plain ∧ .called call reply :: w.history <:+ v.history := by
    have hstarted := (hwrap s u).trans hv
    cases hs with
    | own => exact ⟨.wrap c.engine plain host, _, rfl, hstarted⟩
    | copy _ => exact ⟨.duplicate plain w.nextSocket, _, rfl, (List.suffix_cons _ _).trans hstarted⟩
  cases h with
  | undoubled _ _ => exact ⟨.duplicate plain w.nextSocket, _, rfl, List.suffix_rfl⟩
  | failed hs hw =>
    refine hhanded hs ?_
    rw [Action.after_of_error hw]
    show _ <:+ (discarded _ _ _).history
    unfold discarded
    split
    · exact List.suffix_rfl
    · exact List.suffix_cons _ _
  | upgraded hs hw =>
    refine hhanded hs ?_
    rw [Action.after_of_ok hw]
    exact List.suffix_rfl

end Connection

namespace Factory

open TrustGate.Connection (End IsPort RequestFault refusal)

/-- An entry point with what it is given besides a host and a port. -/
inductive Entry where
  | connecting (localAddress localPort : Value)
  | timed (localAddress localPort : Value) (params : Option Connection.Params)
  | upgrading (plain : SocketId) (autoClose : Bool)

variable {π τ : Type} [Platform π τ]

/-- The arguments are refused for `fault`, and since `w` nothing was done but to look whether a
socket is open. -/
def RefusedFirst (w : World π τ) (fault : RequestFault) (p : End π τ SocketId) : Prop :=
  ∃ u, p = .error (Failure.of fault) u ∧ Quiet Call.IsGlance w u

namespace Entry

def enter [Duration τ] (f : Factory) (host : String) (port : Value) :
    Entry → Action π τ SocketId
  | .connecting localAddress localPort =>
    f.createSocket (.text host) port localAddress localPort
  | .timed localAddress localPort params =>
    f.createTimedSocket (.text host) port localAddress localPort params
  | .upgrading plain autoClose => f.upgradeSocket (some plain) (some host) port autoClose

/-- What the entry point refuses a bad host or port for: that there are no timeouts comes first. -/
def refusal (host : String) (port : Value) : Entry → RequestFault
  | .timed _ _ none => .noParams
  | _ => Connection.refusal host port

/-- A socket that is to be upgraded is open. -/
def Ready (w : World π τ) : Entry → Prop
  | .upgrading plain _ => w.reply (.isOpen plain) = true
  | _ => True

end Entry

variable [Duration τ]

theorem refusedFirst_of_connecting (f : Factory) {host : String} {port : Value}
    (hbad : host = "" ∨ ¬IsPort port) (localAddress localPort : Value) (w : World π τ) :
    RefusedFirst w (refusal host port)
      ((Entry.connecting localAddress localPort).enter f host port w) := by
  refine ⟨w, ?_, .refl w⟩
  show createSocket f (.text host) port localAddress localPort w = _
  unfold createSocket
  rw [Connection.make_refused hbad]
  rfl

theorem refusedFirst_of_timed (f : Factory) {host : String} {port : Value}
    (hbad : host = "" ∨ ¬IsPort port) (localAddress localPort : Value)
    (params : Option Connection.Params) (w : World π τ) :
    RefusedFirst w ((Entry.timed localAddress localPort params).refusal host port)
      ((Entry.timed localAddress localPort params).enter f host port w) := by
  refine ⟨w, ?_, .refl w⟩
  show createTimedSocket f (.text host) port localAddress localPort params w = _
  unfold createTimedSocket
  cases params with
  | none => rfl
  | some params =>
    simp only [Connection.Request.withParams]
    rw [Connection.make_refused hbad]
    rfl

omit [Duration τ] in
theorem upgradeSocket_of_emptyHost (f : Factory) {plain : SocketId} (port : Value)
    (autoClose : Bool) {w : World π τ} (hopen : w.reply (.isOpen plain) = true) :
    f.upgradeSocket (some plain) (some "") port autoClose w =
      .error (Failure.of RequestFault.emptyHost) (w.asked (.isOpen plain)) := by
  unfold upgradeSocket Connection.upgrade
  exact Action.bind_of_error (Connection.checkUpgrade_of_isOpen hopen "") _

/-- A bad host or port is refused before anything is done, with one exception: upgrading takes the
socket whatever the port is, if the host is good. -/
theorem bad_arguments_refused_first (entry : Entry) (f : Factory) (host : String) (port : Value)
    (w : World π τ) (hready : entry.Ready w) (hbad : host = "" ∨ ¬IsPort port) :
    ((∀ plain autoClose, entry = .upgrading plain autoClose → host = "") →
        RefusedFirst w (entry.refusal host port) (entry.enter f host port w)) ∧
      ∀ plain autoClose, entry = .upgrading plain autoClose → host ≠ "" →
        ∃ call reply, call.IsTaking plain ∧
          .called call reply ∈ w.since ((entry.enter f host port).after w) := by
  constructor
  · intro hupgrading
    cases entry with
    | connecting localAddress localPort =>
      exact refusedFirst_of_connecting f hbad localAddress localPort w
    | timed localAddress localPort params =>
      exact refusedFirst_of_timed f hbad localAddress localPort params w
    | upgrading plain autoClose =>
      obtain rfl := hupgrading plain autoClose rfl
      exact ⟨_, upgradeSocket_of_emptyHost f port autoClose hready, w.quiet_asked trivial⟩
  · rintro plain autoClose rfl hhost
    have hupgrades := Connection.upgrade_upgrades f.context port autoClose true hready hhost
    obtain ⟨call, reply, hcall, hgrows⟩ := hupgrades.takes
    exact ⟨call, reply, hcall, World.mem_since hgrows (List.suffix_cons _ _)⟩

omit [Platform π τ] [Duration τ] in
theorem not_isPort_zero : ¬IsPort (.int 0) := by
  rintro ⟨hle, -⟩
  omega

/-- Upgrading to the port 0 is not refused: the socket is duplicated for a session. -/
theorem bad_arguments_refused_first_port_zero :
    (Entry.upgrading 0 false).Ready Connection.tunnelled ∧ ¬IsPort (.int 0) ∧ "localhost" ≠ "" ∧
      ∃ call reply, call.IsTaking 0 ∧ .called call reply ∈ Connection.tunnelled.since
        (((Entry.upgrading 0 false).enter ⟨Connection.unverified⟩ "localhost" (.int 0)).after
          Connection.tunnelled) := by
  have hready : (Entry.upgrading 0 false).Ready Connection.tunnelled := rfl
  have hhost : "localhost" ≠ "" := by decide
  exact ⟨hready, not_isPort_zero, hhost,
    (bad_arguments_refused_first (.upgrading 0 false) ⟨Connection.unverified⟩ "localhost" (.int 0)
      Connection.tunnelled hready (.inr not_isPort_zero)).2 0 false rfl hhost⟩

end Factory

end TrustGate
