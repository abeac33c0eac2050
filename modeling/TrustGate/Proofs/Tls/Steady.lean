import TrustGate.Proofs.Trust.Observers
import TrustGate.Proofs.Tls.Gate

/-!
# Sessions on two sides

A relation of worlds that is steady is kept by all that is done with sessions: from worlds that
it relates, every operation ends alike and leaves related worlds.

    known w id, known v id             alike              (known_alike)
    verifyPeerChain id                 ends alike         (verifyPeerChain_alike)
    read, write, send, close, …        end alike          (read_alike, …)
    c.wrap, d.wrap                     end alike          (Context.wrap_alike)

Contexts and sessions may differ in the observers of their validators.
-/

namespace TrustGate.Tls

open TrustGate.Action (Coupled)
open Trust (Provider Observer)

variable {π τ : Type} [Platform π τ] {Q : Observer → Observer → Prop}
  {I : World π τ → World π τ → Prop}

namespace Session

section

variable (hI : Steady Q I)

include hI

/-! ## Sessions -/

theorem known_alike {w v : World π τ} (h : I w v) (id : SocketId) :
    Session.Alike Q (known w id) (known v id) := by
  have hsession := hI.sessions h id
  unfold known
  generalize w.sessions id = s at hsession ⊢
  generalize v.sessions id = t at hsession ⊢
  cases hsession with
  | some hst => exact hst
  | none => exact ⟨rfl, .nil, rfl, rfl⟩

theorem find_alike (id : SocketId) :
    Coupled I (Session.Alike Q) (find id : Action π τ Session) (find id) := by
  intro w v h
  exact .ok (known_alike hI h id) h

theorem countDecision_alike (d : Metrics.Decision) :
    Coupled I Eq (countDecision d : Action π τ Unit) (countDecision d) :=
  .modify fun _ _ h => hI.count h fun c => c.addDecision d.label

/-! ## The check of the peer's chain -/

theorem peerChain_alike (id : SocketId) :
    Coupled I Eq (peerChain id : Action π τ (List Certificate)) (peerChain id) := by
  unfold peerChain
  refine .bind_same (hI.ask _ nofun) fun reply => .bind_same (.ofExcept _) fun verified => ?_
  split
  · exact .ofExcept _
  · refine .bind (find_alike hI id) fun s t hst => ?_
    rw [hst.isOpen]
    split
    · exact .refuse _
    · refine .bind_same (hI.ask _ nofun) fun reply => .bind_same (.ofExcept _) fun leaf => ?_
      split
      · exact .pure rfl
      · exact .pure rfl
      · exact .bind_same (.ofExcept _) fun c => .pure rfl

theorem askAll_alike {vs us : List Provider} (h : vs.Forall₂ (Provider.Alike Q) us)
    (chain : List Certificate) (authType : String) (host : Option String) :
    Coupled I Eq (askAll chain authType host vs : Action π τ Unit)
      (askAll chain authType host us) := by
  induction h with
  | nil => exact .pure rfl
  | cons hv _ ih => exact .bind_same (hv.check hI chain authType host) fun _ => ih

theorem explainRejection_alike (host : Option String) (f : Failure) :
    Coupled I Eq (explainRejection host f : Action π τ Unit) (explainRejection host f) := by
  unfold explainRejection
  split
  · exact .bind_same (countDecision_alike hI .rejected) fun _ =>
      .bind_same (emit_coupled (fun _ _ h => hI.journal h) _ _ _ _ _) fun _ => .throw _
  · exact .throw f

theorem verifyPeerChain_alike (id : SocketId) :
    Coupled I Eq (verifyPeerChain id : Action π τ Unit) (verifyPeerChain id) := by
  unfold verifyPeerChain
  refine .bind (find_alike hI id) fun s t hst => ?_
  rw [hst.verified]
  split
  · refine .bind_same (peerChain_alike hI id) fun chain => ?_
    refine .bind_same (.ofExcept _) fun authType => ?_
    rw [hst.host]
    have hasked := askAll_alike hI hst.validators chain authType t.host
    refine .bind_same (.tryCatch hasked fun f => explainRejection_alike hI t.host f) fun _ => ?_
    refine .bind_same (countDecision_alike hI .accepted) fun _ => .modify fun w v h => ?_
    exact hI.setSession h id ⟨rfl, hst.validators, rfl, hst.isOpen⟩
  · exact .pure rfl

theorem doHandshake_alike (id : SocketId) :
    Coupled I Eq (doHandshake id : Action π τ Unit) (doHandshake id) := by
  unfold doHandshake
  refine .bind (find_alike hI id) fun s t hst => ?_
  rw [hst.isOpen]
  have hshake : Coupled I Eq
      (do
        Action.ofExcept (← ask (.handshake id))
        verifyPeerChain id : Action π τ Unit)
      (do
        Action.ofExcept (← ask (.handshake id))
        verifyPeerChain id) :=
    .bind_same (hI.ask _ nofun) fun _ => .bind_same (.ofExcept _) fun _ =>
      verifyPeerChain_alike hI id
  split
  · exact .bind_same (.throw _) fun _ => hshake
  · exact hshake

theorem requireTrusted_alike (id : SocketId) :
    Coupled I Eq (requireTrusted id : Action π τ Unit) (requireTrusted id) := by
  unfold requireTrusted
  refine .bind (find_alike hI id) fun s t hst => ?_
  rw [hst.verified, hst.isOpen]
  split
  · exact doHandshake_alike hI id
  · exact .pure rfl

/-! ## Reading and writing -/

/-- Gated work ends alike if the work does. -/
theorem gated_alike {α : Type} {id : SocketId} {work : Action π τ α} {closed : Failure}
    (hwork : Coupled I Eq work work) :
    Coupled I Eq (gated id work closed) (gated id work closed) := by
  unfold gated
  refine .bind_same (requireTrusted_alike hI id) fun _ => .bind (find_alike hI id) fun s t hst => ?_
  rw [hst.isOpen]
  split
  · exact hwork
  · exact .throw closed

theorem read_alike (id : SocketId) (size : Int) :
    Coupled I Eq (read id size : Action π τ Octets) (read id size) := by
  rw [read_eq_gated]
  apply gated_alike hI
  unfold engineRead
  refine .bind_same (hI.ask _ nofun) fun reply => ?_
  split
  · exact .pure rfl
  · exact .ofExcept _

theorem receive_alike (id : SocketId) (size : Int) :
    Coupled I Eq (receive id size : Action π τ Octets) (receive id size) := by
  unfold receive
  refine .bind (find_alike hI id) fun s t hst => ?_
  rw [hst.isOpen]
  split
  · exact read_alike hI id size
  · exact .throw _

theorem engineWrite_alike (id : SocketId) (data : Octets) :
    Coupled I Eq (do Action.ofExcept (← ask (.write id data)) : Action π τ Nat)
      (do Action.ofExcept (← ask (.write id data))) :=
  .bind_same (hI.ask _ nofun) fun _ => .ofExcept _

theorem write_alike (id : SocketId) (data : Octets) :
    Coupled I Eq (write id data : Action π τ Nat) (write id data) := by
  rw [write_eq_gated]
  exact gated_alike hI (engineWrite_alike hI id data)

theorem send_alike (id : SocketId) (data : Octets) :
    Coupled I Eq (send id data : Action π τ Nat) (send id data) := by
  rw [send_eq_gated]
  exact gated_alike hI (engineWrite_alike hI id data)

theorem sendRest_alike (id : SocketId) (fuel : Nat) (data : Octets) :
    Coupled I Eq (sendRest id fuel data : Action π τ Unit) (sendRest id fuel data) := by
  induction fuel generalizing data with
  | zero => cases data <;> exact .pure rfl
  | succ fuel ih =>
    cases data with
    | nil => exact .pure rfl
    | cons b bs => exact .bind_same (send_alike hI id (b :: bs)) fun taken => ih _

theorem sendAll_alike (id : SocketId) (data : Octets) :
    Coupled I Eq (sendAll id data : Action π τ Unit) (sendAll id data) := by
  unfold sendAll
  refine .bind (find_alike hI id) fun s t hst => ?_
  rw [hst.isOpen]
  split
  · exact sendRest_alike hI id data.length data
  · exact .throw _

theorem close_alike (id : SocketId) :
    Coupled I Eq (close id : Action π τ Unit) (close id) := by
  unfold close
  refine .bind (find_alike hI id) fun s t hst => .bind_same (.modify fun w v h => ?_) fun _ =>
    hI.ask (.closeSession id) nofun
  exact hI.setSession h id ⟨hst.host, hst.validators, hst.verified, rfl⟩

/-- A query that an open session is asked, and a closed one is not. -/
theorem query_alike {α : Type} (id : SocketId) (call : Call τ) (hcall : call ≠ .monotonicClock)
    (answer : Reply call → Except Failure α) (closed : α) :
    Coupled I Eq
      (do if (← find id).isOpen then Action.ofExcept (answer (← ask call)) else return closed :
        Action π τ α)
      (do if (← find id).isOpen then Action.ofExcept (answer (← ask call)) else return closed) := by
  refine .bind (find_alike hI id) fun s t hst => ?_
  rw [hst.isOpen]
  split
  · exact .bind_same (hI.ask call hcall) fun reply => .ofExcept (answer reply)
  · exact .pure rfl

theorem version_alike (id : SocketId) :
    Coupled I Eq (version id : Action π τ (Option String)) (version id) :=
  query_alike hI id (.version id) nofun (fun reply => reply) none

theorem cipher_alike (id : SocketId) :
    Coupled I Eq (cipher id : Action π τ (Option Cipher)) (cipher id) :=
  query_alike hI id (.cipher id) nofun (fun reply => reply) none

end

end Session

/-! ## Contexts -/

namespace Context

/-- Contexts of one engine whose managers differ in their observers at most. -/
structure Alike (Q : Observer → Observer → Prop) (c d : Context) : Prop where
  engine : c.engine = d.engine
  managers : c.managers.Forall₂ (Provider.Alike Q) d.managers

theorem alike_refl (hQ : ∀ o, Q o o) (c : Context) : Alike Q c c :=
  ⟨rfl, List.forall₂_same.mpr fun p _ => p.alike_refl hQ⟩

theorem Alike.validators {c d : Context} (h : Alike Q c d) :
    c.validators.Forall₂ (Provider.Alike Q) d.validators := by
  refine List.rel_filter (fun p q hpq => ?_) h.managers
  show p.isChainValidator = true ↔ q.isChainValidator = true
  rw [hpq.isChainValidator]

theorem Alike.unasked {c d : Context} (h : Alike Q c d) :
    c.validators.isEmpty = d.validators.isEmpty := by
  have hvs := h.validators
  generalize c.validators = vs at hvs ⊢
  generalize d.validators = us at hvs ⊢
  cases hvs <;> rfl

theorem wrap_alike (hI : Steady Q I) {c d : Context} (h : Alike Q c d) (socket : SocketId)
    (host : Option String) (handshake : Bool) :
    Coupled I Eq (c.wrap socket host handshake : Action π τ SocketId)
      (d.wrap socket host handshake) := by
  unfold wrap
  rw [h.engine]
  refine .bind_same (hI.ask _ nofun) fun reply => .bind_same (.ofExcept _) fun _ => ?_
  refine .bind_same (.modify fun w v hw => ?_) fun _ => ?_
  · exact hI.setSession hw socket ⟨rfl, h.validators, h.unasked, rfl⟩
  · cases handshake with
    | false => exact .pure rfl
    | true => exact .bind_same (.onFailure (Session.doHandshake_alike hI socket)
        (Session.close_alike hI socket)) fun _ => .pure rfl

end Context

end TrustGate.Tls
