import TrustGate.Proofs.Connection.Steps

/-!
# The time limit of a connected socket

While a socket is being connected, its time limit is changed on the way.  Before it becomes a
session it gets the limit of the request, and keeps it:

    lastLimit s history        the limit that was last set on a socket
    wrappedLimit s history     the limit that it had when it was last wrapped
    Limited limit s u          both are this one

    begin c r handshake s      ends with a socket that is limited so       (begin_limited)
-/

namespace TrustGate.Connection

variable {π τ : Type}

/-- The time limit that was last set on a socket. -/
def lastLimit (s : SocketId) : List (Happening τ) → Option (TimeLimit τ)
  | [] => none
  | .called (.setTimeout t limit) (.ok _) :: past =>
    if t = s then some limit else lastLimit s past
  | _ :: past => lastLimit s past

/-- The time limit that a socket had when it was last wrapped. -/
def wrappedLimit (s : SocketId) : List (Happening τ) → Option (TimeLimit τ)
  | [] => none
  | .called (.wrap _ t _) _ :: past => if t = s then lastLimit s past else wrappedLimit s past
  | _ :: past => wrappedLimit s past

/-- The socket of a session has the limit that was given, and had it when it was wrapped. -/
structure Limited (limit : Value) (s : SocketId) (u : World π τ) : Prop where
  last : lastLimit s u.history = some (.given limit)
  wrapped : wrappedLimit s u.history = some (.given limit)

/-- If it ends with a session, its socket is limited so. -/
def EndsLimited (limit : Value) : End π τ SocketId → Prop
  | .ok s u => Limited limit s u
  | .error _ _ => True

/-- Calls that neither set a limit nor wrap. -/
def SparesLimits : Call τ → Prop
  | .setTimeout _ _ | .wrap _ _ _ => False
  | _ => True

theorem limits_append {s : SocketId} {new : List (Happening τ)}
    (hnew : ∀ h ∈ new, h.Within SparesLimits) (past : List (Happening τ)) :
    lastLimit s (new ++ past) = lastLimit s past ∧
      wrappedLimit s (new ++ past) = wrappedLimit s past := by
  induction new with
  | nil => exact ⟨rfl, rfl⟩
  | cons h new ih =>
    rw [List.forall_mem_cons] at hnew
    rw [List.cons_append, ← (ih hnew.2).1, ← (ih hnew.2).2]
    rcases h with ⟨call, reply⟩ | _
    · cases call <;> first | exact ⟨rfl, rfl⟩ | exact hnew.1.elim
    · exact ⟨rfl, rfl⟩

/-- A socket stays limited while no limit is set and nothing is wrapped. -/
theorem Limited.of_makes {limit : Value} {s : SocketId} {w u : World π τ}
    (h : Limited limit s w) (hmakes : Makes SparesLimits w u) : Limited limit s u := by
  obtain ⟨new, hnew, hspares⟩ := hmakes
  obtain ⟨hlast, hwrapped⟩ := limits_append (s := s) hspares w.history
  exact ⟨by rw [hnew, hlast, h.last], by rw [hnew, hwrapped, h.wrapped]⟩

variable [Platform π τ] {c : Tls.Context} {handshake : Bool} {limit : Value} {s id : SocketId}
  {w u : World π τ}

theorem sparesLimits_of_isHandshake (call : Call τ) (h : Tls.Session.IsHandshake s call) :
    SparesLimits call := by
  rcases h with rfl | h
  · trivial
  · cases call <;> trivial

theorem lastLimit_setTimeout {limit : TimeLimit τ} (h : setTimeout s limit w = .ok () u) :
    lastLimit s u.history = some limit := by
  rw [setTimeout_eq] at h
  cases hreply : (w.reply (.setTimeout s limit) : Except Failure Unit) with
  | error f =>
    rw [hreply] at h
    cases h
  | ok _ =>
    rw [hreply] at h
    cases h
    unfold World.asked
    rw [hreply]
    exact if_pos rfl

/-- A session is started over a socket as it is limited, and leaves its limit as it is. -/
theorem wrap_limited {host : Option String} (h : c.wrap s host handshake w = .ok id u)
    (hlast : lastLimit s w.history = some (.given limit)) : id = s ∧ Limited limit s u := by
  have hstarted : Limited limit s (c.started s host w) := ⟨hlast, (if_pos rfl).trans hlast⟩
  rw [Tls.Context.wrap_eq] at h
  cases hreply : (w.reply (.wrap c.engine s host) : Except Failure (Option String)) with
  | error f =>
    rw [hreply] at h
    cases h
  | ok name =>
    rw [hreply] at h
    cases handshake with
    | false =>
      cases h
      exact ⟨rfl, hstarted⟩
    | true =>
      simp only [if_true] at h
      cases hshaken : Tls.Session.doHandshake s (c.started s host w) with
      | error f v =>
        rw [hshaken] at h
        cases h
      | ok _ v =>
        rw [hshaken] at h
        cases h
        have hmakes := Tls.Session.doHandshake_makes s (c.started s host w)
        rw [Action.after_of_ok hshaken] at hmakes
        exact ⟨rfl, hstarted.of_makes (hmakes.mono sparesLimits_of_isHandshake)⟩

theorem begin_limited {r : Request} (h : begin c r handshake s w = .ok id u) :
    id = s ∧ Limited r.soTimeout s u := by
  obtain ⟨_, v, hset, hwrap⟩ := Action.exists_of_bind_ok h
  exact wrap_limited hwrap (lastLimit_setTimeout hset)

/-- Asking a session for its version leaves the limit of its socket as it is. -/
theorem version_spares (id : SocketId) (w : World π τ) :
    Makes SparesLimits w ((Tls.Session.version id).after w) := by
  unfold Action.after
  rw [Tls.Session.version_eq]
  have hasked : Makes SparesLimits w (w.asked (.version id)) := (w.quiet_asked trivial).makes
  split
  · cases (w.reply (.version id) : Except Failure (Option String)) <;> exact hasked
  · exact .refl w

end TrustGate.Connection
