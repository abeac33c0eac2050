import TrustGate.Proofs.Connection.Steps

/-!
# Opening a socket directly, step by step

The platform opens a socket without a deadline in one call.  What it is documented to do in
that call is written out here in the calls that opening within a deadline makes: the
addresses are tried in order, without time limits, and the last failure is the result.

    createConnection r              what opening directly does
    OpensPlainly r w                at `w` the platform answers as `createConnection r` ends
    TriesPlainly r last es w p      how trying addresses in order can end
    Created r w p                   how opening can end   (createConnection_created)
-/

namespace TrustGate.Connection

variable {π τ : Type} [Platform π τ]

def tryEachPlainly (r : Request) (last : Option Failure) :
    List Endpoint → Action π τ (Except (Option Failure) SocketId)
  | [] => return .error last
  | e :: rest => do
    match ← attempt e (reach r e) with
    | .ok socket => return .ok socket
    | .error f => tryEachPlainly r (some f) rest

/-- The failure for a host that has no addresses. -/
def noAddresses : Failure := Failure.plain .os "getaddrinfo returns an empty list"

/-- Connects to the first address that accepts. -/
def createConnection (r : Request) : Action π τ SocketId := do
  let endpoints ← Action.ofExcept (← ask (.resolve r.host r.port))
  match ← tryEachPlainly r none endpoints with
  | .ok socket => return socket
  | .error last => throw (last.getD noAddresses)

/-- What whoever asked for a socket is told. -/
def answerOf : End π τ SocketId → Except Failure Unit
  | .ok _ _ => .ok ()
  | .error f _ => .error f

/-- Asked to open a socket directly, the platform answers as documented. -/
def OpensPlainly (r : Request) (w : World π τ) : Prop :=
  w.reply (.openDirect w.nextSocket r.address r.sourceAddress?) = answerOf (createConnection r w)

/-! ## Ends -/

inductive TriesPlainly (r : Request) :
    Option Failure → List Endpoint → World π τ →
      End π τ (Except (Option Failure) SocketId) → Prop
  | exhausted {last : Option Failure} {w : World π τ} :
      TriesPlainly r last [] w (.ok (.error last) w)
  | broken {last : Option Failure} {e : Endpoint} {rest : List Endpoint} {w u : World π τ}
      {f : Failure} : Tried (Reached r e) e w (.error f u) →
      TriesPlainly r last (e :: rest) w (.error f u)
  | next {last : Option Failure} {e : Endpoint} {rest : List Endpoint} {w u : World π τ}
      {f : Failure} {p : End π τ (Except (Option Failure) SocketId)} :
      Tried (Reached r e) e w (.ok (.error f) u) → TriesPlainly r (some f) rest u p →
      TriesPlainly r last (e :: rest) w p
  | connected {last : Option Failure} {e : Endpoint} {rest : List Endpoint} {w u : World π τ}
      {s : SocketId} : Tried (Reached r e) e w (.ok (.ok s) u) →
      TriesPlainly r last (e :: rest) w (.ok (.ok s) u)

theorem tryEachPlainly_tries (r : Request) (last : Option Failure) (es : List Endpoint)
    (w : World π τ) : TriesPlainly r last es w (tryEachPlainly r last es w) := by
  induction es generalizing last w with
  | nil => exact .exhausted
  | cons e rest ih =>
    have htried := attempt_tried (reach_reached (π := π) (τ := τ) r e) e w
    unfold tryEachPlainly
    rw [Action.bind_eq]
    cases ht : attempt e (reach r e) w with
    | error f u =>
      rw [ht] at htried
      exact .broken htried
    | ok x u =>
      rw [ht] at htried
      cases x with
      | error f => exact .next htried (ih (some f) u)
      | ok s => exact .connected htried

inductive Created (r : Request) (w : World π τ) : End π τ SocketId → Prop
  | unresolved {f : Failure} : w.reply (.resolve r.host r.port) = Except.error f →
      Created r w (.error f (w.asked (.resolve r.host r.port)))
  | broken {es : List Endpoint} {f : Failure} {u : World π τ} :
      w.reply (.resolve r.host r.port) = Except.ok es →
      TriesPlainly r none es (w.asked (.resolve r.host r.port)) (.error f u) →
      Created r w (.error f u)
  | failed {es : List Endpoint} {last : Option Failure} {u : World π τ} :
      w.reply (.resolve r.host r.port) = Except.ok es →
      TriesPlainly r none es (w.asked (.resolve r.host r.port)) (.ok (.error last) u) →
      Created r w (.error (last.getD noAddresses) u)
  | connected {es : List Endpoint} {s : SocketId} {u : World π τ} :
      w.reply (.resolve r.host r.port) = Except.ok es →
      TriesPlainly r none es (w.asked (.resolve r.host r.port)) (.ok (.ok s) u) →
      Created r w (.ok s u)

theorem createConnection_created (r : Request) (w : World π τ) :
    Created r w (createConnection r w) := by
  unfold createConnection
  rw [Action.bind_of_ok (World.ask_asked _ _)]
  cases hr : (w.reply (.resolve r.host r.port) : Except Failure (List Endpoint)) with
  | error f =>
    rw [Action.bind_of_error (Action.ofExcept_error f _)]
    exact .unresolved hr
  | ok es =>
    have htries := tryEachPlainly_tries r none es (w.asked (.resolve r.host r.port))
    rw [Action.bind_of_ok (Action.ofExcept_ok es _), Action.bind_eq]
    cases ht : tryEachPlainly r none es (w.asked (.resolve r.host r.port)) with
    | error f u =>
      rw [ht] at htries
      exact .broken hr htries
    | ok x u =>
      rw [ht] at htries
      cases x with
      | error last => exact .failed hr htries
      | ok s => exact .connected hr htries

end TrustGate.Connection
