import Mathlib.Algebra.Order.Group.Int
import Mathlib.Algebra.Order.Group.Unbundled.Basic
import TrustGate.Proofs.Connection.Attempts

/-!
# One deadline for all attempts

All addresses share one deadline: the clock at the start plus the time limit of the request.
On a clock that counts exactly and never goes back,

    a.start < deadline                   for every attempt `a`
    0 < a.limit deadline ≤ limit         and its time limit is what is left
    b.limit deadline ≤ a.limit deadline  for a later attempt `b`

so if no attempt takes longer than its limit, connecting is over by the deadline
(shared_deadline).
-/

namespace TrustGate

/-- Calls that may take time: resolving a host and what is done in an attempt to connect. -/
def Call.TakesTime {τ : Type} : Call τ → Prop
  | .resolve _ _ | .openSocket _ _ _ | .setTimeout _ (.remaining _) | .bind _ _ | .connect _ _
  | .closeSocket _ => True
  | _ => False

/-- The clock never goes back, and it stands still but for calls that may take time. -/
structure KeepsTime (π τ : Type) [Platform π τ] [LE τ] : Prop where
  forward : ∀ (w : World π τ) (call : Call τ), w.time ≤ (w.asked call).time
  still : ∀ (w : World π τ) (call : Call τ), ¬call.TakesTime → (w.asked call).time = w.time

/-- Durations that are exact numbers. -/
class ExactDuration (τ : Type) [Duration τ] [LinearOrder τ] [AddCommGroup τ]
    [IsOrderedAddMonoid τ] : Prop where
  zero_eq : (Duration.zero : τ) = 0
  add_eq : ∀ a b : τ, Duration.add a b = a + b
  sub_eq : ∀ a b : τ, Duration.sub a b = a - b
  le_iff : ∀ a b : τ, Duration.le a b = true ↔ a ≤ b

namespace Connection

variable {π τ : Type}

/-! ## Attempts in a row -/

section

variable [LinearOrder τ] [AddCommGroup τ] [IsOrderedAddMonoid τ] {t t' : τ}
  {attempts : List (Attempt τ)}

omit [AddCommGroup τ] [IsOrderedAddMonoid τ] in
theorem Consecutive.le_start (h : Consecutive t attempts t')
    (htakes : ∀ a ∈ attempts, a.start ≤ a.finish) : ∀ a ∈ attempts, t ≤ a.start := by
  induction attempts generalizing t with
  | nil =>
    intro a ha
    cases ha
  | cons b rest ih =>
    obtain ⟨rfl, hrest⟩ := h
    intro a ha
    rcases List.mem_cons.mp ha with rfl | ha
    · exact le_refl _
    · have hb := htakes b List.mem_cons_self
      exact hb.trans (ih hrest (fun c hc => htakes c (List.mem_cons_of_mem _ hc)) a ha)

omit [AddCommGroup τ] [IsOrderedAddMonoid τ] in
theorem Consecutive.pairwise (h : Consecutive t attempts t')
    (htakes : ∀ a ∈ attempts, a.start ≤ a.finish) :
    attempts.Pairwise fun a b => a.start ≤ b.start := by
  induction attempts generalizing t with
  | nil => exact .nil
  | cons a rest ih =>
    obtain ⟨-, hrest⟩ := h
    have htakes' : ∀ b ∈ rest, b.start ≤ b.finish := fun b hb =>
      htakes b (List.mem_cons_of_mem _ hb)
    refine .cons (fun b hb => ?_) (ih hrest htakes')
    exact (htakes a List.mem_cons_self).trans (hrest.le_start htakes' b hb)

/-- Attempts that take no longer than is left to them are over by the deadline. -/
theorem Consecutive.le_deadline {deadline : τ} (h : Consecutive t attempts t') (ht : t ≤ deadline)
    (hshort : ∀ a ∈ attempts, a.finish - a.start ≤ deadline - a.start) : t' ≤ deadline := by
  induction attempts generalizing t with
  | nil =>
    replace h : t = t' := h
    rwa [← h]
  | cons a rest ih =>
    obtain ⟨-, hrest⟩ := h
    have hfinish : a.finish ≤ deadline :=
      (sub_le_sub_iff_right a.start).mp (hshort a List.mem_cons_self)
    exact ih hrest hfinish fun b hb => hshort b (List.mem_cons_of_mem _ hb)

end

/-! ## Connecting -/

section

variable [Platform π τ] {r : Request} {w u v : World π τ}

/-- The addresses that the host resolves to. -/
def resolved (r : Request) (w : World π τ) : List Endpoint :=
  match ((w.asked .monotonicClock).reply (.resolve r.host r.port) :
    Except Failure (List Endpoint)) with
  | .ok es => es
  | .error _ => []

/-- The world when resolving the host is over. -/
def afterResolving (r : Request) (w : World π τ) : World π τ :=
  (w.asked .monotonicClock).asked (.resolve r.host r.port)

/-- What happens before the first attempt: a look at the clock and the resolution of the host. -/
def prelude (r : Request) (w : World π τ) : List (Happening τ) :=
  [.called .monotonicClock w.time,
    .called (.resolve r.host r.port) ((w.asked .monotonicClock).reply (.resolve r.host r.port))]

theorem prelude_narrates (r : Request) (w : World π τ) :
    Narrates w (afterResolving r w) (prelude r w) := rfl

/-- Nothing but looks at the clock. -/
def IsIdle (tail : List (Happening τ)) : Prop := ∀ h ∈ tail, ∃ t, h = .called .monotonicClock t

/-- From `u` to `v` there is nothing but looks at the clock, which stands still. -/
def Idles (u v : World π τ) : Prop := ∃ tail, Narrates u v tail ∧ IsIdle tail ∧ v.time = u.time

theorem Idles.refl (u : World π τ) : Idles u u := by
  refine ⟨[], .refl u, ?_, rfl⟩
  intro h hh
  cases hh

variable [Preorder τ] (hclock : KeepsTime π τ)

include hclock

/-- A run that keeps time: the clock of a later world is not behind. -/
theorem onward_of_keepsTime : Onward fun w u : World π τ => w.time ≤ u.time where
  refl _ := le_refl _
  trans h h' := h.trans h'
  asked := hclock.forward
  numbered _ _ := le_refl _

theorem Idles.look (h : Idles u v) : Idles u (v.asked .monotonicClock) := by
  obtain ⟨tail, htail, hidle, htime⟩ := h
  refine ⟨tail ++ [.called .monotonicClock v.time], htail.append (.call rfl), ?_, ?_⟩
  · intro h hh
    rcases List.mem_append.mp hh with hh | hh
    · exact hidle h hh
    · exact ⟨v.time, List.mem_singleton.mp hh⟩
  · exact (hclock.still v .monotonicClock not_false).trans htime

theorem GaveUp.idles [Duration τ] {deadline : τ} {last : Option Failure} {f : Failure}
    {x : World π τ} (h : GaveUp deadline v last f x) (hidle : Idles u v) : Idles u x := by
  cases h with
  | untried => exact hidle
  | cutOff _ => exact hidle
  | elapsed _ _ => exact hidle.look hclock
  | own _ _ => exact hidle.look hclock

end

variable [LinearOrder τ] [AddCommGroup τ] [IsOrderedAddMonoid τ] [Duration τ] [ExactDuration τ]

theorem isBefore_iff {deadline t : τ} : IsBefore deadline t ↔ t < deadline := by
  unfold IsBefore
  rw [← Bool.not_eq_true, ExactDuration.le_iff, ExactDuration.sub_eq, ExactDuration.zero_eq,
    not_le, sub_pos]

/-- Attempts on some of the addresses that share a deadline, which is `limit` away at first. -/
structure SharesDeadline (r : Request) (deadline limit : τ) (es : List Endpoint)
    (attempts : List (Attempt τ)) : Prop where
  /-- The addresses are tried in order, each at most once. -/
  inOrder : attempts.map (·.endpoint) <+: es
  inTime : ∀ a ∈ attempts, a.start < deadline
  limited : ∀ a ∈ attempts, a.limit deadline = deadline - a.start ∧
    0 < a.limit deadline ∧ a.limit deadline ≤ limit
  /-- No attempt has a longer limit than an earlier one. -/
  shrinking : attempts.Pairwise fun a b => b.limit deadline ≤ a.limit deadline
  /-- The first success is the last attempt, and so is the first failure that is not one of the
  operating system. -/
  passed : ∀ a ∈ attempts.dropLast, a.IsPassed
  /-- The socket of a failed attempt is closed in the end, if there is one. -/
  closed : ∀ a ∈ attempts, a.IsPassed → (∃ f, a.ending = .unopened f) ∨
    (a.story r deadline).getLast? = some (.called (.closeSocket a.socket) ())

omit [LinearOrder τ] [AddCommGroup τ] [IsOrderedAddMonoid τ] [ExactDuration τ] in
theorem Attempt.IsPassed.closed {a : Attempt τ} (h : a.IsPassed) (r : Request) (deadline : τ) :
    (∃ f, a.ending = .unopened f) ∨
      (a.story r deadline).getLast? = some (.called (.closeSocket a.socket) ()) := by
  obtain ⟨f, hf, hos⟩ := h
  by_cases hopened : a.ending.isOpened = true
  · right
    unfold Attempt.story
    rw [Ending.closing_of_failed hopened hf, if_pos hos, ← List.cons_append]
    exact List.getLast?_concat
  · left
    cases hending : a.ending with
    | unopened g => exact ⟨g, rfl⟩
    | unlimited g => simp [hending, Ending.isOpened] at hopened
    | unbound g => simp [hending, Ending.isOpened] at hopened
    | refused g => simp [hending, Ending.isOpened] at hopened
    | connected => simp [hending, Ending.isOpened] at hopened

variable [Platform π τ]

/-- How connecting within a deadline ends, after some attempts on addresses `es` and what happens
then. -/
inductive Finishes (deadline : τ) (es : List Endpoint) (attempts : List (Attempt τ)) :
    List (Happening τ) → End π τ SocketId → Prop
  /-- The last attempt connected, and its socket blocks again. -/
  | connected {before : List (Attempt τ)} {a : Attempt τ} {u : World π τ} :
      attempts = before ++ [a] → a.ending = .connected →
      Finishes deadline es attempts [.called (.setTimeout a.socket (.given .null)) (Except.ok ())]
        (.ok a.socket u)
  /-- The last attempt connected, and its socket cannot be made to block. -/
  | stuck {before : List (Attempt τ)} {a : Attempt τ} {f : Failure} {u : World π τ} :
      attempts = before ++ [a] → a.ending = .connected →
      Finishes deadline es attempts
        [.called (.setTimeout a.socket (.given .null)) (Except.error f)] (.error f u)
  /-- The last attempt failed, and not as the operating system fails. -/
  | broken {before : List (Attempt τ)} {a : Attempt τ} {f : Failure} {u : World π τ} :
      attempts = before ++ [a] → a.ending.failure? = some f → f.kind.isOs = false →
      Finishes deadline es attempts [] (.error f u)
  | exhausted {tail : List (Happening τ)} {f : Failure} {u : World π τ} :
      attempts.map (·.endpoint) = es → (∀ a ∈ attempts, a.IsPassed) → IsIdle tail →
      Finishes deadline es attempts tail (.error f u)
  | late {tail : List (Happening τ)} {f : Failure} {u : World π τ} :
      deadline ≤ u.time → (∀ a ∈ attempts, a.IsPassed) → IsIdle tail →
      Finishes deadline es attempts tail (.error f u)

/-- What comes of connecting within a deadline: attempts after the host was resolved, and an end. -/
theorem Within.finishes (hclock : KeepsTime π τ) {r : Request} {w : World π τ} {limit : τ}
    (hlimit : Duration.ofValue r.connectTimeout = .ok limit) {p : End π τ SocketId}
    (h : Within r w p) :
    ∃ attempts u tail,
      Made r (Duration.add w.time limit) (· ≤ ·) (resolved r w) attempts (afterResolving r w) u ∧
      Narrates u (Action.final p) tail ∧ (Action.final p).time = u.time ∧
      Finishes (Duration.add w.time limit) (resolved r w) attempts tail p := by
  have hresolved {es : List Endpoint}
      (hr : (w.asked .monotonicClock).reply (.resolve r.host r.port) = Except.ok es) :
      resolved r w = es := by
    unfold resolved
    rw [hr]
  cases h with
  | uncounted hl =>
    rw [hlimit] at hl
    cases hl
  | unresolved hl hr =>
    have hnone : resolved r w = [] := by
      unfold resolved
      rw [hr]
    refine ⟨[], afterResolving r w, [], .nil _, .refl _, rfl, .exhausted hnone.symm ?_ ?_⟩
    · intro a ha
      cases ha
    · intro h hh
      cases hh
  | broken hl hr htries =>
    rw [hlimit] at hl
    cases hl
    rw [hresolved hr]
    obtain ⟨attempts, u, hmade, hconcludes⟩ := htries.made (onward_of_keepsTime hclock)
    cases hconcludes with
    | broken hlast hf hos =>
      exact ⟨attempts, _, [], hmade, .refl _, rfl, .broken hlast hf hos⟩
    | @stuck _ a _ hlast hc hb =>
      have htime := hclock.still u (.setTimeout a.socket (.given .null)) not_false
      exact ⟨attempts, u, _, hmade, .call hb, htime, .stuck hlast hc⟩
  | connected hl hr htries =>
    rw [hlimit] at hl
    cases hl
    rw [hresolved hr]
    obtain ⟨attempts, u, hmade, hconcludes⟩ := htries.made (onward_of_keepsTime hclock)
    cases hconcludes with
    | @connected _ a hlast hc hb =>
      have htime := hclock.still u (.setTimeout a.socket (.given .null)) not_false
      exact ⟨attempts, u, _, hmade, .call hb, htime, .connected hlast hc⟩
  | gaveUp hl hr htries hg =>
    rw [hlimit] at hl
    cases hl
    rw [hresolved hr]
    obtain ⟨attempts, u, hmade, hconcludes⟩ := htries.made (onward_of_keepsTime hclock)
    cases hconcludes with
    | exhausted hes hpassed =>
      obtain ⟨tail, htail, hidle, htime⟩ := hg.idles hclock (Idles.refl _)
      exact ⟨attempts, _, tail, hmade, htail, htime, .exhausted hes hpassed hidle⟩
    | late hlate hpassed =>
      obtain ⟨tail, htail, hidle, htime⟩ := hg.idles hclock ((Idles.refl u).look hclock)
      refine ⟨attempts, u, tail, hmade, htail, htime, .late ?_ hpassed hidle⟩
      rw [isBefore_iff, not_lt] at hlate
      exact hlate.trans_eq htime.symm

/-- Connecting within a deadline on a clock that is exact and keeps time.  What happens is a look at
the clock, the resolution of the host, the attempts, and no more than it takes to finish.  The
attempts share one deadline.  If they take no longer than their limits and the host is resolved in
time, everything is over by the deadline. -/
theorem shared_deadline (hclock : KeepsTime π τ) (r : Request) (limit : τ)
    (hlimit : Duration.ofValue r.connectTimeout = .ok limit) (w : World π τ) :
    ∃ attempts tail,
      Narrates w ((connectWithinDeadline r).after w)
        (prelude r w ++ attempts.flatMap (·.story r (w.time + limit)) ++ tail) ∧
      SharesDeadline r (w.time + limit) limit (resolved r w) attempts ∧
      Consecutive (afterResolving r w).time attempts ((connectWithinDeadline r).after w).time ∧
      Finishes (w.time + limit) (resolved r w) attempts tail (connectWithinDeadline r w) ∧
      ((afterResolving r w).time ≤ w.time + limit →
        (∀ a ∈ attempts, a.finish - a.start ≤ a.limit (w.time + limit)) →
        ((connectWithinDeadline r).after w).time ≤ w.time + limit) := by
  obtain ⟨attempts, u, tail, hmade, htail, htime, hfinishes⟩ :=
    (connectWithinDeadline_within r w).finishes hclock hlimit
  rw [ExactDuration.add_eq] at hmade hfinishes
  have hconsecutive : Consecutive (afterResolving r w).time attempts
      ((connectWithinDeadline r).after w).time := by
    unfold Action.after
    rw [htime]
    exact hmade.consecutive
  have hlimits (a : Attempt τ) : a.limit (w.time + limit) = w.time + limit - a.start :=
    ExactDuration.sub_eq ..
  -- no attempt starts before the start
  have hstart : ∀ a ∈ attempts, w.time ≤ a.start := by
    intro a ha
    have hlooked := hclock.forward w .monotonicClock
    have hresolving := hclock.forward (w.asked .monotonicClock) (.resolve r.host r.port)
    exact (hlooked.trans hresolving).trans (hmade.consecutive.le_start hmade.takes a ha)
  have hinTime : ∀ a ∈ attempts, a.start < w.time + limit := fun a ha =>
    isBefore_iff.mp (hmade.inTime a ha)
  refine ⟨attempts, tail, ?_, ?_, hconsecutive, hfinishes, fun hresolving hshort => ?_⟩
  · exact ((prelude_narrates r w).append hmade.narrates).append htail
  · refine ⟨hmade.inOrder, hinTime, fun a ha => ⟨hlimits a, ?_, ?_⟩, ?_, hmade.passed,
      fun a _ hpassed => hpassed.closed r _⟩
    · rw [hlimits, sub_pos]
      exact hinTime a ha
    · rw [hlimits, sub_le_iff_le_add, add_comm limit]
      exact add_le_add_left (hstart a ha) limit
    · refine (hmade.consecutive.pairwise hmade.takes).imp fun {a b} hab => ?_
      rw [hlimits, hlimits]
      exact sub_le_sub_left hab _
  · refine hconsecutive.le_deadline hresolving fun a ha => ?_
    rw [← hlimits]
    exact hshort a ha

end Connection

/-! ## A clock of whole seconds -/

namespace Rehearsal

/-- A platform that counts whole seconds.  Connecting takes the time that its turn says and ends
as it says; everything else succeeds at once. -/
structure Timetable where
  now : Int
  addresses : Except Failure (List Endpoint)
  turns : List (Nat × Except Failure Unit)
  /-- How a socket is opened directly. -/
  direct : Except Failure Unit

/-- Whole seconds; no other limits can be counted. -/
def wholeSeconds (v : Value) : Except Failure Int :=
  match v with
  | .int i => .ok i
  | v => .error (Failure.plain .type v.typeName)

instance : Duration Int where
  zero := 0
  add := (· + ·)
  sub := (· - ·)
  le x y := x ≤ y
  ofValue := wholeSeconds

instance : ExactDuration Int where
  zero_eq := rfl
  add_eq _ _ := rfl
  sub_eq _ _ := rfl
  le_iff x y := by simp [Duration.le]

namespace Timetable

/-- The reply of a call that succeeds at once. -/
def easy (t : Timetable) : (call : Call Int) → Reply call
  | .monotonicClock => t.now
  | .wallClock | .customClock _ => ⟨⟨1970, 1, 1⟩, ⟨0, 0, 0, 0⟩, some 0⟩
  | .resolve _ _ => t.addresses
  | .openDirect _ _ _ => t.direct
  | .isOpen _ => true
  | .versions _ => (.tls12, .tls12)
  | .read _ _ => .ok []
  | .write _ data => .ok data.length
  | .verifiedChain _ => .ok []
  | .peer _ => .ok none
  | .version _ => .ok none
  | .cipher _ => .ok none
  | .verify _ => .accepted
  | .anchors _ => .ok []
  | .wrap _ _ host => .ok host
  | .closeSocket _ | .closeSession _ => ()
  | .openSocket _ _ _ | .setTimeout _ _ | .bind _ _ | .connect _ _ | .duplicate _ _ | .newEngine _
  | .setMinimumVersion _ _ | .setMaximumVersion _ _ | .setCheckHostname _ _
  | .loadIdentity _ _ _ _ | .loadTrust _ _ _ | .loadDefaultTrust _ | .handshake _ | .consult _
  | .install _ _ => .ok ()

/-- What the platform answers; only connecting takes time. -/
def answer (t : Timetable) : (call : Call Int) → Reply call × Timetable
  | .connect _ _ =>
    match t.turns with
    | [] => (.ok (), t)
    | (seconds, ending) :: rest => (ending, { t with now := t.now + seconds, turns := rest })
  | call => (t.easy call, t)

theorem answer_of_not_takesTime (t : Timetable) {call : Call Int} (h : ¬call.TakesTime) :
    t.answer call = (t.easy call, t) := by
  cases call <;> first | rfl | exact absurd trivial h

theorem le_now (t : Timetable) (call : Call Int) : t.now ≤ (t.answer call).2.now := by
  cases call with
  | connect s address =>
    unfold answer
    cases t.turns with
    | nil => exact le_refl _
    | cons turn rest =>
      show t.now ≤ t.now + turn.1
      omega
  | _ => exact le_refl _

end Timetable

instance : Platform Timetable Int where
  answer call t := t.answer call
  recordTime t := .int t.now

theorem keepsTime_timetable : KeepsTime Timetable Int where
  forward w call := w.platform.le_now call
  still w call h := by
    show (w.platform.answer call).2.now = w.platform.now
    rw [w.platform.answer_of_not_takesTime h]

end Rehearsal

namespace Connection

/-- Of two addresses, the first refuses the connection after two seconds. -/
def secondAddress : World Rehearsal.Timetable Int :=
  .initial
    { now := 100
      addresses := .ok [⟨2, 6, .text "192.0.2.1"⟩, ⟨2, 6, .text "192.0.2.2"⟩]
      turns := [(2, .error (.plain .connectionRefused "refused")), (1, .ok ())]
      direct := .ok () } .empty

/-- Five seconds are enough for both attempts. -/
theorem shared_deadline_second_address :
    KeepsTime Rehearsal.Timetable Int ∧
      Duration.ofValue (toHost .null (.int 5)).connectTimeout = Except.ok (5 : Int) ∧
      ∃ attempts tail,
        SharesDeadline (toHost .null (.int 5)) (105 : Int) 5
          (resolved (toHost .null (.int 5)) secondAddress) attempts ∧
        Finishes (105 : Int) (resolved (toHost .null (.int 5)) secondAddress) attempts tail
          (connectWithinDeadline (toHost .null (.int 5)) secondAddress) := by
  obtain ⟨attempts, tail, -, hshares, -, hfinishes, -⟩ :=
    shared_deadline Rehearsal.keepsTime_timetable (toHost .null (.int 5)) 5 rfl secondAddress
  exact ⟨Rehearsal.keepsTime_timetable, rfl, attempts, tail, hshares, hfinishes⟩

end Connection

end TrustGate
