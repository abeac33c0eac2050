import TrustGate.Proofs.Connection.Attempts
import TrustGate.Proofs.Connection.Plain
import TrustGate.Proofs.Tls.Steady

/-!
# Trying addresses in step

An attempt within a deadline does what an attempt without one does, and besides it looks at
the clock and sets time limits that do not outlive it.  To an indifferent platform these
asides make no difference, so the two go in step:

    Mirrors l m            `l` is `m` with asides put in
    InStep same w v        what happened in `w` mirrors what happened in `v`
    prepare, reach         end alike                       (prepare_inStep)
    attempt, attempt       end alike                       (attempt_inStep)
    tryEach, tryEachPlainly
                           end alike, if no look at the clock finds the deadline passed,
                           by induction on the addresses   (tryEach_inStep)

What is done with sessions afterwards keeps them in step (steady_inStep).
-/

namespace TrustGate

open TrustGate.Action (Coupled EndsAlike)
open Trust (Observer)

variable {π τ : Type}

/-! ## Asides -/

/-- A limit that is gone when an attempt is over, or that takes it away. -/
def TimeLimit.isPassing : TimeLimit τ → Bool
  | .remaining _ | .given .null => true
  | .given _ => false

def Happening.isAside : Happening τ → Bool
  | .called .monotonicClock _ => true
  | .called (.setTimeout _ limit) _ => limit.isPassing
  | _ => false

/-- The left is the right with asides put in. -/
inductive Mirrors : List (Happening τ) → List (Happening τ) → Prop
  | refl (l : List (Happening τ)) : Mirrors l l
  | both {l m : List (Happening τ)} (h : Happening τ) : Mirrors l m → Mirrors (h :: l) (h :: m)
  | aside {l m : List (Happening τ)} {h : Happening τ} : h.isAside = true → Mirrors l m →
      Mirrors (h :: l) m

/-- Platforms to which asides make no difference: in states that are the `same` they answer alike,
and an aside leads to the same state.  Passing limits can always be set. -/
structure Indifferent (π τ : Type) [Platform π τ] (same : π → π → Prop) : Prop where
  refl : ∀ p, same p p
  answers : ∀ (call : Call τ) {p q : π}, same p q → call ≠ .monotonicClock →
    (Platform.answer call p).1 = (Platform.answer call q).1 ∧
      same (Platform.answer call p).2 (Platform.answer call q).2
  looks : ∀ {p q : π}, same p q → same (Platform.answer (.monotonicClock : Call τ) p).2 q
  limits : ∀ (s : SocketId) {limit : TimeLimit τ} {p q : π}, limit.isPassing = true → same p q →
    (Platform.answer (.setTimeout s limit) p).1 = Except.ok () ∧
      same (Platform.answer (.setTimeout s limit) p).2 q

/-- Worlds that differ at most in asides, and in journals. -/
structure InStep (same : π → π → Prop) (w v : World π τ) : Prop where
  platform : same w.platform v.platform
  history : Mirrors w.history v.history
  told : w.told = v.told
  counters : w.counters = v.counters
  nextSocket : w.nextSocket = v.nextSocket
  sessions : ∀ id, Option.Rel (Session.Alike Eq) (w.sessions id) (v.sessions id)

namespace InStep

variable [Platform π τ] {same : π → π → Prop} {w v : World π τ}

theorem refl (h : Indifferent π τ same) (w : World π τ) : InStep same w w := by
  refine ⟨h.refl _, .refl _, rfl, rfl, rfl, fun id => ?_⟩
  cases w.sessions id with
  | none => exact .none
  | some s =>
    have hvalidators := List.forall₂_same.mpr fun p (_ : p ∈ s.validators) =>
      p.alike_refl (Q := Eq) fun _ => rfl
    exact .some ⟨rfl, hvalidators, rfl, rfl⟩

theorem asked (h : Indifferent π τ same) (hw : InStep same w v) (call : Call τ)
    (hcall : call ≠ .monotonicClock) :
    w.reply call = v.reply call ∧ InStep same (w.asked call) (v.asked call) := by
  obtain ⟨hreply, hsame⟩ := h.answers call hw.platform hcall
  refine ⟨hreply, hsame, ?_, hw.told, hw.counters, hw.nextSocket, hw.sessions⟩
  show Mirrors (.called call (w.reply call) :: w.history) (.called call (v.reply call) :: v.history)
  rw [show w.reply call = v.reply call from hreply]
  exact hw.history.both _

theorem looked (h : Indifferent π τ same) (hw : InStep same w v) :
    InStep same (w.asked .monotonicClock) v :=
  ⟨h.looks hw.platform, hw.history.aside rfl, hw.told, hw.counters, hw.nextSocket, hw.sessions⟩

/-- Setting a passing limit on the left only. -/
theorem limited (h : Indifferent π τ same) (hw : InStep same w v) (s : SocketId)
    (limit : TimeLimit τ) (hlimit : limit.isPassing = true) :
    Connection.setTimeout s limit w = .ok () (w.asked (.setTimeout s limit)) ∧
      InStep same (w.asked (.setTimeout s limit)) v := by
  obtain ⟨hreply, hsame⟩ := h.limits s hlimit hw.platform
  constructor
  · rw [Connection.setTimeout_eq, show w.reply (.setTimeout s limit) = Except.ok () from hreply]
  · exact ⟨hsame, hw.history.aside hlimit, hw.told, hw.counters, hw.nextSocket, hw.sessions⟩

omit [Platform π τ] in
theorem journal (hw : InStep same w v) (j k : Logging.Journal) :
    InStep same { w with journal := j } { v with journal := k } :=
  ⟨hw.platform, hw.history, hw.told, hw.counters, hw.nextSocket, hw.sessions⟩

omit [Platform π τ] in
/-- An observer that was told the same before is told the same now. -/
theorem hear (hw : InStep same w v) (o : Observer) (event : Trust.TrustEvent) :
    InStep same (o.hear event w) (o.hear event v) := by
  have htold : (o.hear event w).told = (o.hear event v).told := congrArg (_ ++ ·) hw.told
  refine ⟨hw.platform, ?_, htold, hw.counters, hw.nextSocket, hw.sessions⟩
  cases o with
  | custom name answer => exact hw.history.both _
  | logging logger level => exact hw.history
  | uncallable typeName shown => exact hw.history

end InStep

section

variable [Platform π τ] {same : π → π → Prop} (h : Indifferent π τ same)

include h

theorem ask_inStep (call : Call τ) (hcall : call ≠ .monotonicClock) :
    Coupled (InStep same) Eq (ask call : Action π τ (Reply call)) (ask call) := by
  intro w v hw
  obtain ⟨hreply, hasked⟩ := hw.asked h call hcall
  rw [w.ask_asked, v.ask_asked]
  exact .ok hreply hasked

omit h in
theorem notify_inStep (o : Observer) (event : Trust.TrustEvent) :
    Coupled (InStep same) Eq (o.notify event : Action π τ Unit) (o.notify event) := by
  have hmild (ho : o.IsMild) :
      Coupled (InStep same) Eq (o.notify event : Action π τ Unit) (o.notify event) := by
    intro w v hw
    obtain ⟨j, hj⟩ := Observer.notify_mild ho event w
    obtain ⟨k, hk⟩ := Observer.notify_mild ho event v
    rw [hj, hk]
    exact .ok rfl ((hw.hear o event).journal j k)
  cases o with
  | logging logger level => exact hmild trivial
  | uncallable typeName shown => exact hmild trivial
  | custom name answer =>
    -- it answers by what it was told before, which is the same on both sides
    refine .tryCatch (fun w v hw => ?_) fun f => ?_
    · have hheard := hw.hear (.custom name answer) event
      have hpast : (w.told.filter (·.1 == name)).map (·.2) =
          (v.told.filter (·.1 == name)).map (·.2) := by rw [hw.told]
      unfold Observer.tell
      simp only [Action.bind_eq, Action.get_eq, Action.set_eq]
      rw [hpast]
      cases answer ((v.told.filter (·.1 == name)).map (·.2)) event with
      | none => exact .ok rfl hheard
      | some f => exact .error hheard
    · split
      · exact emit_coupled (fun _ _ hw => hw.journal) _ _ _ _ _
      · exact .throw f

/-- What is done with sessions keeps worlds in step. -/
theorem steady_inStep : Steady Eq (InStep same : World π τ → World π τ → Prop) where
  ask := ask_inStep h
  notify heq event := heq ▸ notify_inStep _ event
  journal hw j k := hw.journal j k
  count hw f := ⟨hw.platform, hw.history, hw.told, congrArg f hw.counters, hw.nextSocket,
    hw.sessions⟩
  sessions hw := hw.sessions
  setSession hw id _ _ hst := ⟨hw.platform, hw.history, hw.told, hw.counters, hw.nextSocket,
    rel_setSession hw.sessions id hst⟩

end

end TrustGate

namespace TrustGate.Connection

open TrustGate.Action (Coupled EndsAlike)

variable {π τ : Type}

/-! ## Looks at the clock -/

/-- What the clock showed. -/
def reading? : Happening τ → Option τ
  | .called .monotonicClock t => some t
  | _ => none

/-- What the clock showed between two worlds, newest first. -/
def readings (w u : World π τ) : List τ := (w.since u).filterMap reading?

variable [Platform π τ] [Duration τ]

/-- Whenever the clock is looked at, it stays below the deadline, however that is put. -/
def InTime (deadline : τ) (w u : World π τ) : Prop :=
  ∀ t ∈ readings w u, IsBefore deadline t ∧ Duration.le deadline t = false

omit [Duration τ] in
theorem onward_history : Onward fun w u : World π τ => w.history <:+ u.history where
  refl _ := List.suffix_rfl
  trans h h' := h.trans h'
  asked _ _ := List.suffix_cons _ _
  numbered _ _ := List.suffix_rfl

namespace InTime

variable {deadline : τ} {w u : World π τ}

omit [Platform π τ] in
/-- It stays below for as long as a part of the run takes. -/
theorem mono (h : InTime deadline w u) {w' u' : World π τ} (hstart : w.history <:+ w'.history)
    (hpart : w'.history <:+ u'.history) (hend : u'.history <:+ u.history) :
    InTime deadline w' u' := by
  obtain ⟨before, hbefore⟩ := hstart
  obtain ⟨new, hnew⟩ := hpart
  obtain ⟨later, hlater⟩ := hend
  have hall : w.since u = later ++ (new ++ before) := by
    apply World.since_eq
    rw [← hlater, ← hnew, ← hbefore, List.append_assoc, List.append_assoc]
  intro t ht
  apply h t
  unfold readings at ht ⊢
  rw [World.since_eq hnew.symm] at ht
  rw [hall, List.filterMap_append, List.filterMap_append]
  exact List.mem_append_right _ (List.mem_append_left _ ht)

theorem now (h : InTime deadline w u) (hu : (w.asked .monotonicClock).history <:+ u.history) :
    IsBefore deadline w.time ∧ Duration.le deadline w.time = false := by
  obtain ⟨new, hnew⟩ := hu
  have hall : w.since u = new ++ [.called .monotonicClock w.time] := by
    apply World.since_eq
    rw [← hnew, List.append_assoc]
    rfl
  apply h
  unfold readings
  rw [hall, List.filterMap_append]
  exact List.mem_append_right _ List.mem_cons_self

end InTime

/-! ## One address -/

section

omit [Duration τ]

variable {same : π → π → Prop} (h : Indifferent π τ same)

include h

theorem setTimeout_inStep (s : SocketId) (limit : TimeLimit τ) :
    Coupled (InStep same) Eq (setTimeout s limit : Action π τ Unit) (setTimeout s limit) :=
  .bind_same (ask_inStep h _ nofun) fun _ => .ofExcept _

theorem reach_inStep (r : Request) (e : Endpoint) (s : SocketId) :
    Coupled (InStep same) Eq (reach r e s : Action π τ Unit) (reach r e s) := by
  have hconnect : Coupled (InStep same) Eq
      (do Action.ofExcept (← ask (.connect s e.address)) : Action π τ Unit)
      (do Action.ofExcept (← ask (.connect s e.address))) :=
    .bind_same (ask_inStep h _ nofun) fun _ => .ofExcept _
  unfold reach
  cases r.sourceAddress? with
  | none => exact hconnect
  | some a =>
    exact .bind_same (ask_inStep h _ nofun) fun _ => .bind_same (.ofExcept _) fun _ => hconnect

/-- The time limit of an attempt is an aside. -/
theorem prepare_inStep (r : Request) (e : Endpoint) (s : SocketId) (remaining : τ) :
    Coupled (InStep same) Eq (prepare r e s remaining : Action π τ Unit) (reach r e s) := by
  have hdef : (prepare r e s remaining : Action π τ Unit) =
      setTimeout s (.remaining remaining) >>= fun _ => reach r e s := rfl
  rw [hdef]
  refine .absorb (fun w v hw => ?_) fun _ => reach_inStep h r e s
  obtain ⟨hset, hlimited⟩ := hw.limited h s (.remaining remaining) rfl
  exact ⟨(), _, hset, hlimited⟩

theorem attempt_inStep (e : Endpoint) {prepare reach : SocketId → Action π τ Unit}
    (hprepare : ∀ s, Coupled (InStep same) Eq (prepare s) (reach s)) :
    Coupled (InStep same) Eq (attempt e prepare) (attempt e reach) := by
  have hfresh : Coupled (InStep same) Eq (freshSocket : Action π τ SocketId) freshSocket := by
    intro w v hw
    exact .ok hw.nextSocket hw
  unfold attempt
  refine .bind_same hfresh fun s => .bind_same (ask_inStep h _ nofun) fun reply => ?_
  cases reply with
  | error f =>
    by_cases hf : f.kind.isOs = true
    · simp only [hf, if_true]
      exact .pure rfl
    · simp only [hf, if_false, Bool.false_eq_true]
      exact .throw f
  | ok _ =>
    refine .bind_same (.modify fun w v hw => ?_) fun _ => ?_
    · exact ⟨hw.platform, hw.history, hw.told, hw.counters, rfl, hw.sessions⟩
    · refine .tryCatch (.bind_same (hprepare s) fun _ => .pure rfl) fun f => ?_
      by_cases hf : f.kind.isOs = true
      · simp only [hf, if_true]
        exact .bind_same (ask_inStep h (.closeSocket s) nofun) fun _ => .pure rfl
      · simp only [hf, if_false, Bool.false_eq_true]
        exact .throw f

end

/-! ## All addresses -/

/-- While there is time, an address is tried, and the next one if it fails. -/
theorem tryEach_cons {r : Request} {deadline : τ} {last : Option Failure} {e : Endpoint}
    {rest : List Endpoint} {w : World π τ} (hbefore : IsBefore deadline w.time) :
    tryEach r deadline last (e :: rest) w =
      match attempt e (fun s => prepare r e s (Duration.sub deadline w.time))
          (w.asked .monotonicClock) with
      | .error f u => .error f u
      | .ok (.error f) u => tryEach r deadline (some f) rest u
      | .ok (.ok s) u => (do
          setTimeout s (.given .null)
          return .ok s : Action π τ (Except (Option Failure) SocketId)) u := by
  unfold IsBefore at hbefore
  rw [tryEach, Action.bind_of_ok w.ask_time, hbefore, if_neg Bool.false_ne_true, Action.bind_eq,
    tryEndpoint_eq]
  cases attempt e (fun s => prepare r e s (Duration.sub deadline w.time))
      (w.asked .monotonicClock) with
  | error f u => rfl
  | ok x u => cases x <;> rfl

omit [Duration τ] in
theorem tryEachPlainly_cons (r : Request) (last : Option Failure) (e : Endpoint)
    (rest : List Endpoint) (w : World π τ) :
    tryEachPlainly r last (e :: rest) w =
      match attempt e (reach r e) w with
      | .error f u => .error f u
      | .ok (.error f) u => tryEachPlainly r (some f) rest u
      | .ok (.ok s) u => .ok (.ok s) u := by
  rw [tryEachPlainly, Action.bind_eq]
  cases attempt e (reach r e) w with
  | error f u => rfl
  | ok x u => cases x <;> rfl

variable {same : π → π → Prop}

/-- With time enough, addresses are tried within a deadline as without one. -/
theorem tryEach_inStep (h : Indifferent π τ same) (r : Request) (deadline : τ)
    (last : Option Failure) (es : List Endpoint) {w v : World π τ} (hw : InStep same w v)
    (htime : InTime deadline w ((tryEach r deadline last es).after w)) :
    EndsAlike (InStep same) Eq (tryEach r deadline last es w) (tryEachPlainly r last es v) := by
  induction es generalizing last w v with
  | nil => exact .ok rfl hw
  | cons e rest ih =>
    have hlooked := (tryEach_tries r deadline last (e :: rest) w).looked onward_history
    have hbefore := (htime.now hlooked).1
    have htried := attempt_tried
      (prepare_prepared (π := π) r e (Duration.sub deadline w.time)) e (w.asked .monotonicClock)
    have hattempt := attempt_inStep h e
      (fun s => prepare_inStep h r e s (Duration.sub deadline w.time)) _ _ (hw.looked h)
    unfold Action.after at htime
    rw [tryEach_cons hbefore] at htime ⊢
    rw [tryEachPlainly_cons]
    cases ha : attempt e (fun s => prepare r e s (Duration.sub deadline w.time))
        (w.asked .monotonicClock) with
    | error f u =>
      rw [ha] at hattempt
      generalize attempt e (reach r e) v = q at hattempt ⊢
      cases hattempt with
      | error hu => exact .error hu
    | ok x u =>
      rw [ha] at hattempt htried
      simp only [ha] at htime
      generalize attempt e (reach r e) v = q at hattempt ⊢
      cases hattempt with
      | @ok _ y _ u' hxy hu =>
        subst hxy
        cases x with
        | error f =>
          -- what is left of the run looks at the clock no more often than the whole
          have hsofar := (List.suffix_cons _ _).trans (htried.onward onward_history)
          have hlater := (tryEach_tries r deadline (some f) rest u).onward onward_history
          exact ih (some f) hu (htime.mono hsofar hlater List.suffix_rfl)
        | ok s =>
          obtain ⟨hset, hlifted⟩ := hu.limited h s (.given .null) rfl
          simp only []
          rw [Action.bind_of_ok hset]
          exact .ok rfl hlifted

end TrustGate.Connection
