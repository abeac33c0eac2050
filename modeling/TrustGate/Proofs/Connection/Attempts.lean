import TrustGate.Proofs.Connection.Steps

/-!
# The stories of attempts

Trying addresses within a deadline is a sequence of attempts, and each attempt has a story:
the calls that are made in it with their answers, oldest first.

    a.story r deadline         clock, openSocket, setTimeout, bind, connect, closeSocket, as
                               far as the attempt comes
    Narrates w u story            from `w` to `u` it is the story that happens
    Made r deadline es w u attempts
                               from `w` to `u` the attempts are made, on addresses of `es`
    Concludes …                why no further attempt is made, and what follows

Whatever comes of trying addresses is a sequence of attempts and a conclusion (Tries.made).
-/

namespace TrustGate.Connection

variable {π τ : Type}

/-! ## Stories -/

/-- How an attempt on one address ends. -/
inductive Ending where
  | unopened (f : Failure)
  | unlimited (f : Failure)
  | unbound (f : Failure)
  | refused (f : Failure)
  | connected

namespace Ending

def failure? : Ending → Option Failure
  | .unopened f | .unlimited f | .unbound f | .refused f => some f
  | .connected => none

/-- Whether there was a socket. -/
def isOpened : Ending → Bool
  | .unopened _ => false
  | _ => true

/-- Whether the socket got its time limit. -/
def isLimited : Ending → Bool
  | .unopened _ | .unlimited _ => false
  | _ => true

/-- What happens if there is a source address to bind to. -/
def binding (r : Request) (s : SocketId) (answer : Except Failure Unit) : List (Happening τ) :=
  (r.sourceAddress?.map fun a => .called (.bind s a) answer).toList

/-- What happens to a socket with a time limit. -/
def reaching (r : Request) (e : Endpoint) (s : SocketId) : Ending → List (Happening τ)
  | .unopened _ | .unlimited _ => []
  | .unbound f => binding r s (.error f)
  | .refused f => binding r s (.ok ()) ++ [.called (.connect s e.address) (Except.error f)]
  | .connected => binding r s (.ok ()) ++ [.called (.connect s e.address) (Except.ok ())]

/-- What happens to a socket until it is connected or fails. -/
def preparing (r : Request) (e : Endpoint) (s : SocketId) (limit : τ) (ending : Ending) :
    List (Happening τ) :=
  match ending with
  | .unopened _ => []
  | .unlimited f => [.called (.setTimeout s (.remaining limit)) (Except.error f)]
  | _ => .called (.setTimeout s (.remaining limit)) (Except.ok ()) :: ending.reaching r e s

def opening (r : Request) (e : Endpoint) (s : SocketId) (limit : τ) (ending : Ending) :
    List (Happening τ) :=
  match ending with
  | .unopened f => [.called (.openSocket s e.family e.protocol) (Except.error f)]
  | _ => .called (.openSocket s e.family e.protocol) (Except.ok ()) ::
      ending.preparing r e s limit

/-- A socket that failed is closed, unless the failure is not one of the operating system. -/
def closing (s : SocketId) : Ending → List (Happening τ)
  | .unopened _ | .connected => []
  | .unlimited f | .unbound f | .refused f =>
    if f.kind.isOs then [.called (.closeSocket s) ()] else []

end Ending

/-- One attempt on one address. -/
structure Attempt (τ : Type) where
  endpoint : Endpoint
  socket : SocketId
  /-- What the clock shows when the attempt starts. -/
  start : τ
  /-- What the clock shows when it is over. -/
  finish : τ
  ending : Ending

/-- The time limit of an attempt is what is left until the deadline when it starts. -/
def Attempt.limit [Duration τ] (deadline : τ) (a : Attempt τ) : τ :=
  Duration.sub deadline a.start

/-- What happens in an attempt, from the look at the clock to the closing of the socket. -/
def Attempt.story [Duration τ] (r : Request) (deadline : τ) (a : Attempt τ) :
    List (Happening τ) :=
  .called .monotonicClock a.start ::
    (a.ending.opening r a.endpoint a.socket (a.limit deadline) ++ a.ending.closing a.socket)

/-! ## Telling a story -/

/-- What happens from one world to another, oldest first. -/
def Narrates (w u : World π τ) (story : List (Happening τ)) : Prop :=
  u.history = story.reverse ++ w.history

namespace Narrates

variable {w u v : World π τ} {story more : List (Happening τ)}

theorem refl (w : World π τ) : Narrates w w [] := rfl

theorem append (h : Narrates w u story) (h' : Narrates u v more) :
    Narrates w v (story ++ more) := by
  unfold Narrates at h h' ⊢
  rw [h', h, List.reverse_append, List.append_assoc]

variable [Platform π τ]

theorem call {call : Call τ} {answer : Reply call} (h : w.reply call = answer) :
    Narrates w (w.asked call) [.called call answer] := by
  subst h
  rfl

end Narrates

namespace Ending

theorem preparing_of_isLimited {ending : Ending} (h : ending.isLimited = true) (r : Request)
    (e : Endpoint) (s : SocketId) (limit : τ) :
    ending.preparing r e s limit =
      .called (.setTimeout s (.remaining limit)) (Except.ok ()) :: ending.reaching r e s := by
  cases ending <;> first | rfl | cases h

theorem opening_of_isOpened {ending : Ending} (h : ending.isOpened = true) (r : Request)
    (e : Endpoint) (s : SocketId) (limit : τ) :
    ending.opening r e s limit =
      .called (.openSocket s e.family e.protocol) (Except.ok ()) ::
        ending.preparing r e s limit := by
  cases ending <;> first | rfl | cases h

theorem closing_of_failed {ending : Ending} {f : Failure} (h : ending.isOpened = true)
    (hf : ending.failure? = some f) (s : SocketId) :
    (ending.closing s : List (Happening τ)) =
      if f.kind.isOs then [.called (.closeSocket s) ()] else [] := by
  cases ending with
  | unopened f => cases h
  | connected => cases hf
  | unlimited g | unbound g | refused g =>
    cases hf
    rfl

/-- The ending is what preparing a socket comes to. -/
def Fits (ending : Ending) : End π τ Unit → Prop
  | .ok _ _ => ending = .connected
  | .error f _ => ending.failure? = some f

/-- The ending is what trying an address comes to. -/
def Settles (ending : Ending) (s : SocketId) : End π τ (Except Failure SocketId) → Prop
  | .ok (.ok s') _ => ending = .connected ∧ s' = s
  | .ok (.error f) _ => ending.failure? = some f ∧ f.kind.isOs = true
  | .error f _ => ending.failure? = some f ∧ f.kind.isOs = false

end Ending

section

variable [Platform π τ] {r : Request} {e : Endpoint} {s : SocketId} {w u : World π τ}

theorem Bound.narrates (h : Bound r s w u) : Narrates w u (Ending.binding r s (.ok ())) := by
  cases h with
  | anywhere hs =>
    unfold Ending.binding
    rw [hs]
    exact .refl w
  | source hs hb =>
    unfold Ending.binding
    rw [hs]
    exact .call hb

theorem Reached.narrates {p : End π τ Unit} (h : Reached r e s w p) :
    ∃ ending : Ending, ending.isLimited = true ∧ ending.Fits p ∧
      Narrates w (Action.final p) (ending.reaching r e s) := by
  cases h with
  | @unbound a f hs hb =>
    refine ⟨.unbound f, rfl, rfl, ?_⟩
    unfold Ending.reaching Ending.binding
    rw [hs]
    exact .call hb
  | @refused u f hb hc => exact ⟨.refused f, rfl, rfl, hb.narrates.append (.call hc)⟩
  | connected hb hc => exact ⟨.connected, rfl, rfl, hb.narrates.append (.call hc)⟩

theorem Prepared.narrates {limit : τ} {p : End π τ Unit} (h : Prepared r e limit s w p) :
    ∃ ending : Ending, ending.isOpened = true ∧ ending.Fits p ∧
      Narrates w (Action.final p) (ending.preparing r e s limit) := by
  cases h with
  | @unlimited f hl => exact ⟨.unlimited f, rfl, rfl, .call hl⟩
  | limited hl hr =>
    obtain ⟨ending, hlimited, hfits, hstory⟩ := hr.narrates
    refine ⟨ending, ?_, hfits, ?_⟩
    · cases ending <;> first | rfl | cases hlimited
    · rw [Ending.preparing_of_isLimited hlimited]
      exact (Narrates.call hl).append hstory

theorem Tried.narrates {limit : τ} {p : End π τ (Except Failure SocketId)}
    (h : Tried (Prepared r e limit) e w p) :
    ∃ ending : Ending, ending.Settles w.nextSocket p ∧
      Narrates w (Action.final p)
        (ending.opening r e w.nextSocket limit ++ ending.closing w.nextSocket) := by
  have hopened (ho : w.reply (.openSocket w.nextSocket e.family e.protocol) = Except.ok ()) :
      Narrates w (opened e w)
        [.called (.openSocket w.nextSocket e.family e.protocol) (Except.ok ())] :=
    Narrates.call ho
  cases h with
  | @unopened f ho hf => exact ⟨.unopened f, ⟨rfl, hf⟩, .call ho⟩
  | @stopped f ho hf => exact ⟨.unopened f, ⟨rfl, hf⟩, .call ho⟩
  | @failed f u ho hp hf =>
    obtain ⟨ending, hsocket, hfits, hstory⟩ := hp.narrates
    refine ⟨ending, ⟨hfits, hf⟩, ?_⟩
    rw [Ending.opening_of_isOpened hsocket, Ending.closing_of_failed hsocket hfits, if_pos hf]
    exact ((hopened ho).append hstory).append (.call rfl)
  | @abandoned f u ho hp hf =>
    obtain ⟨ending, hsocket, hfits, hstory⟩ := hp.narrates
    refine ⟨ending, ⟨hfits, hf⟩, ?_⟩
    rw [Ending.opening_of_isOpened hsocket, Ending.closing_of_failed hsocket hfits, hf]
    exact ((hopened ho).append hstory).append (.refl u)
  | @connected u ho hp =>
    obtain ⟨ending, hsocket, hfits, hstory⟩ := hp.narrates
    replace hfits : ending = .connected := hfits
    subst hfits
    refine ⟨.connected, ⟨rfl, rfl⟩, ?_⟩
    rw [Ending.opening_of_isOpened hsocket]
    exact ((hopened ho).append hstory).append (.refl u)

/-! ## What runs keep -/

/-- Relations of worlds that go on with every call and with every number that is taken. -/
structure Onward (R : World π τ → World π τ → Prop) : Prop where
  refl : ∀ w, R w w
  trans : ∀ {w u v}, R w u → R u v → R w v
  asked : ∀ w call, R w (w.asked call)
  numbered : ∀ (w : World π τ) n, R w { w with nextSocket := n }

variable {R : World π τ → World π τ → Prop} (hR : Onward R)

include hR

theorem Bound.onward (h : Bound r s w u) : R w u := by
  cases h with
  | anywhere _ => exact hR.refl w
  | source _ _ => exact hR.asked w _

theorem Reached.onward {p : End π τ Unit} (h : Reached r e s w p) : R w (Action.final p) := by
  cases h with
  | unbound _ _ => exact hR.asked w _
  | refused hb _ => exact hR.trans (hb.onward hR) (hR.asked _ _)
  | connected hb _ => exact hR.trans (hb.onward hR) (hR.asked _ _)

theorem Prepared.onward {limit : τ} {p : End π τ Unit} (h : Prepared r e limit s w p) :
    R w (Action.final p) := by
  cases h with
  | unlimited _ => exact hR.asked w _
  | limited _ hr => exact hR.trans (hR.asked w _) (hr.onward hR)

theorem opened_onward (e : Endpoint) (w : World π τ) : R w (opened e w) :=
  hR.trans (hR.asked w _) (hR.numbered _ _)

theorem Tried.onward {limit : τ} {p : End π τ (Except Failure SocketId)}
    (h : Tried (Prepared r e limit) e w p) : R w (Action.final p) := by
  cases h with
  | unopened _ _ => exact hR.asked w _
  | stopped _ _ => exact hR.asked w _
  | failed _ hp _ =>
    exact hR.trans (hR.trans (opened_onward hR e w) (hp.onward hR)) (hR.asked _ _)
  | abandoned _ hp _ => exact hR.trans (opened_onward hR e w) (hp.onward hR)
  | connected _ hp => exact hR.trans (opened_onward hR e w) (hp.onward hR)

section

variable [Duration τ] {deadline : τ} {last : Option Failure}

theorem Tries.onward {es : List Endpoint} {p : End π τ (Except (Option Failure) SocketId)}
    (h : Tries r deadline last es w p) : R w (Action.final p) := by
  induction h with
  | exhausted => exact hR.refl _
  | late _ => exact hR.asked _ _
  | broken _ ht => exact hR.trans (hR.asked _ _) (ht.onward hR)
  | next _ ht _ ih => exact hR.trans (hR.asked _ _) (hR.trans (ht.onward hR) ih)
  | stuck _ ht _ => exact hR.trans (hR.asked _ _) (hR.trans (ht.onward hR) (hR.asked _ _))
  | connected _ ht _ => exact hR.trans (hR.asked _ _) (hR.trans (ht.onward hR) (hR.asked _ _))

/-- An address is tried after a look at the clock. -/
theorem Tries.looked {rest : List Endpoint} {p : End π τ (Except (Option Failure) SocketId)}
    (h : Tries r deadline last (e :: rest) w p) : R (w.asked .monotonicClock) (Action.final p) := by
  cases h with
  | late _ => exact hR.refl _
  | broken _ ht => exact ht.onward hR
  | next _ ht hrest => exact hR.trans (ht.onward hR) (hrest.onward hR)
  | stuck _ ht _ => exact hR.trans (ht.onward hR) (hR.asked _ _)
  | connected _ ht _ => exact hR.trans (ht.onward hR) (hR.asked _ _)

theorem GaveUp.onward {f : Failure} (h : GaveUp deadline w last f u) : R w u := by
  cases h with
  | untried => exact hR.refl w
  | cutOff _ => exact hR.refl w
  | elapsed _ _ => exact hR.asked w _
  | own _ _ => exact hR.asked w _

end

end

/-! ## Attempts in a row -/

/-- Each attempt starts when the one before it is over, the first at `t`, and the last one is over
at `t'`. -/
def Consecutive : τ → List (Attempt τ) → τ → Prop
  | t, [], t' => t = t'
  | t, a :: rest, t' => a.start = t ∧ Consecutive a.finish rest t'

/-- It fails, and another address may be tried. -/
def Attempt.IsPassed (a : Attempt τ) : Prop :=
  ∃ f, a.ending.failure? = some f ∧ f.kind.isOs = true

variable [Duration τ]

/-- There is time left at `t`. -/
def IsBefore (deadline t : τ) : Prop :=
  Duration.le (Duration.sub deadline t) Duration.zero = false

variable [Platform π τ]

/-- From `w` to `u` attempts are made, in order and while there is time, on addresses of `es`; `T`
relates the times at which one starts and is over. -/
structure Made (r : Request) (deadline : τ) (T : τ → τ → Prop) (es : List Endpoint)
    (attempts : List (Attempt τ)) (w u : World π τ) : Prop where
  narrates : Narrates w u (attempts.flatMap (·.story r deadline))
  inOrder : attempts.map (·.endpoint) <+: es
  inTime : ∀ a ∈ attempts, IsBefore deadline a.start
  takes : ∀ a ∈ attempts, T a.start a.finish
  passed : ∀ a ∈ attempts.dropLast, a.IsPassed
  consecutive : Consecutive w.time attempts u.time

/-- Why no other address is tried, and how trying ends for that reason. -/
inductive Concludes (deadline : τ) (es : List Endpoint) (attempts : List (Attempt τ))
    (u : World π τ) : End π τ (Except (Option Failure) SocketId) → Prop
  | exhausted {last : Option Failure} : attempts.map (·.endpoint) = es →
      (∀ a ∈ attempts, a.IsPassed) → Concludes deadline es attempts u (.ok (.error last) u)
  | late {last : Option Failure} : ¬IsBefore deadline u.time → (∀ a ∈ attempts, a.IsPassed) →
      Concludes deadline es attempts u (.ok (.error last) (u.asked .monotonicClock))
  | broken {before : List (Attempt τ)} {a : Attempt τ} {f : Failure} :
      attempts = before ++ [a] → a.ending.failure? = some f → f.kind.isOs = false →
      Concludes deadline es attempts u (.error f u)
  | stuck {before : List (Attempt τ)} {a : Attempt τ} {f : Failure} :
      attempts = before ++ [a] → a.ending = .connected →
      u.reply (.setTimeout a.socket (.given .null)) = Except.error f →
      Concludes deadline es attempts u
        (.error f (u.asked (.setTimeout a.socket (.given .null))))
  | connected {before : List (Attempt τ)} {a : Attempt τ} :
      attempts = before ++ [a] → a.ending = .connected →
      u.reply (.setTimeout a.socket (.given .null)) = Except.ok () →
      Concludes deadline es attempts u
        (.ok (.ok a.socket) (u.asked (.setTimeout a.socket (.given .null))))

variable {r : Request} {deadline : τ} {T : τ → τ → Prop} {e : Endpoint} {es rest : List Endpoint}
  {a : Attempt τ} {attempts : List (Attempt τ)} {w v u : World π τ}

namespace Made

theorem nil (w : World π τ) : Made r deadline T es [] w w where
  narrates := .refl w
  inOrder := List.nil_prefix
  inTime := by simp
  takes := by simp
  passed := by simp
  consecutive := rfl

/-- A failed attempt, and then more of them. -/
theorem cons (h : Made r deadline T (e :: rest) [a] w v) (ha : a.IsPassed)
    (hlater : Made r deadline T rest attempts v u) :
    Made r deadline T (e :: rest) (a :: attempts) w u where
  narrates := by
    have hstory := h.narrates
    rw [List.flatMap_singleton] at hstory
    rw [List.flatMap_cons]
    exact hstory.append hlater.narrates
  inOrder := by
    obtain ⟨he, -⟩ := List.cons_prefix_cons.mp h.inOrder
    rw [List.map_cons, List.cons_prefix_cons]
    exact ⟨he, hlater.inOrder⟩
  inTime := by
    intro b hb
    rcases List.mem_cons.mp hb with rfl | hb
    · exact h.inTime b List.mem_cons_self
    · exact hlater.inTime b hb
  takes := by
    intro b hb
    rcases List.mem_cons.mp hb with rfl | hb
    · exact h.takes b List.mem_cons_self
    · exact hlater.takes b hb
  passed := by
    intro b hb
    cases attempts with
    | nil => cases hb
    | cons c cs =>
      rw [List.dropLast_cons_cons] at hb
      rcases List.mem_cons.mp hb with rfl | hb
      · exact ha
      · exact hlater.passed b hb
  consecutive := by
    obtain ⟨hstart, hfinish⟩ := h.consecutive
    refine ⟨hstart, ?_⟩
    rw [hfinish]
    exact hlater.consecutive

end Made

theorem Concludes.cons {p : End π τ (Except (Option Failure) SocketId)} (ha : a.IsPassed)
    (he : a.endpoint = e) (h : Concludes deadline rest attempts u p) :
    Concludes deadline (e :: rest) (a :: attempts) u p := by
  have hpassed (hall : ∀ b ∈ attempts, b.IsPassed) : ∀ b ∈ a :: attempts, b.IsPassed := by
    intro b hb
    rcases List.mem_cons.mp hb with rfl | hb
    · exact ha
    · exact hall b hb
  cases h with
  | exhausted hes hall =>
    refine .exhausted ?_ (hpassed hall)
    rw [List.map_cons, he, hes]
  | late hlate hall => exact .late hlate (hpassed hall)
  | broken hlast hf hos => exact .broken (by rw [hlast, List.cons_append]) hf hos
  | stuck hlast hc hb => exact .stuck (by rw [hlast, List.cons_append]) hc hb
  | connected hlast hc hb => exact .connected (by rw [hlast, List.cons_append]) hc hb

variable (hT : Onward fun w u : World π τ => T w.time u.time)

include hT

/-- Trying one address is one attempt. -/
theorem Tried.made {p : End π τ (Except Failure SocketId)} (hbefore : IsBefore deadline w.time)
    (h : Tried (Prepared r e (Duration.sub deadline w.time)) e (w.asked .monotonicClock) p)
    (rest : List Endpoint) :
    ∃ a : Attempt τ, a.endpoint = e ∧ a.ending.Settles a.socket p ∧
      Made r deadline T (e :: rest) [a] w (Action.final p) := by
  obtain ⟨ending, hsettles, hstory⟩ := h.narrates
  have hclock : Narrates w (w.asked .monotonicClock) [.called .monotonicClock w.time] := .call rfl
  have htakes := hT.trans (hT.asked w .monotonicClock) (h.onward hT)
  refine ⟨⟨e, w.nextSocket, w.time, (Action.final p).time, ending⟩, rfl, hsettles, ?_⟩
  refine ⟨?_, ?_, ?_, ?_, ?_, rfl, rfl⟩
  · rw [List.flatMap_singleton]
    exact hclock.append hstory
  · rw [List.map_singleton, List.cons_prefix_cons]
    exact ⟨rfl, List.nil_prefix⟩
  · intro b hb
    rw [List.mem_singleton.mp hb]
    exact hbefore
  · intro b hb
    rw [List.mem_singleton.mp hb]
    exact htakes
  · intro b hb
    cases hb

/-- Trying addresses is a sequence of attempts and a conclusion, by induction on the addresses. -/
theorem Tries.made {last : Option Failure} {p : End π τ (Except (Option Failure) SocketId)}
    (h : Tries r deadline last es w p) :
    ∃ attempts u, Made r deadline T es attempts w u ∧ Concludes deadline es attempts u p := by
  induction h with
  | @exhausted last w => exact ⟨[], w, .nil w, .exhausted rfl (by simp)⟩
  | @late last e rest w hlate =>
    refine ⟨[], w, .nil w, .late ?_ (by simp)⟩
    intro hbefore
    rw [IsBefore, hlate] at hbefore
    cases hbefore
  | @broken last e rest w u f hbefore htried =>
    obtain ⟨a, he, ⟨hf, hos⟩, hmade⟩ := htried.made hT hbefore rest
    exact ⟨[a], u, hmade, .broken (List.nil_append [a]).symm hf hos⟩
  | @next last e rest w u f p hbefore htried _ ih =>
    obtain ⟨a, he, hf, hmade⟩ := htried.made hT hbefore rest
    obtain ⟨attempts, v, hlater, hconcludes⟩ := ih
    have hpassed : a.IsPassed := ⟨f, hf⟩
    exact ⟨a :: attempts, v, hmade.cons hpassed hlater, hconcludes.cons hpassed he⟩
  | @stuck last e rest w u s f hbefore htried hblock =>
    obtain ⟨a, he, ⟨hconnected, rfl⟩, hmade⟩ := htried.made hT hbefore rest
    exact ⟨[a], u, hmade, .stuck (List.nil_append [a]).symm hconnected hblock⟩
  | @connected last e rest w u s hbefore htried hblock =>
    obtain ⟨a, he, ⟨hconnected, rfl⟩, hmade⟩ := htried.made hT hbefore rest
    exact ⟨[a], u, hmade, .connected (List.nil_append [a]).symm hconnected hblock⟩

end TrustGate.Connection
