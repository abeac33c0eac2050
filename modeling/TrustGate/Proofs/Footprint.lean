import TrustGate.Tls.Session

/-!
# Footprints: what an action can touch

`Makes allowed w w'` says that `w'` has the history of `w` and on top of it no calls but
allowed ones; `Quiet allowed w w'` says besides that sessions, socket numbers and counters
are as they were.  `Quietly allowed a` says so of an action from every world, however it
ends.  An action is quiet if its parts are, so the footprint of a validator is read off its
definition:

    emit                          makes no calls                 (emit_quietly)
    observer.notify event         makes no calls                 (Observer.notify_quietly)
    p.check chain authType host   makes inquiries only           (Provider.check_quietly)

`FailsOnly P w w'` says that calls which failed in between failed as `P` says, and
`FailedIn w w' f` that one of them failed with `f`.

`Sums add x₀ w₀ w x` says that what happened from `w₀` to `w` adds up to `x`: a ledger that
`add` keeps, one happening at a time.
-/

namespace TrustGate

/-- Calls that ask for the time, for the peer's certificates or for a verdict on them. -/
def Call.IsInquiry {τ : Type} : Call τ → Prop
  | .wallClock | .customClock _ | .verifiedChain _ | .peer _ | .verify _ | .consult _ => True
  | _ => False

/-- Calls that a chain validator makes. -/
def Call.IsJudging {τ : Type} : Call τ → Prop
  | .wallClock | .customClock _ | .verify _ => True
  | _ => False

theorem Call.IsJudging.isInquiry {τ : Type} (call : Call τ) (h : call.IsJudging) :
    call.IsInquiry := by
  cases call <;> trivial

/-- If it is a call, it is an allowed one. -/
def Happening.Within {τ : Type} (allowed : Call τ → Prop) : Happening τ → Prop
  | .called call _ => allowed call
  | .observed _ _ => True

/-- The failure that a call ended with, if it failed. -/
def Happening.fault? {τ : Type} : Happening τ → Option Failure
  | .called (.resolve _ _) (.error f)
  | .called (.openSocket _ _ _) (.error f)
  | .called (.setTimeout _ _) (.error f)
  | .called (.bind _ _) (.error f)
  | .called (.connect _ _) (.error f)
  | .called (.openDirect _ _ _) (.error f)
  | .called (.duplicate _ _) (.error f)
  | .called (.newEngine _) (.error f)
  | .called (.setMinimumVersion _ _) (.error f)
  | .called (.setMaximumVersion _ _) (.error f)
  | .called (.setCheckHostname _ _) (.error f)
  | .called (.loadIdentity _ _ _ _) (.error f)
  | .called (.loadTrust _ _ _) (.error f)
  | .called (.loadDefaultTrust _) (.error f)
  | .called (.wrap _ _ _) (.error f)
  | .called (.handshake _) (.error f)
  | .called (.read _ _) (.error f)
  | .called (.write _ _) (.error f)
  | .called (.verifiedChain _) (.error f)
  | .called (.peer _) (.error f)
  | .called (.version _) (.error f)
  | .called (.cipher _) (.error f)
  | .called (.consult _) (.error f)
  | .called (.install _ _) (.error f)
  | .called (.anchors _) (.error f) => some f
  | _ => none

/-- A history and a later moment of the same run: the moment was before or since. -/
theorem before_or_since {α : Type} {x : α} {past mid l : List α} (h : x :: past <:+ l)
    (hmid : mid <:+ l) : x :: past <:+ mid ∨ mid <:+ past := by
  rcases List.suffix_or_suffix_of_suffix h hmid with hbefore | hsince
  · exact .inl hbefore
  · rcases List.suffix_cons_iff.mp hsince with heq | hsince
    · exact .inl ⟨[], heq.symm⟩
    · exact .inr hsince

theorem not_before_and_since {α : Type} {x : α} {past mid : List α} (h : x :: past <:+ mid)
    (hmid : mid <:+ past) : False := by
  have hlt := h.length_le
  have hle := hmid.length_le
  rw [List.length_cons] at hlt
  omega

def Makes {π τ : Type} (allowed : Call τ → Prop) (w w' : World π τ) : Prop :=
  ∃ new, w'.history = new ++ w.history ∧ ∀ h ∈ new, h.Within allowed

structure Quiet {π τ : Type} (allowed : Call τ → Prop) (w w' : World π τ) : Prop where
  makes : Makes allowed w w'
  sessions : w'.sessions = w.sessions
  nextSocket : w'.nextSocket = w.nextSocket
  counters : w'.counters = w.counters

variable {π τ : Type} {allowed : Call τ → Prop} {w w' w'' : World π τ}

/-- What has happened between one world of a run and a later one, newest first. -/
def World.since (w w' : World π τ) : List (Happening τ) :=
  w'.history.take (w'.history.length - w.history.length)

theorem World.since_eq {new : List (Happening τ)} (h : w'.history = new ++ w.history) :
    w.since w' = new := by
  unfold since
  rw [h, List.length_append, Nat.add_sub_cancel, List.take_left]

theorem World.mem_since {x : Happening τ} {past : List (Happening τ)}
    (hx : x :: past <:+ w'.history) (hpast : w.history <:+ past) : x ∈ w.since w' := by
  obtain ⟨later, hlater⟩ := hx
  obtain ⟨between, rfl⟩ := hpast
  have hsince : w.since w' = later ++ x :: between := World.since_eq (by rw [← hlater]; simp)
  rw [hsince]
  simp

/-- The calls that failed between two worlds of a run failed as `P` says. -/
def FailsOnly (P : Failure → Prop) (w w' : World π τ) : Prop :=
  ∀ x ∈ w.since w', ∀ f, x.fault? = some f → P f

/-- Between two worlds of a run a call failed with `f`. -/
def FailedIn (w w' : World π τ) (f : Failure) : Prop :=
  ∃ x past, x :: past <:+ w'.history ∧ w.history <:+ past ∧ x.fault? = some f

/-- What holds of the failures of a run holds of those of a part of it. -/
theorem FailsOnly.narrow {P Q : Failure → Prop} {u u' : World π τ} (h : FailsOnly P w w')
    (hu : w.history <:+ u.history) (hpart : u.history <:+ u'.history)
    (hu' : u'.history <:+ w'.history) (hle : ∀ f, P f → Q f) : FailsOnly Q u u' := by
  obtain ⟨new, hnew⟩ := hpart
  intro x hx f hf
  rw [World.since_eq hnew.symm] at hx
  obtain ⟨later, earlier, rfl⟩ := List.append_of_mem hx
  have hmoment : x :: (earlier ++ u.history) <:+ u'.history := ⟨later, by simpa using hnew⟩
  have hpast : w.history <:+ earlier ++ u.history := hu.trans (List.suffix_append earlier _)
  exact hle f (h x (World.mem_since (hmoment.trans hu') hpast) f hf)

namespace FailedIn

variable {u u' : World π τ} {f : Failure}

theorem widen (h : FailedIn u u' f) (hu : w.history <:+ u.history)
    (hu' : u'.history <:+ w'.history) : FailedIn w w' f := by
  obtain ⟨x, past, hx, hpast, hf⟩ := h
  exact ⟨x, past, hx.trans hu', hu.trans hpast, hf⟩

theorem holds {P : Failure → Prop} (h : FailedIn w w' f) (hall : FailsOnly P w w') : P f := by
  obtain ⟨x, past, hx, hpast, hf⟩ := h
  exact hall x (World.mem_since hx hpast) f hf

end FailedIn

namespace Makes

theorem refl (w : World π τ) : Makes allowed w w := ⟨[], rfl, by simp⟩

theorem trans (h : Makes allowed w w') (h' : Makes allowed w' w'') : Makes allowed w w'' := by
  obtain ⟨new, hnew, hall⟩ := h
  obtain ⟨new', hnew', hall'⟩ := h'
  refine ⟨new' ++ new, by rw [hnew', hnew, List.append_assoc], fun x hx => ?_⟩
  rcases List.mem_append.mp hx with hx | hx
  · exact hall' x hx
  · exact hall x hx

theorem mono {wider : Call τ → Prop} (h : Makes allowed w w')
    (hle : ∀ call, allowed call → wider call) : Makes wider w w' := by
  obtain ⟨new, hnew, hall⟩ := h
  refine ⟨new, hnew, fun x hx => ?_⟩
  cases x with
  | called call reply => exact hle call (hall _ hx)
  | observed observer event => trivial

theorem suffix (h : Makes allowed w w') : w.history <:+ w'.history := by
  obtain ⟨new, hnew, -⟩ := h
  exact ⟨new, hnew.symm⟩

/-- A call made on the way is an allowed one. -/
theorem allowed_of_since (h : Makes allowed w w') {call : Call τ} {reply : Reply call}
    {past : List (Happening τ)} (hcall : .called call reply :: past <:+ w'.history)
    (hpast : w.history <:+ past) : allowed call := by
  obtain ⟨new, hnew, hall⟩ := h
  obtain ⟨later, hlater⟩ := hcall
  obtain ⟨between, rfl⟩ := hpast
  have hsplit : later ++ .called call reply :: between = new := by
    have : (later ++ .called call reply :: between) ++ w.history = new ++ w.history := by
      rw [← hnew, ← hlater]
      simp
    exact List.append_cancel_right this
  exact hall (.called call reply) (by rw [← hsplit]; simp)

end Makes

namespace Quiet

theorem refl (w : World π τ) : Quiet allowed w w := ⟨.refl w, rfl, rfl, rfl⟩

theorem trans (h : Quiet allowed w w') (h' : Quiet allowed w' w'') : Quiet allowed w w'' :=
  ⟨h.makes.trans h'.makes, h'.sessions.trans h.sessions, h'.nextSocket.trans h.nextSocket,
    h'.counters.trans h.counters⟩

theorem mono {wider : Call τ → Prop} (h : Quiet allowed w w')
    (hle : ∀ call, allowed call → wider call) : Quiet wider w w' :=
  ⟨h.makes.mono hle, h.sessions, h.nextSocket, h.counters⟩

end Quiet

/-! ## Calls -/

namespace World

variable [Platform π τ]

/-- What the platform answers to a call now. -/
def reply (w : World π τ) (call : Call τ) : Reply call := (Platform.answer call w.platform).1

/-- The world in which the platform was asked. -/
def asked (w : World π τ) (call : Call τ) : World π τ :=
  { w with
    platform := (Platform.answer call w.platform).2
    history := .called call (w.reply call) :: w.history }

theorem ask_asked (w : World π τ) (call : Call τ) :
    ask call w = .ok (w.reply call) (w.asked call) := rfl

theorem failedIn_asked (w : World π τ) {call : Call τ} {answer : Reply call} {f : Failure}
    (hanswer : w.reply call = answer)
    (hf : Happening.fault? (.called call answer) = some f) : FailedIn w (w.asked call) f := by
  subst hanswer
  exact ⟨_, _, List.suffix_rfl, List.suffix_rfl, hf⟩

/-- What the monotonic clock shows now. -/
def time (w : World π τ) : τ := w.reply .monotonicClock

theorem ask_time (w : World π τ) :
    (ask .monotonicClock : Action π τ τ) w = .ok w.time (w.asked .monotonicClock) := rfl

theorem quiet_asked {allowed : Call τ → Prop} (w : World π τ) {call : Call τ}
    (h : allowed call) : Quiet allowed w (w.asked call) :=
  ⟨⟨[.called call (w.reply call)], rfl, by simpa [Happening.Within] using h⟩, rfl, rfl, rfl⟩

end World

/-! ## Adding up what happened -/

/-- Since `w₀`, what happened adds up to `x`, starting from `x₀`. -/
def Sums {σ : Type} (add : Happening τ → σ → σ) (x₀ : σ) (w₀ w : World π τ) (x : σ) : Prop :=
  ∃ new, w.history = new ++ w₀.history ∧ new.foldr add x₀ = x

/-- The call changes nothing in the sum, whatever the answer. -/
def Ignores {σ : Type} (add : Happening τ → σ → σ) (call : Call τ) : Prop :=
  ∀ reply x, add (.called call reply) x = x

theorem foldr_eq_of_ignores {σ : Type} {add : Happening τ → σ → σ} {new : List (Happening τ)}
    (hall : ∀ h ∈ new, h.Within allowed) (hcalls : ∀ call, allowed call → Ignores add call)
    (hobserved : ∀ observer event x, add (.observed observer event) x = x) (x : σ) :
    new.foldr add x = x := by
  induction new with
  | nil => rfl
  | cons h rest ih =>
    have hh := hall h List.mem_cons_self
    rw [List.foldr_cons, ih fun h' hh' => hall h' (List.mem_cons_of_mem _ hh')]
    cases h with
    | called call reply => exact hcalls call hh reply x
    | observed observer event => exact hobserved observer event x

namespace Sums

variable {σ : Type} {add : Happening τ → σ → σ} {x₀ x : σ} {w₀ : World π τ}

theorem refl (w : World π τ) : Sums add x₀ w w x₀ := ⟨[], rfl, rfl⟩

theorem of_history (h : Sums add x₀ w₀ w x) (hw : w'.history = w.history) :
    Sums add x₀ w₀ w' x := by
  obtain ⟨new, hnew, hx⟩ := h
  exact ⟨new, hw.trans hnew, hx⟩

theorem asked [Platform π τ] {call : Call τ} {answer : Reply call} (h : Sums add x₀ w₀ w x)
    (hanswer : w.reply call = answer) :
    Sums add x₀ w₀ (w.asked call) (add (.called call answer) x) := by
  obtain ⟨new, hnew, rfl⟩ := h
  subst hanswer
  refine ⟨.called call (w.reply call) :: new, ?_, rfl⟩
  rw [World.asked, hnew]
  rfl

theorem of_makes (h : Sums add x₀ w₀ w x) (hm : Makes allowed w w')
    (hcalls : ∀ call, allowed call → Ignores add call)
    (hobserved : ∀ observer event x, add (.observed observer event) x = x) :
    Sums add x₀ w₀ w' x := by
  obtain ⟨new, hnew, rfl⟩ := h
  obtain ⟨later, hlater, hall⟩ := hm
  refine ⟨later ++ new, by rw [hlater, hnew, List.append_assoc], ?_⟩
  rw [List.foldr_append, foldr_eq_of_ignores hall hcalls hobserved]

theorem foldr_since (h : Sums add x₀ w₀ w x) : (w₀.since w).foldr add x₀ = x := by
  obtain ⟨new, hnew, hx⟩ := h
  rw [World.since_eq hnew, hx]

end Sums

namespace Action

variable {α β : Type}

/-- The world in which an action ended. -/
def final : EStateM.Result Failure (World π τ) α → World π τ
  | .ok _ w => w
  | .error _ w => w

/-- The world that an action leaves, however it ends. -/
def after (a : Action π τ α) (w : World π τ) : World π τ := final (a w)

theorem after_of_ok {a : Action π τ α} {w w' : World π τ} {x : α} (h : a w = .ok x w') :
    a.after w = w' := by
  unfold after
  rw [h]
  rfl

theorem after_of_error {a : Action π τ α} {w w' : World π τ} {f : Failure}
    (h : a w = .error f w') : a.after w = w' := by
  unfold after
  rw [h]
  rfl

theorem get_eq (w : World π τ) : (get : Action π τ (World π τ)) w = .ok w w := rfl

theorem set_eq (u w : World π τ) : (set u : Action π τ PUnit) w = .ok () u := rfl

theorem modify_eq (f : World π τ → World π τ) (w : World π τ) :
    (modify f : Action π τ PUnit) w = .ok () (f w) := rfl

theorem bind_eq (a : Action π τ α) (f : α → Action π τ β) (w : World π τ) :
    (a >>= f) w = match a w with
      | .ok x w' => f x w'
      | .error e w' => .error e w' := by
  change EStateM.bind a f w = _
  unfold EStateM.bind
  cases a w <;> rfl

theorem bind_of_ok {a : Action π τ α} {w w' : World π τ} {x : α} (h : a w = .ok x w')
    (f : α → Action π τ β) : (a >>= f) w = f x w' := by
  rw [bind_eq, h]

theorem bind_of_error {a : Action π τ α} {w w' : World π τ} {e : Failure}
    (h : a w = .error e w') (f : α → Action π τ β) : (a >>= f) w = .error e w' := by
  rw [bind_eq, h]

theorem exists_of_bind_ok {a : Action π τ α} {f : α → Action π τ β} {w v : World π τ} {y : β}
    (h : (a >>= f) w = .ok y v) : ∃ x u, a w = .ok x u ∧ f x u = .ok y v := by
  rw [bind_eq] at h
  cases ha : a w with
  | ok x u =>
    rw [ha] at h
    exact ⟨x, u, rfl, h⟩
  | error e u =>
    rw [ha] at h
    cases h

theorem tryCatch_of_ok {a : Action π τ α} {w w' : World π τ} {x : α} (h : a w = .ok x w')
    (handle : Failure → Action π τ α) : tryCatch a handle w = .ok x w' := by
  rw [tryCatch_eq, h]

theorem tryCatch_of_error {a : Action π τ α} {w w' : World π τ} {e : Failure}
    (h : a w = .error e w') (handle : Failure → Action π τ α) :
    tryCatch a handle w = handle e w' := by
  rw [tryCatch_eq, h]

/-- What cleans up only after failures succeeds as it is. -/
theorem of_onFailure_ok {a : Action π τ α} {cleanUp : Action π τ Unit} {w u : World π τ} {x : α}
    (h : onFailure a cleanUp w = .ok x u) : a w = .ok x u := by
  rw [onFailure_eq] at h
  cases ha : a w with
  | ok y v =>
    rw [ha] at h
    exact h
  | error f v =>
    rw [ha] at h
    cases hclean : cleanUp v with
    | ok _ v' =>
      simp only [hclean] at h
      cases h
    | error g v' =>
      simp only [hclean] at h
      cases h

theorem map_eq (f : α → β) (a : Action π τ α) (w : World π τ) :
    (f <$> a) w = match a w with
      | .ok x w' => .ok (f x) w'
      | .error e w' => .error e w' := by
  change EStateM.map f a w = _
  unfold EStateM.map
  cases a w <;> rfl

theorem after_map (f : α → β) (a : Action π τ α) (w : World π τ) :
    (f <$> a).after w = a.after w := by
  unfold after
  rw [map_eq]
  cases a w <;> rfl

theorem makes_bind {a : Action π τ α} {f : α → Action π τ β}
    (ha : ∀ w, Makes allowed w (a.after w)) (hf : ∀ x w, Makes allowed w ((f x).after w))
    (w : World π τ) : Makes allowed w ((a >>= f).after w) := by
  have hfirst := ha w
  unfold after at hfirst ⊢
  rw [bind_eq]
  cases h : a w with
  | ok x u =>
    rw [h] at hfirst
    exact hfirst.trans (hf x u)
  | error e u =>
    rw [h] at hfirst
    exact hfirst

/-- What is read off an answer fails only as the call did. -/
theorem failedIn_of_read [Platform π τ] {w u : World π τ} {f : Failure} (call : Call τ)
    (read : Reply call → Except Failure α)
    (hread : ∀ answer g, read answer = .error g →
      Happening.fault? (.called call answer) = some g)
    (h : (ask call >>= fun answer => ofExcept (read answer) : Action π τ α) w = .error f u) :
    FailedIn w u f := by
  rw [bind_of_ok (w.ask_asked call)] at h
  cases hanswer : read (w.reply call) with
  | ok x =>
    rw [hanswer] at h
    cases h
  | error g =>
    rw [hanswer] at h
    cases h
    exact w.failedIn_asked rfl (hread _ _ hanswer)

/-! ## Quiet actions -/

def Quietly (allowed : Call τ → Prop) (a : Action π τ α) : Prop := ∀ w, Quiet allowed w (a.after w)

namespace Quietly

variable {a : Action π τ α}

theorem of_ok (ha : a.Quietly allowed) {w w' : World π τ} {x : α} (h : a w = .ok x w') :
    Quiet allowed w w' := by
  have := ha w
  rwa [after_of_ok h] at this

theorem of_error (ha : a.Quietly allowed) {w w' : World π τ} {f : Failure}
    (h : a w = .error f w') : Quiet allowed w w' := by
  have := ha w
  rwa [after_of_error h] at this

theorem pure (x : α) : Quietly allowed (Pure.pure x : Action π τ α) := fun w => .refl w

theorem throw (f : Failure) : Quietly allowed (throw f : Action π τ α) := fun w => .refl w

theorem ofExcept (r : Except Failure α) : Quietly allowed (Action.ofExcept r : Action π τ α) := by
  cases r <;> exact fun w => .refl w

theorem refuse {ρ : Type} [Cause ρ] (reason : ρ) :
    Quietly allowed (Action.refuse reason : Action π τ α) := throw _

theorem get : Quietly allowed (MonadState.get : Action π τ (World π τ)) := fun w => .refl w

theorem bind {f : α → Action π τ β} (ha : a.Quietly allowed) (hf : ∀ x, (f x).Quietly allowed) :
    (a >>= f).Quietly allowed := by
  intro w
  unfold after
  rw [bind_eq]
  cases h : a w with
  | ok x w' => exact (ha.of_ok h).trans (hf x w')
  | error e w' => exact ha.of_error h

theorem map (ha : a.Quietly allowed) (f : α → β) : (f <$> a).Quietly allowed := fun w => by
  rw [after_map]
  exact ha w

theorem tryCatch {handle : Failure → Action π τ α} (ha : a.Quietly allowed)
    (hh : ∀ f, (handle f).Quietly allowed) : (tryCatch a handle).Quietly allowed := by
  intro w
  unfold after
  rw [tryCatch_eq]
  cases h : a w with
  | ok x w' => exact ha.of_ok h
  | error f w' => exact (ha.of_error h).trans (hh f w')

theorem ask [Platform π τ] {call : Call τ} (h : allowed call) :
    Quietly allowed (TrustGate.ask call : Action π τ (Reply call)) := fun w => w.quiet_asked h

end Quietly

end Action

/-! ## Inquiries -/

/-- An action that asks allowed calls and decides by the answers, and does nothing else. -/
inductive Inquires [Platform π τ] (allowed : Call τ → Prop) {α : Type} : Action π τ α → Prop
  | ofExcept (r : Except Failure α) : Inquires allowed (Action.ofExcept r)
  | ask {call : Call τ} {next : Reply call → Action π τ α} : allowed call →
      (∀ reply, Inquires allowed (next reply)) → Inquires allowed (TrustGate.ask call >>= next)

namespace Inquires

open TrustGate.Action (bind_eq bind_of_ok map_eq)

variable [Platform π τ] {α β : Type} {a : Action π τ α}

theorem pure (x : α) : Inquires allowed (Pure.pure x : Action π τ α) := .ofExcept (.ok x)

theorem throw (f : Failure) : Inquires allowed (MonadExcept.throw f : Action π τ α) :=
  .ofExcept (.error f)

theorem refuse {ρ : Type} [Cause ρ] (reason : ρ) :
    Inquires allowed (Action.refuse reason : Action π τ α) := throw _

theorem bind {f : α → Action π τ β} (ha : Inquires allowed a)
    (hf : ∀ x, Inquires allowed (f x)) : Inquires allowed (a >>= f) := by
  induction ha with
  | ofExcept r =>
    cases r with
    | ok x => exact hf x
    | error e => exact throw e
  | @ask call next hcall _ ih =>
    have hassoc : (TrustGate.ask call >>= next) >>= f =
        TrustGate.ask call >>= fun reply => next reply >>= f := by
      funext w
      rw [bind_eq, bind_of_ok (w.ask_asked call), bind_of_ok (w.ask_asked call), bind_eq]
    rw [hassoc]
    exact .ask hcall ih

theorem map (f : α → β) (ha : Inquires allowed a) : Inquires allowed (f <$> a) := by
  have hbind : f <$> a = a >>= fun x => Pure.pure (f x) := by
    funext w
    rw [map_eq, bind_eq]
    cases a w <;> rfl
  rw [hbind]
  exact ha.bind fun x => pure (f x)

theorem single {call : Call τ} (h : allowed call) :
    Inquires allowed (TrustGate.ask call : Action π τ (Reply call)) :=
  .ask h pure

theorem quietly {wider : Call τ → Prop} (ha : Inquires allowed a)
    (hle : ∀ call, allowed call → wider call) : a.Quietly wider := by
  induction ha with
  | ofExcept r => exact .ofExcept r
  | ask hcall _ ih => exact .bind (.ask (hle _ hcall)) ih

end Inquires

/-! ## The journal -/

section

variable [Platform π τ]

/-- What emitting a record comes to. -/
theorem emit_eq (logger : String) (level : Int) (template : String) (args : List Value)
    (details : List (String × Value)) (failure : Option Failure) (w : World π τ) :
    emit logger level template args details failure w =
      if w.journal.isEnabled logger level then
        match (Logging.Record.make logger level (.text template) args
            (Platform.recordTime τ w.platform) failure).withDetails details with
        | .ok r => .ok () { w with journal := w.journal.write r }
        | .error f => .error f w
      else .ok () w := by
  unfold emit
  rw [Action.bind_eq]
  change (ite _ _ _ : Action π τ Unit) w = _
  split
  · rw [Action.bind_eq]
    cases (Logging.Record.make logger level (.text template) args
      (Platform.recordTime τ w.platform) failure).withDetails details <;> rfl
  · rfl

/-- Whatever becomes of a record, only the journal can change. -/
theorem emit_quietly {logger : String} {level : Int} {template : String} {args : List Value}
    {details : List (String × Value)} {failure : Option Failure} :
    Action.Quietly allowed
      (emit logger level template args details failure : Action π τ Unit) := by
  intro w
  unfold Action.after
  rw [emit_eq]
  by_cases he : w.journal.isEnabled logger level
  · rw [if_pos he]
    cases (Logging.Record.make logger level (.text template) args
      (Platform.recordTime τ w.platform) failure).withDetails details with
    | ok r => exact ⟨.refl w, rfl, rfl, rfl⟩
    | error f => exact .refl w
  · rw [if_neg he]
    exact .refl w

/-- A record without details is always made. -/
theorem emit_ok (logger : String) (level : Int) (template : String) (args : List Value)
    (failure : Option Failure) (w : World π τ) :
    ∃ j, emit logger level template args [] failure w = .ok () { w with journal := j } := by
  rw [emit_eq]
  split
  · exact ⟨_, rfl⟩
  · exact ⟨w.journal, rfl⟩

theorem warningLog_ok (logger template : String) (args : List Value) (w : World π τ) :
    ∃ j, warningLog logger template args w = .ok () { w with journal := j } :=
  emit_ok ..

theorem debugLog_ok (logger template : String) (args : List Value) (w : World π τ) :
    ∃ j, debugLog logger template args w = .ok () { w with journal := j } :=
  emit_ok ..

end

/-! ## Observers and validators -/

namespace Trust

open TrustGate.Action (Quietly)

variable [Platform π τ]

theorem logCertificates_quietly (logger : String) (level : Int)
    (index : Nat) (chain : List Certificate) :
    Quietly allowed (logCertificates logger level index chain : Action π τ Unit) := by
  induction chain generalizing index with
  | nil => exact .pure ()
  | cons c cs ih =>
    unfold logCertificates logCertificate
    exact .bind (.bind (.ofExcept _) fun d => emit_quietly) fun _ => ih (index + 1)

theorem Observer.tell_quietly (observer : Observer) (event : TrustEvent) :
    Quietly allowed (observer.tell event : Action π τ Unit) := by
  cases observer with
  | logging logger level =>
    unfold tell
    refine .bind .get fun w => ?_
    split
    · exact .bind (emit_quietly) fun _ => logCertificates_quietly _ _ _ _
    · exact .pure ()
  | uncallable typeName shown => exact .refuse _
  | custom name answer =>
    intro w
    have htold : Quiet allowed w { w with
        told := (name, event) :: w.told
        history := .observed name event :: w.history } :=
      ⟨⟨[.observed name event], rfl, by simp [Happening.Within]⟩, rfl, rfl, rfl⟩
    unfold tell Action.after
    simp only [Action.bind_eq, Action.get_eq, Action.set_eq]
    cases answer ((w.told.filter (·.1 == name)).map (·.2)) event with
    | some f => exact htold
    | none => exact htold

theorem Observer.notify_quietly (observer : Observer) (event : TrustEvent) :
    Quietly allowed (observer.notify event : Action π τ Unit) := by
  unfold notify
  refine .tryCatch (tell_quietly observer event) fun f => ?_
  split
  · exact emit_quietly
  · exact .throw f

namespace ChainValidator

theorem now_inquires (v : ChainValidator) :
    Inquires Call.IsJudging (v.now : Action π τ Time.DateTime) := by
  unfold now
  split
  · exact .single trivial
  · exact .single trivial

theorem checkAnchor_inquires (v : ChainValidator) (leaf : Certificate)
    (subject : Option Net.Subject) (target : String) :
    Inquires Call.IsJudging (v.checkAnchor leaf subject target : Action π τ Unit) := by
  have named (s : Net.Subject) : Inquires Call.IsJudging (do
      if !Net.matchesAny (← Action.ofExcept leaf.leafNames) s then
        Action.refuse (Rejection.otherName target) : Action π τ Unit) := by
    refine .bind (.ofExcept _) fun names => ?_
    split
    · exact .refuse _
    · exact .pure ()
  unfold checkAnchor
  refine .bind v.now_inquires fun now => .bind (.ofExcept _) fun valid => ?_
  simp only []
  split
  · refine .bind (.refuse _) fun _ => ?_
    split
    · exact named _
    · exact .pure ()
  · split
    · exact named _
    · exact .pure ()

theorem checkIssued_inquires (v : ChainValidator) (leaf : Certificate) (rest : List Certificate)
    (subject : Net.Subject) (target authType : String) :
    Inquires Call.IsJudging
      (v.checkIssued leaf rest subject target authType : Action π τ Unit) := by
  unfold checkIssued
  simp only []
  split
  -- at whatever time the verifier is to look at the chain, it is asked once
  all_goals
    refine .bind ?_ fun time => .bind (.ofExcept _) fun _ => .ask trivial fun verdict => ?_
    rotate_left
    · split
      · exact .pure ()
      · exact .throw _
  · exact .map _ (.bind v.now_inquires fun _ => .ofExcept _)
  · exact .pure _

/-- A chain validator asks for the time and for a verdict, and decides by the answers. -/
theorem check_inquires (v : ChainValidator) (chain : List Certificate) (authType : String)
    (host : Option String) :
    Inquires Call.IsJudging (v.check chain authType host : Action π τ Unit) := by
  cases chain with
  | nil => exact .refuse _
  | cons leaf rest =>
    unfold check
    simp only []
    split
    -- however the subject was found, either the leaf is an anchor or a verifier is asked
    all_goals
      refine .bind ?_ fun subject => ?_
      rotate_left
      · split
        · exact v.checkAnchor_inquires leaf subject _
        · split
          · exact .refuse _
          · exact v.checkIssued_inquires leaf rest _ _ authType
    · exact .refuse _
    · exact .map _ (.ofExcept _)
    · exact .map _ (.ofExcept _)

end ChainValidator

/-- Whoever is asked about a chain, asking makes no calls but inquiries. -/
theorem Provider.check_quietly (p : Provider) (chain : List Certificate) (authType : String)
    (host : Option String) :
    Quietly Call.IsInquiry (p.check chain authType host : Action π τ Unit) := by
  induction p with
  | chain v => exact (v.check_inquires chain authType host).quietly Call.IsJudging.isInquiry
  | delegate validator observer ih => exact .bind (observer.notify_quietly _) fun _ => ih
  | custom c =>
    exact .bind (.ofExcept _) fun _ => .bind (.ask trivial) fun _ => .ofExcept _
  | trust m => exact .refuse _
  | identity m => exact .refuse _
  | other t => exact .refuse _

end Trust

end TrustGate
