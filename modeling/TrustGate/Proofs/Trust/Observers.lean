import TrustGate.Proofs.Certificate.Faults
import TrustGate.Proofs.Coupling

/-!
# Observers only listen

A mild observer fails with exceptions only.  The observers that come with the library are
mild: a certificate that cannot be described is no reason to stop the program.  Telling a
mild observer of a chain succeeds, and nothing comes of it but what it heard and records:

    o.notify event w = .ok () { o.hear event w with journal := j }     (notify_mild)

So a chain is checked alike whoever observes it, from any two worlds that differ only in
journals and in what observers were told:

    p.Alike Q q    `p` and `q` differ only in their observers, and in these as `Q` allows
    w.Alike v      the worlds differ only in what mild observers may change
    Steady Q I     `I` is kept by all that is done with sessions, and by telling observers
    p.check … and q.check …  end alike if `I` is steady                   (Alike.check)

`notes` is what a history says about who was told of a chain and who was consulted on it.
Checking a chain adds the notes of the provider to it (notes_check).
-/

namespace TrustGate

/-- A result, or a failure that is an exception. -/
def Mild {α : Type} (r : Except Failure α) : Prop := ∀ f, r = .error f → f.kind.isException = true

theorem Certificate.describe_mild (c : Certificate) : Mild c.describe :=
  c.describe_faults.mono fun _ => IsFault.isException

/-- Details that may not be set make an exception. -/
theorem Logging.Record.withDetails_mild (details : List (String × Value)) (r : Record) :
    Mild (r.withDetails details) := by
  induction details generalizing r with
  | nil => exact FailsAs.ok r
  | cons detail rest ih =>
    unfold withDetails
    split
    · exact FailsAs.error rfl
    · exact ih _

namespace Trust

variable {π τ : Type}

/-! ## What observers hear -/

namespace Observer

/-- What an observer that keeps what it is told hears of an event. -/
def heard (event : TrustEvent) : Observer → List (String × TrustEvent)
  | .custom name _ => [(name, event)]
  | .logging _ _ | .uncallable _ _ => []

/-- The world in which an observer has heard of an event. -/
def hear (o : Observer) (event : TrustEvent) (w : World π τ) : World π τ :=
  { w with
    told := o.heard event ++ w.told
    history := (o.heard event).map (fun x => .observed x.1 x.2) ++ w.history }

/-- Whatever it was told, it fails with exceptions only. -/
def IsMild : Observer → Prop
  | .custom _ answer => ∀ past event f, answer past event = some f → f.kind.isException = true
  | .logging _ _ | .uncallable _ _ => True

/-- An observer that does nothing. -/
def silent : Observer := .custom "" fun _ _ => none

theorem silent_isMild : silent.IsMild := by
  intro past event f h
  cases h

end Observer

variable [Platform π τ]

/-- An action that touches the journal at most and fails with exceptions only. -/
def Jots (a : Action π τ Unit) : Prop :=
  ∀ w, ∃ j, a w = .ok () { w with journal := j } ∨
    ∃ f, a w = .error f { w with journal := j } ∧ f.kind.isException = true

namespace Jots

omit [Platform π τ] in
theorem bind {a : Action π τ Unit} {k : Unit → Action π τ Unit} (ha : Jots a) (hk : Jots (k ())) :
    Jots (a >>= k) := by
  intro w
  obtain ⟨j, hj | ⟨f, hf, hmild⟩⟩ := ha w
  · rw [Action.bind_of_ok hj]
    exact hk _
  · rw [Action.bind_of_error hf]
    exact ⟨j, .inr ⟨f, rfl, hmild⟩⟩

theorem emit {logger : String} {level : Int} {template : String} {args : List Value}
    {details : List (String × Value)} {failure : Option Failure} :
    Jots (TrustGate.emit logger level template args details failure : Action π τ Unit) := by
  intro w
  rw [emit_eq]
  split
  · cases h : (Logging.Record.make logger level (.text template) args
        (Platform.recordTime τ w.platform) failure).withDetails details with
    | ok r => exact ⟨_, .inl rfl⟩
    | error f => exact ⟨w.journal, .inr ⟨f, rfl, Logging.Record.withDetails_mild _ _ f h⟩⟩
  · exact ⟨w.journal, .inl rfl⟩

theorem logCertificates (logger : String) (level : Int) (index : Nat)
    (chain : List Certificate) :
    Jots (Trust.logCertificates logger level index chain : Action π τ Unit) := by
  induction chain generalizing index with
  | nil =>
    intro w
    exact ⟨w.journal, .inl rfl⟩
  | cons c cs ih =>
    unfold Trust.logCertificates
    refine bind ?_ (ih (index + 1))
    unfold logCertificate
    cases h : c.describe with
    | ok d => exact emit
    | error f =>
      intro w
      exact ⟨w.journal, .inr ⟨f, rfl, c.describe_mild f h⟩⟩

end Jots

namespace Observer

/-- The world hears of the event at once; whatever follows, only the journal changes. -/
theorem tell_mild {o : Observer} (ho : o.IsMild) (event : TrustEvent) (w : World π τ) :
    ∃ j, o.tell event w = .ok () { o.hear event w with journal := j } ∨
      ∃ f, o.tell event w = .error f { o.hear event w with journal := j } ∧
        f.kind.isException = true := by
  cases o with
  | logging logger level =>
    unfold tell
    simp only []
    rw [Action.bind_of_ok (Action.get_eq w)]
    by_cases he : w.journal.isEnabled logger level
    · rw [if_pos he]
      exact Jots.bind .emit (.logCertificates logger level 1 event.chain) w
    · rw [if_neg he]
      exact ⟨w.journal, .inl rfl⟩
  | uncallable typeName shown => exact ⟨w.journal, .inr ⟨_, rfl, rfl⟩⟩
  | custom name answer =>
    refine ⟨w.journal, ?_⟩
    unfold tell
    simp only [Action.bind_eq, Action.get_eq, Action.set_eq]
    cases ha : answer ((w.told.filter (·.1 == name)).map (·.2)) event with
    | none => exact .inl rfl
    | some f => exact .inr ⟨f, rfl, ho _ _ f ha⟩

/-- Telling a mild observer succeeds. -/
theorem notify_mild {o : Observer} (ho : o.IsMild) (event : TrustEvent) (w : World π τ) :
    ∃ j, o.notify event w = .ok () { o.hear event w with journal := j } := by
  unfold notify
  obtain ⟨j, hj | ⟨f, hf, hmild⟩⟩ := tell_mild ho event w
  · exact ⟨j, Action.tryCatch_of_ok hj _⟩
  · rw [Action.tryCatch_of_error hf, if_pos hmild]
    exact emit_ok ..

end Observer

/-! ## Checks that differ in who observes them -/

/-- Both fail with exceptions only. -/
def Observer.BothMild (o o' : Observer) : Prop := o.IsMild ∧ o'.IsMild

namespace Provider

/-- All of its observers are mild, however deep they are. -/
def IsMild : Provider → Prop
  | .delegate validator o => validator.IsMild ∧ o.IsMild
  | .trust _ | .identity _ | .chain _ | .custom _ | .other _ => True

/-- The provider with observers that do nothing. -/
def muted : Provider → Provider
  | .delegate validator _ => .delegate validator.muted .silent
  | p => p

/-- They differ in their observers at most, and in these as `Q` allows. -/
inductive Alike (Q : Observer → Observer → Prop) : Provider → Provider → Prop
  | trust (m : TrustMaterial) : Alike Q (.trust m) (.trust m)
  | identity (m : IdentityMaterial) : Alike Q (.identity m) (.identity m)
  | chain (v : ChainValidator) : Alike Q (.chain v) (.chain v)
  | delegate {p q : Provider} {o o' : Observer} : Alike Q p q → Q o o' →
      Alike Q (.delegate p o) (.delegate q o')
  | custom (c : Custom) : Alike Q (.custom c) (.custom c)
  | other (t : Thing) : Alike Q (.other t) (.other t)

variable {Q : Observer → Observer → Prop}

theorem alike_refl (hQ : ∀ o, Q o o) (p : Provider) : Alike Q p p := by
  induction p with
  | trust m => exact .trust m
  | identity m => exact .identity m
  | chain v => exact .chain v
  | delegate validator o ih => exact .delegate ih (hQ o)
  | custom c => exact .custom c
  | other t => exact .other t

theorem alike_muted {p : Provider} (h : p.IsMild) : Alike Observer.BothMild p p.muted := by
  induction p with
  | trust m => exact .trust m
  | identity m => exact .identity m
  | chain v => exact .chain v
  | delegate validator o ih => exact .delegate (ih h.1) ⟨h.2, Observer.silent_isMild⟩
  | custom c => exact .custom c
  | other t => exact .other t

theorem forall₂_alike_muted {ps : List Provider} (h : ∀ p ∈ ps, p.IsMild) :
    ps.Forall₂ (Alike Observer.BothMild) (ps.map muted) :=
  List.forall₂_map_right_iff.mpr (List.forall₂_same.mpr fun p hp => alike_muted (h p hp))

theorem Alike.isChainValidator {p q : Provider} (h : Alike Q p q) :
    p.isChainValidator = q.isChainValidator := by
  cases h <;> rfl

theorem Alike.typeName {p q : Provider} (h : Alike Q p q) : p.typeName = q.typeName := by
  cases h <;> rfl

end Provider

end Trust

open Trust (Observer Provider)

/-- Sessions that differ in the observers of their validators at most. -/
structure Session.Alike (Q : Observer → Observer → Prop) (s t : Session) : Prop where
  host : s.host = t.host
  validators : s.validators.Forall₂ (Provider.Alike Q) t.validators
  verified : s.verified = t.verified
  isOpen : s.isOpen = t.isOpen

/-- A relation of worlds that is kept by whatever is done with sessions on both sides alike, if
observers differ as `Q` allows. -/
structure Steady {π τ : Type} [Platform π τ] (Q : Observer → Observer → Prop)
    (I : World π τ → World π τ → Prop) : Prop where
  ask : ∀ call : Call τ, call ≠ .monotonicClock →
    Action.Coupled I Eq (TrustGate.ask call : Action π τ (Reply call)) (TrustGate.ask call)
  notify : ∀ {o o' : Observer}, Q o o' → ∀ event : Trust.TrustEvent,
    Action.Coupled I Eq (o.notify event : Action π τ Unit) (o'.notify event)
  journal : ∀ {w v : World π τ}, I w v → ∀ j k : Logging.Journal,
    I { w with journal := j } { v with journal := k }
  count : ∀ {w v : World π τ}, I w v → ∀ f : Metrics.Counters → Metrics.Counters,
    I { w with counters := f w.counters } { v with counters := f v.counters }
  sessions : ∀ {w v : World π τ}, I w v → ∀ id : SocketId,
    Option.Rel (Session.Alike Q) (w.sessions id) (v.sessions id)
  setSession : ∀ {w v : World π τ}, I w v → ∀ (id : SocketId) {s t : Session},
    Session.Alike Q s t → I (w.setSession id s) (v.setSession id t)

/-- What is recorded makes no difference if journals do not. -/
theorem emit_coupled {π τ : Type} [Platform π τ] {I : World π τ → World π τ → Prop}
    (hjournal : ∀ w v : World π τ, I w v → ∀ j k : Logging.Journal,
      I { w with journal := j } { v with journal := k })
    (logger : String) (level : Int) (template : String) (args : List Value)
    (failure : Option Failure) :
    Action.Coupled I Eq (emit logger level template args [] failure : Action π τ Unit)
      (emit logger level template args [] failure) := by
  intro w v h
  obtain ⟨j, hj⟩ := emit_ok logger level template args failure w
  obtain ⟨k, hk⟩ := emit_ok logger level template args failure v
  rw [hj, hk]
  exact .ok rfl (hjournal w v h j k)

/-- Whoever observes it, a check ends alike. -/
theorem Trust.Provider.Alike.check {π τ : Type} [Platform π τ] {Q : Observer → Observer → Prop}
    {I : World π τ → World π τ → Prop} (hI : Steady Q I) {p q : Provider} (h : p.Alike Q q)
    (chain : List Certificate) (authType : String) (host : Option String) :
    Action.Coupled I Eq (p.check chain authType host : Action π τ Unit)
      (q.check chain authType host) := by
  induction h with
  | trust m => exact .refuse _
  | identity m => exact .refuse _
  | chain v =>
    refine (v.check_inquires chain authType host).coupled fun call hcall => hI.ask call ?_
    rintro rfl
    exact hcall
  | delegate hp ho ih =>
    unfold Provider.check
    rw [hp.typeName]
    exact .bind_same (hI.notify ho _) fun _ => ih
  | custom c =>
    exact .bind_same (.ofExcept _) fun _ => .bind_same (hI.ask _ nofun) fun _ => .ofExcept _
  | other t => exact .refuse _

/-- Whether the library called the platform. -/
def Happening.isCall {τ : Type} : Happening τ → Bool
  | .called _ _ => true
  | .observed _ _ => false

variable {π τ : Type}

/-- The calls of the platform with their answers, newest first. -/
def World.calls (w : World π τ) : List (Happening τ) := w.history.filter (·.isCall)

/-- Worlds that differ at most in their journals, in what observers were told and in the observers
of validators, which are mild. -/
structure World.Alike (w v : World π τ) : Prop where
  platform : w.platform = v.platform
  files : w.files = v.files
  systemLog : w.systemLog = v.systemLog
  calls : w.calls = v.calls
  counters : w.counters = v.counters
  nextSocket : w.nextSocket = v.nextSocket
  nextEngine : w.nextEngine = v.nextEngine
  sessions : ∀ id, Option.Rel (Session.Alike Observer.BothMild) (w.sessions id) (v.sessions id)

/-- All observers of the validators of its sessions are mild. -/
def World.IsMild (w : World π τ) : Prop :=
  ∀ id s, w.sessions id = some s → ∀ p ∈ s.validators, p.IsMild

/-- The session with observers that do nothing. -/
def Session.muted (s : Session) : Session :=
  { s with validators := s.validators.map Provider.muted }

/-- The world with observers that do nothing. -/
def World.muted (w : World π τ) : World π τ :=
  { w with sessions := fun id => (w.sessions id).map Session.muted }

theorem World.alike_muted {w : World π τ} (h : w.IsMild) : w.Alike w.muted := by
  refine ⟨rfl, rfl, rfl, rfl, rfl, rfl, rfl, fun id => ?_⟩
  show Option.Rel _ (w.sessions id) ((w.sessions id).map Session.muted)
  cases hs : w.sessions id with
  | none => exact .none
  | some s => exact .some ⟨rfl, Provider.forall₂_alike_muted (h id s hs), rfl, rfl⟩

/-- Sessions that are set alike. -/
theorem rel_setSession {Q : Observer → Observer → Prop} {w v : World π τ}
    (h : ∀ id, Option.Rel (Session.Alike Q) (w.sessions id) (v.sessions id)) (id : SocketId)
    {s t : Session} (hst : Session.Alike Q s t) (other : SocketId) :
    Option.Rel (Session.Alike Q) ((w.setSession id s).sessions other)
      ((v.setSession id t).sessions other) := by
  by_cases hid : other = id
  · subst hid
    rw [World.sessions_setSession_self, World.sessions_setSession_self]
    exact .some hst
  · rw [World.sessions_setSession_of_ne w s hid, World.sessions_setSession_of_ne v t hid]
    exact h other

namespace World.Alike

variable {w v : World π τ}

theorem journal (h : w.Alike v) (j k : Logging.Journal) :
    World.Alike { w with journal := j } { v with journal := k } :=
  ⟨h.platform, h.files, h.systemLog, h.calls, h.counters, h.nextSocket, h.nextEngine, h.sessions⟩

theorem hear (h : w.Alike v) (o o' : Observer) (event event' : Trust.TrustEvent) :
    (o.hear event w).Alike (o'.hear event' v) := by
  have hcalls (o : Observer) (event : Trust.TrustEvent) (w : World π τ) :
      (o.hear event w).calls = w.calls := by
    cases o <;> rfl
  refine ⟨h.platform, h.files, h.systemLog, ?_, h.counters, h.nextSocket, h.nextEngine, h.sessions⟩
  rw [hcalls, hcalls, h.calls]

variable [Platform π τ]

theorem reply (h : w.Alike v) (call : Call τ) : w.reply call = v.reply call := by
  unfold World.reply
  rw [h.platform]

theorem asked (h : w.Alike v) (call : Call τ) : (w.asked call).Alike (v.asked call) := by
  refine ⟨?_, h.files, h.systemLog, ?_, h.counters, h.nextSocket, h.nextEngine, h.sessions⟩
  · unfold World.asked
    rw [h.platform]
  · have hnew (w : World π τ) :
        (w.asked call).calls = .called call (w.reply call) :: w.calls := rfl
    rw [hnew, hnew, h.reply, h.calls]

end World.Alike

/-- What observers do makes no difference but to them. -/
theorem steady_alike [Platform π τ] :
    Steady Observer.BothMild (World.Alike : World π τ → World π τ → Prop) where
  ask call _ w v h := by
    rw [w.ask_asked, v.ask_asked]
    exact .ok (h.reply call) (h.asked call)
  notify {o o'} hmild event w v h := by
    obtain ⟨j, hj⟩ := Observer.notify_mild hmild.1 event w
    obtain ⟨k, hk⟩ := Observer.notify_mild hmild.2 event v
    rw [hj, hk]
    exact .ok rfl ((h.hear o o' event event).journal j k)
  journal h j k := h.journal j k
  count h f := ⟨h.platform, h.files, h.systemLog, h.calls, congrArg f h.counters, h.nextSocket,
    h.nextEngine, h.sessions⟩
  sessions h := h.sessions
  setSession h id _ _ hst := ⟨h.platform, h.files, h.systemLog, h.calls, h.counters, h.nextSocket,
    h.nextEngine, rel_setSession h.sessions id hst⟩

namespace Trust

/-! ## Who was told and who was consulted -/

/-- What a history says about a check. -/
inductive Note where
  | told (observer : String) (event : TrustEvent)
  | consulted (c : Consultation)

end Trust

/-- What a happening says about a check. -/
def Happening.note? {τ : Type} : Happening τ → Option Trust.Note
  | .observed observer event => some (.told observer event)
  | .called (.consult c) _ => some (.consulted c)
  | .called _ _ => none

/-- Who was told of a chain and who was consulted, oldest first. -/
def World.notes (w : World π τ) : List Trust.Note := w.history.reverse.filterMap (·.note?)

variable [Platform π τ]

theorem World.notes_asked (w : World π τ) (call : Call τ) :
    (w.asked call).notes =
      w.notes ++ (Happening.note? (.called call (w.reply call))).toList := by
  unfold World.notes World.asked
  rw [List.reverse_cons, List.filterMap_append]
  cases h : Happening.note? (.called call (w.reply call)) with
  | none => simp [h]
  | some note => simp [h]

omit [Platform π τ] in
theorem World.notes_hear (w : World π τ) (o : Trust.Observer) (event : Trust.TrustEvent) :
    (o.hear event w).notes = w.notes ++ (o.heard event).map fun x => .told x.1 x.2 := by
  cases o with
  | custom name answer =>
    unfold World.notes Trust.Observer.hear
    simp [Trust.Observer.heard, Happening.note?]
  | logging logger level => exact (List.append_nil _).symm
  | uncallable typeName shown => exact (List.append_nil _).symm

/-- Nobody is told and no other object is consulted when a chain validator judges. -/
theorem Inquires.notes_after {α : Type} {a : Action π τ α} (ha : Inquires Call.IsJudging a)
    (w : World π τ) : (a.after w).notes = w.notes := by
  induction ha generalizing w with
  | ofExcept r => cases r <;> rfl
  | @ask call next hcall _ ih =>
    have hafter : (TrustGate.ask call >>= next).after w =
        (next (w.reply call)).after (w.asked call) := by
      unfold Action.after
      rw [Action.bind_of_ok (w.ask_asked call)]
    rw [hafter, ih, w.notes_asked]
    cases call <;> first | exact List.append_nil _ | exact hcall.elim

namespace Trust

/-- Who is told and who is consulted when a provider is asked about a chain: each delegate tells
its own observer once, before the validator behind it is asked. -/
def Provider.notes (chain : List Certificate) (authType : String) (host : Option String) :
    Provider → List Note
  | .delegate validator o =>
    ((o.heard ⟨chain, authType, host, validator.typeName⟩).map fun x => .told x.1 x.2) ++
      validator.notes chain authType host
  | .custom c =>
    if c.check = .usable then [.consulted ⟨c, chain, authType, host⟩] else []
  | .trust _ | .identity _ | .chain _ | .other _ => []

/-- A delegate passes the chain on to its validator, and its observer has heard of it by then. -/
theorem Provider.check_delegate {o : Observer} (ho : o.IsMild) (validator : Provider)
    (chain : List Certificate) (authType : String) (host : Option String) (w : World π τ) :
    ∃ j, (Provider.delegate validator o).check chain authType host w =
      validator.check chain authType host
        { o.hear ⟨chain, authType, host, validator.typeName⟩ w with journal := j } := by
  obtain ⟨j, hj⟩ := Observer.notify_mild ho ⟨chain, authType, host, validator.typeName⟩ w
  exact ⟨j, Action.bind_of_ok hj _⟩

/-- An object that can check chains is consulted. -/
theorem Provider.check_custom (c : Custom) (chain : List Certificate) (authType : String)
    (host : Option String) (w : World π τ) :
    (Provider.custom c).check chain authType host w =
      match c.check.demand c.typeName "check_server_trusted" with
      | .error f => .error f w
      | .ok _ =>
        match (w.reply (.consult ⟨c, chain, authType, host⟩) : Except Failure Unit) with
        | .ok _ => .ok () (w.asked (.consult ⟨c, chain, authType, host⟩))
        | .error f => .error f (w.asked (.consult ⟨c, chain, authType, host⟩)) := by
  unfold check
  cases c.check.demand c.typeName "check_server_trusted" with
  | error f => rfl
  | ok _ =>
    simp only []
    rw [Action.bind_of_ok (Action.ofExcept_ok _ w), Action.bind_of_ok (w.ask_asked _)]
    cases (w.reply (.consult ⟨c, chain, authType, host⟩) : Except Failure Unit) <;> rfl

/-- However it ends, a check leaves the notes of the provider. -/
theorem Provider.notes_check {p : Provider} (hp : p.IsMild) (chain : List Certificate)
    (authType : String) (host : Option String) (w : World π τ) :
    ((p.check chain authType host).after w).notes = w.notes ++ p.notes chain authType host := by
  induction p generalizing w with
  | trust m => exact (List.append_nil _).symm
  | identity m => exact (List.append_nil _).symm
  | other t => exact (List.append_nil _).symm
  | chain v =>
    have hjudge := (v.check_inquires chain authType host).notes_after w
    exact hjudge.trans (List.append_nil _).symm
  | delegate validator o ih =>
    obtain ⟨j, hj⟩ := check_delegate hp.2 validator chain authType host w
    have hhear := w.notes_hear o ⟨chain, authType, host, validator.typeName⟩
    have hinner := ih hp.1
      { o.hear ⟨chain, authType, host, validator.typeName⟩ w with journal := j }
    unfold Action.after at hinner ⊢
    rw [hj, hinner]
    show (o.hear ⟨chain, authType, host, validator.typeName⟩ w).notes ++ _ = _
    rw [hhear, List.append_assoc]
    rfl
  | custom c =>
    unfold Action.after
    rw [check_custom]
    unfold notes
    cases hc : c.check with
    | missing => exact (List.append_nil _).symm
    | unusable typeName => exact (List.append_nil _).symm
    | usable =>
      have hasked := w.notes_asked (.consult ⟨c, chain, authType, host⟩)
      rw [if_pos rfl]
      cases hr : (w.reply (.consult ⟨c, chain, authType, host⟩) : Except Failure Unit) with
      | ok _ => exact hasked
      | error f => exact hasked

end Trust

end TrustGate
