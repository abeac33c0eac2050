import TrustGate.Proofs.Connection.Arguments

/-!
# Two ways to a request

A request is made at once of all that it holds, or of timeouts that were made before it:

    Request.make …           looks at the host, the ports and the first timeout
    Request.staged …         looks at both timeouts, and then at all that `Request.make` looks at

What either comes to is said with

    Admits P x r             `r` is `x` if `P` holds, and the refusal of an argument otherwise

The two ways make the same requests of the same arguments but for one thing: a second timeout that
is not above zero is refused by the one and let through by the other (staged_eq_ok_iff).
-/

namespace TrustGate

/-! ## Checks that refuse arguments -/

/-- The result is `x` if `P` holds; otherwise an argument is refused. -/
inductive Admits {α : Type} (P : Prop) (x : α) : Except Failure α → Prop where
  | accepted (h : P) : Admits P x (.ok x)
  | refused {f : Failure} (h : ¬P) (kind : f.kind = .argument) : Admits P x (.error f)

namespace Admits

variable {α β : Type} {P Q : Prop} {x : α} {y : β} {r : Except Failure α}

theorem congr (hr : Admits P x r) (h : P ↔ Q) : Admits Q x r := by
  cases hr with
  | accepted hP => exact .accepted (h.mp hP)
  | refused hP kind => exact .refused (fun hQ => hP (h.mpr hQ)) kind

theorem bind {k : α → Except Failure β} (hr : Admits P x r) (hk : Admits Q y (k x)) :
    Admits (P ∧ Q) y (r >>= k) := by
  cases hr with
  | accepted hP => exact hk.congr (and_iff_right hP).symm
  | refused hP kind => exact .refused (fun h => hP h.1) kind

theorem yield (hr : Admits P x r) (y : β) : Admits P y (r >>= fun _ => .ok y) := by
  cases hr with
  | accepted hP => exact .accepted hP
  | refused hP kind => exact .refused hP kind

theorem eq_ok_iff (hr : Admits P x r) (z : α) : r = .ok z ↔ P ∧ z = x := by
  cases hr with
  | accepted hP =>
    constructor
    · intro h
      cases h
      exact ⟨hP, rfl⟩
    · rintro ⟨-, rfl⟩
      rfl
  | refused hP _ =>
    constructor
    · intro h
      cases h
    · exact fun h => absurd h.1 hP

theorem failsAs (hr : Admits P x r) : FailsAs (·.kind = .argument) r := by
  cases hr with
  | accepted _ => exact .ok x
  | refused _ kind => exact .error kind

end Admits

namespace Connection

/-! ## Timeouts -/

/-- A number: a whole one, as truth values and protocol versions are too, for which `whole` holds,
or a double for which `double` holds. -/
inductive IsNumber (whole : Int → Prop) (double : Float → Prop) : Value → Prop where
  | whole {v : Value} {i : Int} (hi : v.integer? = some i) (h : whole i) : IsNumber whole double v
  | double {x : Float} (h : double x) : IsNumber whole double (.float x)

/-- A number of any kind and size, infinite or not, or NaN. -/
def IsNumeric (v : Value) : Prop := IsNumber (fun _ => True) (fun _ => True) v

/-- NaN is not below zero. -/
def IsBelowZero (v : Value) : Prop := IsNumber (· < 0) (· < 0.0) v

/-- NaN is not at or below zero. -/
def IsAtMostZero (v : Value) : Prop := IsNumber (· ≤ 0) (· ≤ 0.0) v

section

variable {whole : Int → Prop} {double : Float → Prop} {v : Value}

theorem isNumber_iff_of_integer? {i : Int} (hi : v.integer? = some i) :
    IsNumber whole double v ↔ whole i := by
  constructor
  · rintro (⟨hj, h⟩ | _)
    · cases hi.symm.trans hj
      exact h
    · cases hi
  · exact .whole hi

theorem isNumber_float_iff {x : Float} : IsNumber whole double (.float x) ↔ double x := by
  constructor
  · rintro (⟨hi, -⟩ | h)
    · cases hi
    · exact h
  · exact .double

/-- A test that decides by the kind of number answers for every number. -/
theorem answers_of_isNumeric [DecidablePred whole] [DecidablePred double]
    {test : Value → Option Bool}
    (hwhole : ∀ {v i}, v.integer? = some i → test v = some (decide (whole i)))
    (hdouble : ∀ x, test (.float x) = some (decide (double x))) (h : IsNumeric v) :
    ∃ b, test v = some b ∧ (b = true ↔ IsNumber whole double v) := by
  cases h with
  | whole hi _ =>
    exact ⟨_, hwhole hi, decide_eq_true_iff.trans (isNumber_iff_of_integer? hi).symm⟩
  | @double x _ =>
    exact ⟨_, hdouble x, decide_eq_true_iff.trans isNumber_float_iff.symm⟩

theorem isNegative?_eq (h : IsNumeric v) :
    ∃ b, v.isNegative? = some b ∧ (b = true ↔ IsBelowZero v) := by
  refine answers_of_isNumeric (fun {v i} hi => ?_) (fun x => rfl) h
  cases v <;> cases hi <;> rfl

theorem isNonpositive?_eq (h : IsNumeric v) :
    ∃ b, v.isNonpositive? = some b ∧ (b = true ↔ IsAtMostZero v) := by
  refine answers_of_isNumeric (fun {v i} hi => ?_) (fun x => rfl) h
  cases v <;> cases hi <;> rfl

theorem checkConnectTimeout_admits (h : IsNumeric v) :
    Admits (¬IsBelowZero v) () (checkConnectTimeout v) := by
  obtain ⟨b, hb, hiff⟩ := isNegative?_eq h
  unfold checkConnectTimeout
  rw [hb]
  cases b with
  | true => exact .refused (not_not_intro (hiff.mp rfl)) rfl
  | false => exact .accepted fun hbelow => Bool.false_ne_true (hiff.mpr hbelow)

/-- No second timeout is as good as one above zero. -/
theorem checkSoTimeout_admits (h : v = .null ∨ IsNumeric v) :
    Admits (¬IsAtMostZero v) () (checkSoTimeout v) := by
  rcases h with rfl | h
  · refine .accepted ?_
    rintro ⟨hi, -⟩
    cases hi
  · obtain ⟨b, hb, hiff⟩ := isNonpositive?_eq h
    unfold checkSoTimeout
    split
    · cases hb
    · rw [hb]
      cases b with
      | true => exact .refused (not_not_intro (hiff.mp rfl)) rfl
      | false => exact .accepted fun hatmost => Bool.false_ne_true (hiff.mpr hatmost)

end

/-! ## Requests -/

variable (host : String) (port localAddress localPort connectTimeout soTimeout : Value)

/-- What is looked at when a request is made at once. -/
structure Acceptable : Prop where
  host : host ≠ ""
  port : IsPort port
  /-- A local port that is not given, such as zero, is left to the system. -/
  localPort : localPort.isGiven = true → IsPort localPort
  connectTimeout : ¬IsBelowZero connectTimeout

theorem checkPort_admits (field : String) : Admits (IsPort port) () (checkPort field port) := by
  by_cases hport : IsPort port
  · rw [checkPort_of_isPort hport]
    exact .accepted hport
  · rw [checkPort_of_not_isPort hport]
    exact .refused hport rfl

/-- The checks of a request, in order; a local port of zero is none. -/
theorem Request.make_eq :
    Request.make (.text host) port localAddress localPort connectTimeout soTimeout =
      ((if host = "" then refuse RequestFault.emptyHost else .ok ()) >>= fun _ =>
        checkPort "port" port >>= fun _ =>
        (if localPort.isGiven then checkPort "local_port" localPort else .ok ()) >>= fun _ =>
        checkConnectTimeout connectTimeout >>= fun _ =>
        .ok ⟨.text host, port, localAddress, localPort, connectTimeout, soTimeout⟩) := by
  -- what follows an optional check is repeated on both of its branches, so the branches are split
  unfold Request.make
  by_cases hhost : host = ""
  · rw [if_pos hhost, hhost]
    rfl
  · have hgiven : (Value.text host).isGiven = true := by simpa [Value.isGiven] using hhost
    rw [if_neg hhost, hgiven]
    cases localPort.isGiven <;> rfl

variable {connectTimeout}

theorem make_admits (hconnect : IsNumeric connectTimeout) :
    Admits (Acceptable host port localPort connectTimeout)
      ⟨.text host, port, localAddress, localPort, connectTimeout, soTimeout⟩
      (Request.make (.text host) port localAddress localPort connectTimeout soTimeout) := by
  have hhost : Admits (host ≠ "") ()
      (if host = "" then refuse RequestFault.emptyHost else .ok ()) := by
    split
    · next hempty => exact .refused (not_not_intro hempty) rfl
    · next hne => exact .accepted hne
  have hlocal : Admits (localPort.isGiven = true → IsPort localPort) ()
      (if localPort.isGiven then checkPort "local_port" localPort else .ok ()) := by
    split
    · next hgiven => exact (checkPort_admits localPort "local_port").congr (by simp [hgiven])
    · next hmissing => exact .accepted fun hgiven => absurd hgiven hmissing
  rw [Request.make_eq]
  refine (hhost.bind <| (checkPort_admits port "port").bind <| hlocal.bind <|
    (checkConnectTimeout_admits hconnect).yield _).congr ?_
  constructor
  · rintro ⟨hhost, hport, hlocal, htimeout⟩
    exact ⟨hhost, hport, hlocal, htimeout⟩
  · rintro ⟨hhost, hport, hlocal, htimeout⟩
    exact ⟨hhost, hport, hlocal, htimeout⟩

variable {soTimeout}

theorem params_make_admits (hconnect : IsNumeric connectTimeout)
    (hso : soTimeout = .null ∨ IsNumeric soTimeout) :
    Admits (¬IsBelowZero connectTimeout ∧ ¬IsAtMostZero soTimeout) ⟨connectTimeout, soTimeout⟩
      (Params.make connectTimeout soTimeout) :=
  (checkConnectTimeout_admits hconnect).bind ((checkSoTimeout_admits hso).yield _)

/-- A request of timeouts that are made first. -/
def Request.staged (host port localAddress localPort connectTimeout soTimeout : Value) :
    Except Failure Request := do
  let params ← Params.make connectTimeout soTimeout
  Request.withParams host port localAddress localPort params

theorem staged_admits (hconnect : IsNumeric connectTimeout)
    (hso : soTimeout = .null ∨ IsNumeric soTimeout) :
    Admits (Acceptable host port localPort connectTimeout ∧ ¬IsAtMostZero soTimeout)
      ⟨.text host, port, localAddress, localPort, connectTimeout, soTimeout⟩
      (Request.staged (.text host) port localAddress localPort connectTimeout soTimeout) := by
  refine ((params_make_admits hconnect hso).bind
    (make_admits host port localAddress localPort soTimeout hconnect)).congr ?_
  constructor
  · rintro ⟨⟨-, hpositive⟩, hacceptable⟩
    exact ⟨hacceptable, hpositive⟩
  · rintro ⟨hacceptable, hpositive⟩
    exact ⟨⟨hacceptable.connectTimeout, hpositive⟩, hacceptable⟩

/-- For any host, any ports and any numbers as timeouts, both ways make a request of what they are
given or refuse an argument.  Timeouts made first let through what the request itself lets
through, except for a second timeout that is not above zero. -/
theorem Request.staged_eq_ok_iff (hconnect : IsNumeric connectTimeout)
    (hso : soTimeout = .null ∨ IsNumeric soTimeout) :
    (∀ r, Request.make (.text host) port localAddress localPort connectTimeout soTimeout = .ok r ↔
        Acceptable host port localPort connectTimeout ∧
          r = ⟨.text host, port, localAddress, localPort, connectTimeout, soTimeout⟩) ∧
      (∀ r, Request.staged (.text host) port localAddress localPort connectTimeout soTimeout =
          .ok r ↔
        Request.make (.text host) port localAddress localPort connectTimeout soTimeout = .ok r ∧
          ¬IsAtMostZero soTimeout) ∧
      FailsAs (·.kind = .argument)
        (Request.make (.text host) port localAddress localPort connectTimeout soTimeout) ∧
      FailsAs (·.kind = .argument)
        (Request.staged (.text host) port localAddress localPort connectTimeout soTimeout) := by
  have hmake := make_admits host port localAddress localPort soTimeout hconnect
  have hstaged := staged_admits host port localAddress localPort hconnect hso
  refine ⟨hmake.eq_ok_iff, fun r => ?_, hmake.failsAs, hstaged.failsAs⟩
  rw [hstaged.eq_ok_iff, hmake.eq_ok_iff, and_right_comm]

/-- A request with a second timeout of zero can be made at once, but not of timeouts. -/
theorem Request.staged_eq_ok_iff_zero :
    Request.make (.text "localhost") (.int 443) .null (.int 0) defaultConnectTimeout (.int 0) =
        .ok ⟨.text "localhost", .int 443, .null, .int 0, defaultConnectTimeout, .int 0⟩ ∧
      ∀ r, Request.staged (.text "localhost") (.int 443) .null (.int 0) defaultConnectTimeout
        (.int 0) ≠ .ok r := by
  have hconnect : IsNumeric defaultConnectTimeout := .double trivial
  have hso : IsNumeric (.int 0) := .whole rfl trivial
  obtain ⟨-, hstaged, -, -⟩ :=
    Request.staged_eq_ok_iff "localhost" (.int 443) .null (.int 0) hconnect (.inr hso)
  refine ⟨by rfl, ?_⟩
  intro r hr
  exact ((hstaged r).mp hr).2 (.whole rfl (Int.le_refl 0))

end Connection

end TrustGate
