import TrustGate.Json.Reader
import TrustGate.Proofs.Decimal.Shortest

/-!
# Numbers in documents

A number that a document writes is read back, up to the first character that cannot belong to it:

    takeNumber? (toString i ++ rest) = some (int i, rest)      (takeNumber?_int)
    takeNumber? (number x ++ rest) = some (float x, rest)      (takeNumber?_number)

A finite double is written in one of four layouts.  All of them are a whole part, a fraction and
an exponent (Spelling), and none changes the number that the digits stand for (exists_spelling).
-/

namespace TrustGate.Json

open Decimal (IsNumeral Layout)

/-! ## Digits and signs -/

theorem takeDigits_append {ds rest : List Char} (hds : ∀ c ∈ ds, c.isDigit = true)
    (hrest : ∀ c ∈ rest.head?, c.isDigit = false) : takeDigits (ds ++ rest) = (ds, rest) := by
  unfold takeDigits
  rw [List.takeWhile_append_of_pos hds, List.dropWhile_append_of_pos hds]
  cases rest with
  | nil => simp
  | cons c rest =>
    have hc : c.isDigit = false := hrest c rfl
    simp [hc]

theorem ne_of_isDigit {c d : Char} (hc : c.isDigit = true) (hd : d.isDigit = false) : c ≠ d := by
  rintro rfl
  rw [hc] at hd
  cases hd

/-! ## Spellings -/

/-- A decimal number as a whole part, the digits after the point and an exponent; one of the last
two is there. -/
structure Spelling where
  whole : List Char
  fraction : List Char
  exponent : Option Int
  numeral : IsNumeral whole
  isDigit : ∀ c ∈ fraction, c.isDigit = true
  decimal : fraction = [] → exponent.isSome

namespace Spelling

def fractionChars (s : Spelling) : List Char :=
  if s.fraction.isEmpty then [] else '.' :: s.fraction

def exponentChars (s : Spelling) : List Char :=
  (s.exponent.map Layout.json.exponentText).getD []

def chars (s : Spelling) : List Char := s.whole ++ (s.fractionChars ++ s.exponentChars)

def mantissa (s : Spelling) : Nat := Nat.ofDigitChars 10 (s.whole ++ s.fraction) 0

def scale (s : Spelling) : Int := s.exponent.getD 0 - s.fraction.length

end Spelling

theorem isDigit_of_mem_zeros {n : Nat} {c : Char} (h : c ∈ List.replicate n '0') :
    c.isDigit = true := by
  rw [List.eq_of_mem_replicate h]
  rfl

theorem isNumeral_append_zeros {ds : List Char} (h : IsNumeral ds) {n : Nat}
    (hzero : ds = ['0'] → n = 0) : IsNumeral (ds ++ List.replicate n '0') where
  isDigit c hc := (List.mem_append.mp hc).elim (h.isDigit c) isDigit_of_mem_zeros
  nonempty := by simp [h.nonempty]
  lead hlead := by
    rw [List.head?_append_of_ne_nil _ h.nonempty] at hlead
    have hds := h.lead hlead
    simp [hds, hzero hds]

theorem isNumeral_take {ds : List Char} (h : IsNumeral ds) {n : Nat} (hn : 0 < n) :
    IsNumeral (ds.take n) where
  isDigit c hc := h.isDigit c (List.mem_of_mem_take hc)
  nonempty := by simp [h.nonempty, hn.ne']
  lead hlead := by
    obtain ⟨m, rfl⟩ := Nat.exists_eq_add_one.mpr hn
    rw [List.head?_take, if_neg (by omega)] at hlead
    simp [h.lead hlead]

/-- The characters are a spelling of the number `ds · 10 ^ k`. -/
structure Spells (s : Spelling) (cs ds : List Char) (k : Int) : Prop where
  chars : cs = s.chars
  value : (s.mantissa * 10 ^ s.scale : ℚ) = Nat.ofDigitChars 10 ds 0 * 10 ^ k

/-- A whole number, with one digit after the point. -/
theorem exists_spells_whole {ds : List Char} (hds : IsNumeral ds) {k : Nat}
    (hzero : ds = ['0'] → k = 0) :
    ∃ s, Spells s (ds ++ List.replicate k '0' ++ ['.', '0']) ds k := by
  refine ⟨⟨ds ++ List.replicate k '0', ['0'], none, isNumeral_append_zeros hds hzero,
    fun c hc => isDigit_of_mem_zeros (n := 1) hc, fun h => by cases h⟩, ?_, ?_⟩
  · simp [Spelling.chars, Spelling.fractionChars, Spelling.exponentChars]
  · have hmantissa : Nat.ofDigitChars 10 ((ds ++ List.replicate k '0') ++ ['0']) 0 =
        10 * (10 ^ k * Nat.ofDigitChars 10 ds 0) := by
      rw [Nat.ofDigitChars_append, Nat.ofDigitChars_append, Nat.ofDigitChars_replicate_zero]
      rfl
    simp only [Spelling.mantissa, Spelling.scale, hmantissa]
    push_cast
    simp
    field_simp

/-- The point stands between the digits. -/
theorem exists_spells_inside {ds : List Char} (hds : IsNumeral ds) {point : Nat}
    (hpos : 0 < point) (hlt : point < ds.length) :
    ∃ s, Spells s (ds.take point ++ '.' :: ds.drop point) ds ((point : Int) - ds.length) := by
  refine ⟨⟨ds.take point, ds.drop point, none, isNumeral_take hds hpos,
    fun c hc => hds.isDigit c (List.mem_of_mem_drop hc), fun h => ?_⟩, ?_, ?_⟩
  · rw [List.drop_eq_nil_iff] at h
    omega
  · have : (ds.drop point).isEmpty = false := by
      simp only [List.isEmpty_eq_false_iff, ne_eq, List.drop_eq_nil_iff]
      omega
    simp [Spelling.chars, Spelling.fractionChars, Spelling.exponentChars, this]
  · have hscale : (0 : Int) - (ds.drop point).length = point - ds.length := by
      rw [List.length_drop]
      omega
    simp only [Spelling.mantissa, Spelling.scale, List.take_append_drop, Option.getD_none, hscale]

/-- The point stands before the digits, perhaps with zeros between. -/
theorem exists_spells_before {ds : List Char} (hds : IsNumeral ds) (zeros : Nat) :
    ∃ s, Spells s (['0', '.'] ++ List.replicate zeros '0' ++ ds) ds
      (-(zeros : Int) - ds.length) := by
  refine ⟨⟨['0'], List.replicate zeros '0' ++ ds, none, Decimal.isNumeral_digits 0,
    fun c hc => (List.mem_append.mp hc).elim isDigit_of_mem_zeros (hds.isDigit c),
    fun h => absurd h (by simp [hds.nonempty])⟩, ?_, ?_⟩
  · simp [Spelling.chars, Spelling.fractionChars, Spelling.exponentChars, hds.nonempty]
  · have hscale :
        (0 : Int) - (List.replicate zeros '0' ++ ds).length = -(zeros : Int) - ds.length := by
      rw [List.length_append, List.length_replicate]
      omega
    have hmantissa : Nat.ofDigitChars 10 (['0'] ++ (List.replicate zeros '0' ++ ds)) 0 =
        Nat.ofDigitChars 10 ds 0 := by
      rw [Nat.ofDigitChars_append, Nat.ofDigitChars_append]
      show Nat.ofDigitChars 10 ds (Nat.ofDigitChars 10 _ 0) = _
      rw [Nat.ofDigitChars_replicate_zero, Nat.mul_zero]
    simp only [Spelling.mantissa, Spelling.scale, hmantissa, Option.getD_none, hscale]

/-- One digit stands before the point, and an exponent behind the digits. -/
theorem exists_spells_scientific {ds : List Char} (hds : IsNumeral ds) (k : Int) :
    ∃ s, Spells s (ds.take 1 ++ (if (ds.drop 1).isEmpty then [] else '.' :: ds.drop 1) ++
      Layout.json.exponentText (ds.length + k - 1)) ds k := by
  have hlength : 0 < ds.length := List.length_pos_iff.mpr hds.nonempty
  refine ⟨⟨ds.take 1, ds.drop 1, some (ds.length + k - 1), isNumeral_take hds (by omega),
    fun c hc => hds.isDigit c (List.mem_of_mem_drop hc), fun _ => rfl⟩, ?_, ?_⟩
  · simp [Spelling.chars, Spelling.fractionChars, Spelling.exponentChars]
  · have hscale : (ds.length : Int) + k - 1 - (ds.drop 1).length = k := by
      rw [List.length_drop]
      omega
    simp only [Spelling.mantissa, Spelling.scale, List.take_append_drop, Option.getD_some, hscale]

/-- The digits of a layout are those of the number, or those and zeros around them. -/
theorem exists_spelling {ds : List Char} {k : Int} (hds : IsNumeral ds)
    (hzero : ds = ['0'] → k = 0) : ∃ s, Spells s (Layout.json.place ds k) ds k := by
  unfold Layout.place
  extract_lets point rest
  have hpoint : point = ds.length + k := rfl
  by_cases hpositional : Layout.json.leastPoint < point ∧ point ≤ Layout.json.greatestPoint
  · rw [if_pos hpositional]
    by_cases hwhole : 0 ≤ k
    · rw [if_pos hwhole]
      lift k to Nat using hwhole
      exact exists_spells_whole hds fun h => by exact_mod_cast hzero h
    · rw [if_neg hwhole]
      by_cases hinside : 0 < point
      · rw [if_pos hinside, show k = (point.toNat : Int) - ds.length by omega]
        exact exists_spells_inside hds (by omega) (by omega)
      · rw [if_neg hinside, show k = -((-point).toNat : Int) - ds.length by omega]
        exact exists_spells_before hds _
  · rw [if_neg hpositional]
    exact exists_spells_scientific hds k

/-! ## Reading a number -/

/-- What can stand after a number: nothing that goes on with it. -/
def Ends (rest : List Char) : Prop :=
  ∀ c ∈ rest.head?, c.isDigit = false ∧ c ≠ '.' ∧ c ≠ 'e' ∧ c ≠ 'E'

theorem ends_nil : Ends [] := fun c hc => by cases hc

theorem takeFraction?_point {ds rest : List Char} (hds : ∀ c ∈ ds, c.isDigit = true)
    (hnonempty : ds ≠ []) (hrest : ∀ c ∈ rest.head?, c.isDigit = false) :
    takeFraction? ('.' :: ds ++ rest) = some (ds, rest) := by
  rw [List.cons_append, takeFraction?, takeDigits_append hds hrest]
  cases ds with
  | nil => exact absurd rfl hnonempty
  | cons d ds => rfl

theorem takeFraction?_none {rest : List Char} (h : ∀ c ∈ rest.head?, c ≠ '.') :
    takeFraction? rest = some ([], rest) := by
  unfold takeFraction?
  split
  · exact absurd rfl (h '.' rfl)
  · rfl

theorem takeExponent?_none {rest : List Char} (h : ∀ c ∈ rest.head?, c ≠ 'e' ∧ c ≠ 'E') :
    takeExponent? rest = some (none, rest) := by
  cases rest with
  | nil => rfl
  | cons c rest =>
    obtain ⟨he, hE⟩ := h c rfl
    simp [takeExponent?, he, hE]

theorem exponentText_json (e : Int) : Layout.json.exponentText e =
    'e' :: ((if e < 0 then ['-'] else []) ++ Decimal.digits e.natAbs) := by
  have hpadded : Decimal.padLeft '0' 1 (Decimal.digits e.natAbs) = Decimal.digits e.natAbs := by
    have := Decimal.length_digits_pos e.natAbs
    unfold Decimal.padLeft
    rw [show 1 - (Decimal.digits e.natAbs).length = 0 by omega]
    rfl
  unfold Layout.exponentText
  rw [show Layout.json.exponentWidth = 1 from rfl, hpadded]
  rfl

theorem takeExponent?_exponentText (e : Int) {rest : List Char}
    (hrest : ∀ c ∈ rest.head?, c.isDigit = false) :
    takeExponent? (Layout.json.exponentText e ++ rest) = some (some e, rest) := by
  have hvalue : Nat.ofDigitChars 10 (Decimal.digits e.natAbs) 0 = e.natAbs :=
    Nat.ofDigitChars_ten_toDigits
  have hdigits : takeDigits (Decimal.digits e.natAbs ++ rest) = (Decimal.digits e.natAbs, rest) :=
    takeDigits_append (fun _ => Decimal.isDigit_of_mem_digits) hrest
  obtain ⟨d, ds, hds⟩ := List.exists_cons_of_ne_nil (Nat.toDigits_ne_nil (n := e.natAbs) (b := 10))
  have hd : d.isDigit = true := Decimal.isDigit_of_mem_digits (hds ▸ List.mem_cons_self)
  rw [exponentText_json]
  unfold Decimal.digits at hvalue hdigits ⊢
  rw [hds] at hvalue hdigits ⊢
  have hsign : Decimal.takeSign ((if e < 0 then ['-'] else []) ++ d :: ds ++ rest) =
      (decide (e < 0), d :: ds ++ rest) := by
    have hminus := ne_of_isDigit hd (d := '-') rfl
    have hplus := ne_of_isDigit hd (d := '+') rfl
    by_cases he : e < 0 <;> simp [he, Decimal.takeSign, hminus, hplus]
  rw [List.cons_append, takeExponent?, if_pos (.inl rfl), hsign]
  simp only [hdigits, hvalue, decide_eq_true_eq, Option.some.injEq, Prod.mk.injEq, and_true]
  split <;> omega

namespace Spelling

variable (s : Spelling) {rest : List Char}

theorem takeExponent?_exponentChars (hrest : Ends rest) :
    takeExponent? (s.exponentChars ++ rest) = some (s.exponent, rest) := by
  unfold exponentChars
  cases s.exponent with
  | none => exact takeExponent?_none fun c hc => (hrest c hc).2.2
  | some e => exact takeExponent?_exponentText e fun c hc => (hrest c hc).1

theorem head?_exponentChars (hrest : Ends rest) :
    ∀ c ∈ (s.exponentChars ++ rest).head?, c.isDigit = false ∧ c ≠ '.' := by
  intro c hc
  unfold exponentChars at hc
  cases he : s.exponent with
  | none =>
    rw [he] at hc
    exact ⟨(hrest c hc).1, (hrest c hc).2.1⟩
  | some e =>
    rw [he, Option.map_some, Option.getD_some, exponentText_json] at hc
    cases hc
    decide

theorem takeFraction?_fractionChars (hrest : Ends rest) :
    takeFraction? (s.fractionChars ++ (s.exponentChars ++ rest)) =
      some (s.fraction, s.exponentChars ++ rest) := by
  have hhead := s.head?_exponentChars hrest
  unfold fractionChars
  by_cases hf : s.fraction = []
  · rw [hf]
    exact takeFraction?_none fun c hc => (hhead c hc).2
  · rw [if_neg (by simpa using hf)]
    exact takeFraction?_point s.isDigit hf fun c hc => (hhead c hc).1

theorem takeDigits_whole (hrest : Ends rest) :
    takeDigits (s.chars ++ rest) = (s.whole, s.fractionChars ++ (s.exponentChars ++ rest)) := by
  unfold chars
  rw [List.append_assoc, List.append_assoc]
  refine takeDigits_append s.numeral.isDigit fun c hc => ?_
  unfold fractionChars at hc
  by_cases hf : s.fraction = []
  · rw [hf] at hc
    exact (s.head?_exponentChars hrest c hc).1
  · rw [if_neg (by simpa using hf)] at hc
    cases hc
    rfl

end Spelling

theorem takeMinus_numeral {ds : List Char} (hds : IsNumeral ds) (negative : Bool)
    (rest : List Char) :
    takeMinus ((if negative then ['-'] else []) ++ (ds ++ rest)) = (negative, ds ++ rest) := by
  obtain ⟨d, more, rfl⟩ := List.exists_cons_of_ne_nil hds.nonempty
  have hd := ne_of_isDigit (hds.isDigit d List.mem_cons_self) (d := '-') rfl
  cases negative with
  | true => rfl
  | false => simp [takeMinus, hd]

theorem not_malformed_of_isNumeral {ds : List Char} (hds : IsNumeral ds) :
    ¬(ds.isEmpty = true ∨ ds.head? = some '0' ∧ ds ≠ ['0']) := by
  rintro (hempty | ⟨hhead, hne⟩)
  · exact hds.nonempty (by simpa using hempty)
  · exact hne (hds.lead hhead)

theorem takeNumber?_spelling (negative : Bool) (s : Spelling) {rest : List Char}
    (hrest : Ends rest) : takeNumber? ((if negative then ['-'] else []) ++ (s.chars ++ rest)) =
      some (.float (Decimal.ofScientific negative s.mantissa s.scale), rest) := by
  have hminus : takeMinus ((if negative then ['-'] else []) ++ (s.chars ++ rest)) =
      (negative, s.chars ++ rest) := by
    unfold Spelling.chars
    rw [List.append_assoc]
    exact takeMinus_numeral s.numeral negative _
  have hdecimal : ¬(s.fraction.isEmpty = true ∧ s.exponent.isNone = true) := by
    rintro ⟨hf, he⟩
    have := s.decimal (by simpa using hf)
    simp_all
  unfold takeNumber?
  simp only [hminus, s.takeDigits_whole hrest, if_neg (not_malformed_of_isNumeral s.numeral),
    s.takeFraction?_fractionChars hrest, s.takeExponent?_exponentChars hrest, Option.bind_eq_bind,
    Option.bind_some, if_neg hdecimal]
  rfl

/-! ## Whole numbers -/

theorem toList_toString (i : Int) :
    (toString i).toList = (if i < 0 then ['-'] else []) ++ Decimal.digits i.natAbs := by
  rw [Int.toString_eq_repr, Int.repr_eq_if]
  by_cases hi : 0 ≤ i
  · rw [if_pos hi, if_neg (not_lt.mpr hi), show i.toNat = i.natAbs by omega]
    simp [Nat.repr, Decimal.digits]
  · rw [if_neg hi, if_pos (not_le.mp hi), show (-i).toNat = i.natAbs by omega]
    simp [Nat.repr, Decimal.digits]

theorem takeNumber?_int (i : Int) {rest : List Char} (hrest : Ends rest) :
    takeNumber? ((toString i).toList ++ rest) = some (.int i, rest) := by
  have hnumeral := Decimal.isNumeral_digits i.natAbs
  have hvalue : Nat.ofDigitChars 10 (Decimal.digits i.natAbs) 0 = i.natAbs :=
    Nat.ofDigitChars_ten_toDigits
  have hminus := takeMinus_numeral hnumeral (decide (i < 0)) rest
  rw [toList_toString, List.append_assoc]
  simp only [decide_eq_true_eq] at hminus
  unfold takeNumber?
  simp only [hminus, takeDigits_append hnumeral.isDigit fun c hc => (hrest c hc).1,
    if_neg (not_malformed_of_isNumeral hnumeral), takeFraction?_none fun c hc => (hrest c hc).2.1,
    takeExponent?_none fun c hc => (hrest c hc).2.2, Option.bind_eq_bind, Option.bind_some, hvalue]
  rw [if_pos ⟨rfl, rfl⟩]
  by_cases hi : i < 0
  · simp only [decide_eq_true hi, if_true]
    rw [show -((i.natAbs : Nat) : Int) = i by omega]
    rfl
  · simp only [decide_eq_false hi, Bool.false_eq_true, if_false]
    rw [show ((i.natAbs : Nat) : Int) = i by omega]
    rfl

/-! ## Doubles -/

/-- The text of a finite double spells a number that rounds to it. -/
theorem exists_spelling_number {x : Float} {s : Bool} {m : Nat} {q : Int}
    (hx : Decimal.parts x = .finite s m q) : ∃ spelling : Spelling,
      number x = (if s then ['-'] else []) ++ spelling.chars ∧
        Decimal.ofScientific s spelling.mantissa spelling.scale = x := by
  have hshortest := Decimal.isShortest_shortestDigits (Decimal.canonical_of_parts hx)
  have hnumber : number x = (if s then ['-'] else []) ++
      Layout.json.place (Decimal.shortestDigits m q).1 (Decimal.shortestDigits m q).2 := by
    simp [number, Layout.text, hx]
  generalize (Decimal.shortestDigits m q).1 = ds at hshortest hnumber
  generalize (Decimal.shortestDigits m q).2 = k at hshortest hnumber
  have hnothing : Nat.ofDigitChars 10 ['0'] 0 = 0 := rfl
  have hzero : ds = ['0'] → k = 0 := by
    rintro rfl
    rcases Nat.eq_zero_or_pos m with hm | hm
    · exact (hshortest.zero hm).2
    · exact absurd ((hshortest.owned hm).pos hm) (by simp [hnothing])
  obtain ⟨spelling, hchars, hvalue⟩ := exists_spelling hshortest.numeral hzero
  refine ⟨spelling, by rw [hnumber, hchars], ?_⟩
  rcases Nat.eq_zero_or_pos m with rfl | hm
  · obtain ⟨rfl, rfl⟩ := hshortest.zero rfl
    have hscale : (10 : ℚ) ^ spelling.scale ≠ 0 := zpow_ne_zero _ (by norm_num)
    have hmantissa : spelling.mantissa = 0 := by simpa [hnothing, hscale] using hvalue
    rw [hmantissa]
    exact Decimal.ofScientific_zero s _ hx
  · exact Decimal.ofScientific_of_owns hx hm (hvalue ▸ hshortest.owned hm)

/-- A finite double is read back to the last bit. -/
theorem takeNumber?_number {x : Float} {s : Bool} {m : Nat} {q : Int}
    (hx : Decimal.parts x = .finite s m q) {rest : List Char} (hrest : Ends rest) :
    takeNumber? (number x ++ rest) = some (.float x, rest) := by
  obtain ⟨spelling, hchars, hvalue⟩ := exists_spelling_number hx
  rw [hchars, List.append_assoc, takeNumber?_spelling s spelling hrest, hvalue]

end TrustGate.Json
