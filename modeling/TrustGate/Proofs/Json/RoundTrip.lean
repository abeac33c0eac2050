import TrustGate.Proofs.Json.Number

/-!
# Documents read back

What is written is read back as the same document, except that a number JSON has no word for has
become null (written):

    takeString (quote s ++ rest) = some (s, rest)      (takeString_quote, behind the opening quote)
    read? j.render = some j.written                    (read?_render)

The reader's fuel is the length of its text, so every part of a document is read with more fuel
than it has characters (takeValue?_chars); a number also needs that what comes after it is no part
of it (Ends), which a comma and a closing bracket see to.  No rendered document has a control
character (clean_render).
-/

namespace TrustGate.Json

open Text

/-! ## Strings -/

theorem takeHex4?_control {n : Nat} (hn : n < 32) (rest : List Char) :
    takeHex4? (hex 4 n ++ rest) = some (n, rest) := by
  interval_cases n <;> rfl

theorem takeEscapedUnit?_control {n : Nat} (hn : n < 32) (rest : List Char) :
    takeEscapedUnit? (hex 4 n ++ rest) = some (Char.ofNat n, rest) := by
  have hhigh : isHighSurrogate n = false := by simp [isHighSurrogate]; omega
  have hlow : isLowSurrogate n = false := by simp [isLowSurrogate]; omega
  simp [takeEscapedUnit?, takeHex4?_control hn, hhigh, hlow]

/-- How a character stands in a string: as a short escape, by its number if it is a control
character, else as it is. -/
inductive Escaped (c : Char) : List Char → Prop
  | short {e : Char} (he : unescape? e = some c) (hvisible : 32 ≤ e.toNat) : Escaped c ['\\', e]
  | number (h : c.toNat < 32) : Escaped c ('\\' :: 'u' :: hex 4 c.toNat)
  | plain (hquote : c ≠ '"') (hslash : c ≠ '\\') (h : 32 ≤ c.toNat) : Escaped c [c]

theorem escaped_escape (c : Char) : Escaped c (escape c) := by
  have hback {n : Nat} (h : c.toNat = n) : some (Char.ofNat n) = some c := by
    rw [← h, Char.ofNat_toNat]
  unfold escape
  split
  · next h =>
    subst h
    exact .short rfl (by decide)
  split
  · next h =>
    subst h
    exact .short rfl (by decide)
  split
  · next h =>
    subst h
    exact .short rfl (by decide)
  split
  · next h =>
    subst h
    exact .short rfl (by decide)
  split
  · next h =>
    subst h
    exact .short rfl (by decide)
  split
  · next h => exact .short (hback h) (by decide)
  split
  · next h => exact .short (hback h) (by decide)
  split
  · next h => exact .number h
  · next hquote hslash _ _ _ _ _ h => exact .plain hquote hslash (not_lt.mp h)

/-- An escaped character is read back, and then what follows it. -/
theorem takeString_escape (c : Char) (fuel : Nat) (rest : List Char) :
    takeString (fuel + 1) (escape c ++ rest) =
      (takeString fuel rest).map fun (s, rest) => (c :: s, rest) := by
  have hc := escaped_escape c
  generalize escape c = cs at hc ⊢
  cases hc with
  | @short e he _ =>
    have hu : e ≠ 'u' := by
      rintro rfl
      cases he
    cases h : takeString fuel rest <;> simp [takeString, he, h]
  | number hnumber =>
    cases h : takeString fuel rest <;> simp [takeString, takeEscapedUnit?_control hnumber, h]
  | plain hquote hslash hplain =>
    cases h : takeString fuel rest <;> simp [takeString, hslash, not_lt.mpr hplain, h]

/-- One unit of fuel for each character and one for the closing quote are enough. -/
theorem takeString_quoted (cs rest : List Char) {fuel : Nat} (hfuel : cs.length < fuel) :
    takeString fuel (cs.flatMap escape ++ '"' :: rest) = some (cs, rest) := by
  induction cs generalizing fuel with
  | nil =>
    obtain ⟨fuel, rfl⟩ := Nat.exists_eq_add_one.mpr hfuel
    rfl
  | cons c cs ih =>
    rw [List.length_cons] at hfuel
    obtain ⟨fuel, rfl⟩ := Nat.exists_eq_add_one.mpr (Nat.zero_lt_of_lt hfuel)
    rw [List.flatMap_cons, List.append_assoc, takeString_escape, ih (by omega)]
    rfl

theorem length_le_flatMap_escape (cs : List Char) : cs.length ≤ (cs.flatMap escape).length := by
  induction cs with
  | nil => exact le_rfl
  | cons c cs ih =>
    have hpos : 0 < (escape c).length := by
      have hc := escaped_escape c
      generalize escape c = cs at hc ⊢
      cases hc <;> simp
    rw [List.flatMap_cons, List.length_append, List.length_cons]
    omega

/-- A text is read back from its quoted form. -/
theorem takeString_quote (s : String) (rest : List Char) :
    ∃ body, quote s ++ rest = '"' :: body ∧
      takeString (body.length + 1) body = some (s.toList, rest) := by
  refine ⟨s.toList.flatMap escape ++ '"' :: rest, by simp [quote], takeString_quoted _ _ ?_⟩
  have := length_le_flatMap_escape s.toList
  rw [List.length_append]
  omega

/-! ## Documents -/

mutual

/-- What a document says once it is written: a number that JSON cannot hold is null. -/
def written : Json → Json
  | .float x =>
    match Decimal.parts x with
    | .finite _ _ _ => .float x
    | _ => .null
  | .array items => .array (writtenEach items)
  | .object members => .object (writtenMembers members)
  | j => j

def writtenEach : List Json → List Json
  | [] => []
  | j :: js => j.written :: writtenEach js

def writtenMembers : List (String × Json) → List (String × Json)
  | [] => []
  | (k, j) :: rest => (k, j.written) :: writtenMembers rest

end

/-- A number starts with a digit or a minus sign. -/
theorem takeNumber?_head {cs : List Char} {r : Json × List Char} (h : takeNumber? cs = some r) :
    ∃ c more, cs = c :: more ∧ ∀ d, d.isDigit = false → d ≠ '-' → c ≠ d := by
  cases cs with
  | nil => simp [takeNumber?, takeMinus, takeDigits] at h
  | cons c more =>
    refine ⟨c, more, rfl, ?_⟩
    rintro _ hd hminus rfl
    simp [takeNumber?, takeMinus, takeDigits, hd, hminus] at h

theorem isSpace_eq_false {c : Char} (hc : ∀ d, d.isDigit = false → d ≠ '-' → c ≠ d) :
    isSpace c = false := by
  simp [isSpace, hc ' ' rfl (by decide), hc '\n' rfl (by decide), hc '\r' rfl (by decide),
    hc '\t' rfl (by decide)]

theorem skipSpace_cons {c : Char} (hc : isSpace c = false) (cs : List Char) :
    skipSpace (c :: cs) = c :: cs := by simp [skipSpace, hc]

/-- A number stands where no other value starts. -/
theorem takeValue?_of_takeNumber? {cs : List Char} {r : Json × List Char} (fuel : Nat)
    (h : takeNumber? cs = some r) : takeValue? (fuel + 1) cs = some r := by
  obtain ⟨c, more, rfl, hc⟩ := takeNumber?_head h
  rw [takeValue?, skipSpace_cons (isSpace_eq_false hc)]
  split
  · next h => exact absurd (List.cons.inj h).1 (hc _ rfl (by decide))
  · next h => exact absurd (List.cons.inj h).1 (hc _ rfl (by decide))
  · next h => exact absurd (List.cons.inj h).1 (hc _ rfl (by decide))
  · next h => exact absurd (List.cons.inj h).1 (hc _ rfl (by decide))
  · next h => exact absurd (List.cons.inj h).1 (hc _ rfl (by decide))
  · next h => exact absurd (List.cons.inj h).1 (hc _ rfl (by decide))
  · exact h

theorem takeWord?_append (word : String) (j : Json) (rest : List Char) :
    takeWord? word j (word.toList ++ rest) = some (j, rest) := by
  have hprefix : word.toList.isPrefixOf (word.toList ++ rest) = true := by simp
  rw [takeWord?, if_pos hprefix, ← String.length_toList, List.drop_left]

theorem number_of_not_finite {x : Float}
    (hx : ∀ s m q, Decimal.parts x ≠ .finite s m q) : number x = "null".toList := by
  unfold number
  split
  · next s m q h => exact absurd h (hx s m q)
  · rfl

theorem takeValue?_null (fuel : Nat) (rest : List Char) :
    takeValue? (fuel + 1) ("null".toList ++ rest) = some (.null, rest) := by
  show takeValue? (fuel + 1) ('n' :: ("ull".toList ++ rest)) = _
  rw [takeValue?, skipSpace_cons rfl]
  exact takeWord?_append "ull" .null rest

/-- A double is read back, one that is not finite as null. -/
theorem takeValue?_float (x : Float) (fuel : Nat) {rest : List Char} (hrest : Ends rest) :
    takeValue? (fuel + 1) (number x ++ rest) = some ((Json.float x).written, rest) := by
  by_cases hx : ∃ s m q, Decimal.parts x = .finite s m q
  · obtain ⟨s, m, q, hx⟩ := hx
    rw [takeValue?_of_takeNumber? fuel (takeNumber?_number hx hrest)]
    simp [written, hx]
  · push Not at hx
    rw [number_of_not_finite hx, takeValue?_null]
    unfold written
    split
    · next s m q h => exact absurd h (hx s m q)
    · rfl

/-- A value starts neither with a blank nor with a bracket that closes. -/
theorem chars_head (j : Json) : ∃ c more, j.chars = c :: more ∧ isSpace c = false ∧ c ≠ ']' := by
  have hnumber {cs : List Char} {r : Json × List Char} (h : takeNumber? (cs ++ []) = some r) :
      ∃ c more, cs = c :: more ∧ isSpace c = false ∧ c ≠ ']' := by
    rw [List.append_nil] at h
    obtain ⟨c, more, hcs, hc⟩ := takeNumber?_head h
    exact ⟨c, more, hcs, isSpace_eq_false hc, hc ']' rfl (by decide)⟩
  cases j with
  | null => exact ⟨'n', "ull".toList, by simp [chars], rfl, by decide⟩
  | bool b =>
    cases b with
    | true => exact ⟨'t', "rue".toList, by simp [chars], rfl, by decide⟩
    | false => exact ⟨'f', "alse".toList, by simp [chars], rfl, by decide⟩
  | int i =>
    rw [chars]
    exact hnumber (takeNumber?_int i ends_nil)
  | float x =>
    rw [chars]
    by_cases hx : ∃ s m q, Decimal.parts x = .finite s m q
    · obtain ⟨s, m, q, hx⟩ := hx
      exact hnumber (takeNumber?_number hx ends_nil)
    · push Not at hx
      exact ⟨'n', "ull".toList, by simp [number_of_not_finite hx], rfl, by decide⟩
  | text s => exact ⟨'"', _, by rw [chars]; rfl, rfl, by decide⟩
  | array items => exact ⟨'[', _, by rw [chars]; rfl, rfl, by decide⟩
  | object members => exact ⟨'\x7b', _, by rw [chars]; rfl, rfl, by decide⟩

theorem joined_head {c : Char} {x : List Char} (xs : List (List Char)) :
    ∃ more, joined ((c :: x) :: xs) = c :: more := by
  cases xs with
  | nil => exact ⟨x, rfl⟩
  | cons y ys => exact ⟨_, rfl⟩

theorem ends_comma (rest : List Char) : Ends (',' :: rest) := fun c hc => by cases hc; decide
theorem ends_bracket (rest : List Char) : Ends (']' :: rest) := fun c hc => by cases hc; decide
theorem ends_brace (rest : List Char) : Ends ('\x7d' :: rest) := fun c hc => by cases hc; decide

mutual

theorem takeValue?_chars : ∀ (j : Json) (fuel : Nat) (rest : List Char),
    j.chars.length < fuel → Ends rest → takeValue? fuel (j.chars ++ rest) = some (j.written, rest)
  | .null, fuel + 1, rest, _, _ => by
    simp only [chars, written]
    exact takeValue?_null fuel rest
  | .bool true, fuel + 1, rest, _, _ => by
    show takeValue? (fuel + 1) ('t' :: ("rue".toList ++ rest)) = _
    simp only [takeValue?, skipSpace_cons (c := 't') rfl, written]
    exact takeWord?_append "rue" (.bool true) rest
  | .bool false, fuel + 1, rest, _, _ => by
    show takeValue? (fuel + 1) ('f' :: ("alse".toList ++ rest)) = _
    simp only [takeValue?, skipSpace_cons (c := 'f') rfl, written]
    exact takeWord?_append "alse" (.bool false) rest
  | .int i, fuel + 1, rest, _, hrest => by
    simp only [chars, written]
    exact takeValue?_of_takeNumber? fuel (takeNumber?_int i hrest)
  | .float x, fuel + 1, rest, _, hrest => by
    rw [chars]
    exact takeValue?_float x fuel hrest
  | .text s, fuel + 1, rest, _, _ => by
    obtain ⟨body, hquote, hbody⟩ := takeString_quote s rest
    simp only [chars, written, hquote]
    rw [takeValue?, skipSpace_cons rfl]
    simp [hbody]
  | .array [], fuel + 1, rest, _, _ => by
    simp [chars, charsEach, joined, takeValue?, skipSpace, isSpace, written, writtenEach]
  | .array (j :: js), fuel + 1, rest, hfuel, _ => by
    have hitems := takeItems?_joined j js fuel rest (by
      simp only [chars, List.length_cons, List.length_append, List.length_nil] at hfuel
      omega)
    obtain ⟨c, start, hj, hspace, hc⟩ := chars_head j
    obtain ⟨more, hhead⟩ : ∃ more, joined (charsEach (j :: js)) = c :: more := by
      rw [charsEach, hj]
      exact joined_head _
    simp only [chars, written, writtenEach]
    rw [hhead, List.cons_append] at hitems
    rw [hhead, List.cons_append, List.cons_append, List.append_assoc, List.cons_append,
      List.singleton_append, takeValue?, skipSpace_cons rfl]
    simp only [skipSpace_cons hspace]
    split
    · next h => exact absurd (List.cons.inj h).1 hc
    · simp [hitems]
  | .object [], fuel + 1, rest, _, _ => by
    simp [chars, charsMembers, joined, takeValue?, skipSpace, isSpace, written, writtenMembers]
  | .object ((k, j) :: ms), fuel + 1, rest, hfuel, _ => by
    have hmembers := takeMembers?_joined k j ms fuel rest (by
      simp only [chars, List.length_cons, List.length_append, List.length_nil] at hfuel
      omega)
    obtain ⟨more, hhead⟩ : ∃ more, joined (charsMembers ((k, j) :: ms)) = '"' :: more :=
      joined_head _
    simp only [chars, written, writtenMembers]
    rw [hhead, List.cons_append] at hmembers
    rw [hhead, List.cons_append, List.cons_append, List.append_assoc, List.cons_append,
      List.singleton_append, takeValue?, skipSpace_cons rfl]
    simp [skipSpace_cons (c := '"') rfl, hmembers]

theorem takeItems?_joined : ∀ (j : Json) (js : List Json) (fuel : Nat) (rest : List Char),
    (joined (charsEach (j :: js))).length + 1 < fuel →
      takeItems? fuel (joined (charsEach (j :: js)) ++ ']' :: rest) =
        some (j.written :: writtenEach js, rest)
  | j, [], fuel + 1, rest, hfuel => by
    simp only [charsEach, joined] at hfuel ⊢
    have hj := takeValue?_chars j fuel (']' :: rest) (by omega)
      (ends_bracket rest)
    rw [takeItems?, hj]
    simp [skipSpace_cons (c := ']') rfl, writtenEach]
  | j, j' :: js, fuel + 1, rest, hfuel => by
    have hjoined : joined (charsEach (j :: j' :: js)) =
        j.chars ++ ',' :: joined (charsEach (j' :: js)) := rfl
    rw [hjoined, List.length_append, List.length_cons] at hfuel
    have hj := takeValue?_chars j fuel
      (',' :: (joined (charsEach (j' :: js)) ++ ']' :: rest)) (by omega) (ends_comma _)
    have hjs := takeItems?_joined j' js fuel rest (by omega)
    rw [hjoined, List.append_assoc, List.cons_append, takeItems?, hj]
    simp [skipSpace_cons (c := ',') rfl, hjs, writtenEach]

theorem takeMembers?_joined : ∀ (k : String) (j : Json) (ms : List (String × Json)) (fuel : Nat)
    (rest : List Char), (joined (charsMembers ((k, j) :: ms))).length + 1 < fuel →
      takeMembers? fuel (joined (charsMembers ((k, j) :: ms)) ++ '\x7d' :: rest) =
        some ((k, j.written) :: writtenMembers ms, rest)
  | k, j, [], fuel + 1, rest, hfuel => by
    have hjoined : joined (charsMembers [(k, j)]) = quote k ++ ':' :: j.chars := rfl
    rw [hjoined, List.length_append, List.length_cons] at hfuel
    have hj := takeValue?_chars j fuel ('\x7d' :: rest) (by omega)
      (ends_brace rest)
    obtain ⟨body, hquote, hbody⟩ := takeString_quote k (':' :: (j.chars ++ '\x7d' :: rest))
    rw [hjoined, List.append_assoc, List.cons_append, hquote, takeMembers?, skipSpace_cons rfl]
    simp [hbody, skipSpace_cons (c := ':') rfl, hj, skipSpace_cons (c := '\x7d') rfl,
      writtenMembers]
  | k, j, (k', j') :: ms, fuel + 1, rest, hfuel => by
    have hjoined : joined (charsMembers ((k, j) :: (k', j') :: ms)) =
        (quote k ++ ':' :: j.chars) ++ ',' :: joined (charsMembers ((k', j') :: ms)) := rfl
    rw [hjoined, List.length_append, List.length_append, List.length_cons,
      List.length_cons] at hfuel
    have hj := takeValue?_chars j fuel
      (',' :: (joined (charsMembers ((k', j') :: ms)) ++ '\x7d' :: rest)) (by omega)
      (ends_comma _)
    have hms := takeMembers?_joined k' j' ms fuel rest (by omega)
    obtain ⟨body, hquote, hbody⟩ := takeString_quote k (':' :: (j.chars ++
      ',' :: (joined (charsMembers ((k', j') :: ms)) ++ '\x7d' :: rest)))
    rw [hjoined, List.append_assoc, List.append_assoc, List.cons_append, List.cons_append, hquote,
      takeMembers?, skipSpace_cons rfl]
    simp [hbody, skipSpace_cons (c := ':') rfl, hj, skipSpace_cons (c := ',') rfl, hms,
      writtenMembers]

end

/-- A rendered document is read back. -/
theorem read?_render (j : Json) : read? j.render = some j.written := by
  have hvalue := takeValue?_chars j _ [] (Nat.lt_succ_self j.chars.length) ends_nil
  rw [List.append_nil] at hvalue
  simp [read?, render, hvalue, skipSpace]

/-! ## Control characters -/

/-- Text without control characters, line breaks among them. -/
def Clean (cs : List Char) : Prop := ∀ c ∈ cs, 32 ≤ c.toNat

instance (cs : List Char) : Decidable (Clean cs) :=
  List.decidableBAll (fun c : Char => 32 ≤ c.toNat) cs

theorem clean_append {cs ds : List Char} (hcs : Clean cs) (hds : Clean ds) : Clean (cs ++ ds) :=
  List.forall_mem_append.mpr ⟨hcs, hds⟩

theorem clean_cons {c : Char} {cs : List Char} (hc : 32 ≤ c.toNat) (hcs : Clean cs) :
    Clean (c :: cs) := List.forall_mem_cons.mpr ⟨hc, hcs⟩

theorem clean_nil : Clean [] := fun c hc => by cases hc

theorem clean_of_isDigit {cs : List Char} (h : ∀ c ∈ cs, c.isDigit = true) : Clean cs := by
  intro c hc
  have hlow : '0'.toNat ≤ c.toNat := (Char.isDigit_iff_toNat.mp (h c hc)).1
  exact le_trans (by decide) hlow

theorem clean_sign (negative : Bool) : Clean (if negative then ['-'] else []) := by
  cases negative
  · exact clean_nil
  · exact clean_cons (by decide) clean_nil

theorem clean_digits (n : Nat) : Clean (Decimal.digits n) :=
  clean_of_isDigit fun _ => Decimal.isDigit_of_mem_digits

theorem clean_spelling (s : Spelling) : Clean s.chars := by
  refine clean_append (clean_of_isDigit s.numeral.isDigit) (clean_append ?_ ?_)
  · unfold Spelling.fractionChars
    split
    · exact clean_nil
    · exact clean_cons (by decide) (clean_of_isDigit s.isDigit)
  · unfold Spelling.exponentChars
    cases s.exponent with
    | none => exact clean_nil
    | some e =>
      rw [Option.map_some, Option.getD_some, exponentText_json]
      refine clean_cons (by decide) (clean_append ?_ (clean_digits _))
      simpa using clean_sign (decide (e < 0))

theorem clean_number (x : Float) : Clean (number x) := by
  by_cases hx : ∃ s m q, Decimal.parts x = .finite s m q
  · obtain ⟨s, m, q, hx⟩ := hx
    obtain ⟨spelling, hnumber, -⟩ := exists_spelling_number hx
    rw [hnumber]
    exact clean_append (clean_sign s) (clean_spelling spelling)
  · push Not at hx
    rw [number_of_not_finite hx]
    decide

theorem clean_escape (c : Char) : Clean (escape c) := by
  have hc := escaped_escape c
  generalize escape c = cs at hc ⊢
  cases hc with
  | short _ hvisible => exact clean_cons (by decide) (clean_cons hvisible clean_nil)
  | number h =>
    refine clean_cons (by decide) (clean_cons (by decide) ?_)
    generalize c.toNat = n at h
    interval_cases n <;> decide
  | plain _ _ h => exact clean_cons h clean_nil

theorem clean_quote (s : String) : Clean (quote s) := by
  refine clean_append (clean_cons (by decide) fun c hc => ?_) (clean_cons (by decide) clean_nil)
  obtain ⟨d, -, hd⟩ := List.mem_flatMap.mp hc
  exact clean_escape d c hd

theorem clean_joined {parts : List (List Char)} (h : ∀ cs ∈ parts, Clean cs) :
    Clean (joined parts) := by
  induction parts with
  | nil => exact clean_nil
  | cons cs more ih =>
    rw [List.forall_mem_cons] at h
    cases more with
    | nil => exact h.1
    | cons ds more => exact clean_append h.1 (clean_cons (by decide) (ih h.2))

mutual

theorem clean_chars : ∀ j : Json, Clean j.chars
  | .null => by rw [chars]; decide
  | .bool b => by cases b <;> rw [chars] <;> decide
  | .int i => by
    rw [chars, toList_toString]
    exact clean_append (by simpa using clean_sign (decide (i < 0))) (clean_digits _)
  | .float x => by
    rw [chars]
    exact clean_number x
  | .text s => by
    rw [chars]
    exact clean_quote s
  | .array items => by
    rw [chars]
    exact clean_append (clean_cons (by decide) (clean_joined (clean_charsEach items)))
      (clean_cons (by decide) clean_nil)
  | .object members => by
    rw [chars]
    exact clean_append (clean_cons (by decide) (clean_joined (clean_charsMembers members)))
      (clean_cons (by decide) clean_nil)

theorem clean_charsEach : ∀ (js : List Json), ∀ cs ∈ charsEach js, Clean cs
  | [] => fun cs hcs => by cases hcs
  | j :: js => List.forall_mem_cons.mpr ⟨clean_chars j, clean_charsEach js⟩

theorem clean_charsMembers : ∀ (ms : List (String × Json)), ∀ cs ∈ charsMembers ms, Clean cs
  | [] => fun cs hcs => by cases hcs
  | (k, j) :: ms => List.forall_mem_cons.mpr
    ⟨clean_append (clean_quote k) (clean_cons (by decide) (clean_chars j)), clean_charsMembers ms⟩

end

theorem clean_render (j : Json) : Clean j.render.toList := by
  rw [render, String.toList_ofList]
  exact clean_chars j

end TrustGate.Json
