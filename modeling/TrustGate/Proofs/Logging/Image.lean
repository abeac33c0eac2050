import TrustGate.Logging.Record
import TrustGate.Proofs.Json.RoundTrip
import TrustGate.Proofs.Value.LastWins

/-!
# What a line tells of a value

    ToldAs v j      the document `j` tells the value `v`

Containers keep their structure and their order.  The members of a mapping are named by the texts
of its keys; of keys with the same text the last one counts, in the place of the first.  Octets are
told in pairs of upper-case hexadecimal digits, and whatever a document has no word for by its
text.  A number beyond all doubles, and what is no number, is told as null.

    ToldAs v (image v).written      what is read back tells the value     (toldAs_image)

A value whose whole numbers can all be written has an image, and it can be written
(writable_of_hasText).
-/

namespace TrustGate.Logging

/-! ## Octets -/

/-- The upper-case hexadecimal digit of a number below sixteen. -/
def upperHexDigit (n : Nat) : Char := "0123456789ABCDEF".toList.getD n ' '

/-- An octet as two digits. -/
def IsHexPair (b : UInt8) (pair : String) : Prop :=
  pair = String.ofList [upperHexDigit (b.toNat / 16), upperHexDigit (b.toNat % 16)]

/-- Octets as pairs of digits joined by colons. -/
def IsFingerprint (bs : Octets) (text : String) : Prop :=
  ∃ pairs, List.Forall₂ IsHexPair bs pairs ∧ text = ":".intercalate pairs

theorem toUpper_digitChar {d : Nat} (hd : d < 16) : d.digitChar.toUpper = upperHexDigit d := by
  interval_cases d <;> rfl

theorem hex_two {n : Nat} (hn : n < 256) :
    Text.hex 2 n = [(n / 16).digitChar, (n % 16).digitChar] := by
  rcases Nat.lt_or_ge n 16 with hlow | hhigh
  · have hdigit : Nat.toDigits 16 n = [n.digitChar] := Nat.toDigits_of_lt_base hlow
    simp [Text.hex, hdigit, Nat.div_eq_of_lt hlow, Nat.mod_eq_of_lt hlow]
  · have hdigits : Nat.toDigits 16 n = [(n / 16).digitChar, (n % 16).digitChar] := by
      rw [Nat.toDigits_of_base_le (by decide) hhigh, Nat.toDigits_of_lt_base (by omega)]
      rfl
    simp [Text.hex, hdigits]

theorem upper_hex {n : Nat} (hn : n < 256) :
    (Text.hex 2 n).map Char.toUpper = [upperHexDigit (n / 16), upperHexDigit (n % 16)] := by
  rw [hex_two hn, List.map_cons, List.map_singleton, toUpper_digitChar (by omega),
    toUpper_digitChar (by omega)]

theorem isFingerprint_fingerprint (bs : Octets) : IsFingerprint bs (fingerprint bs) := by
  refine ⟨_, ?_, rfl⟩
  rw [List.forall₂_map_right_iff, List.forall₂_same]
  intro b _
  rw [IsHexPair, upper_hex b.toNat_lt]

/-! ## Values -/

/-- What is told by its text, having no other form in a document. -/
def IsPlain : Value → Prop
  | .dateTime _ | .date _ | .clock _ | .other _ => True
  | _ => False

/-- What a document says of a value, kind by kind. -/
inductive ToldAs : Value → Json → Prop
  | null : ToldAs .null .null
  | bool (b : Bool) : ToldAs (.bool b) (.bool b)
  | int (i : Int) : ToldAs (.int i) (.int i)
  | version (v : TlsVersion) : ToldAs (.version v) (.int v.number)
  | float {x : Float} (h : x.isFinite = true) : ToldAs (.float x) (.float x)
  | beyond {x : Float} (h : x.isFinite = false) : ToldAs (.float x) .null
  | text (s : String) : ToldAs (.text s) (.text s)
  | bytes {bs : Octets} {s : String} (h : IsFingerprint bs s) : ToldAs (.bytes bs) (.text s)
  | list {xs : List Value} {js : List Json} (h : List.Forall₂ ToldAs xs js) :
      ToldAs (.list xs) (.array js)
  | tuple {xs : List Value} {js : List Json} (h : List.Forall₂ ToldAs xs js) :
      ToldAs (.tuple xs) (.array js)
  | dict {es : List (Value × Value)} {ms : List (String × Json)}
      (keys : ms.map Prod.fst = (es.map fun e => e.1.shown).eraseDups)
      (last : ∀ key, Option.Rel ToldAs ((es.map fun e => (e.1.shown, e.2)).reverse.lookup key)
        (ms.lookup key)) : ToldAs (.dict es) (.object ms)
  | plain {v : Value} (h : IsPlain v) : ToldAs v (.text v.shown)

/-! ## Images -/

theorem memberImages_eq_map (es : List (Value × Value)) :
    memberImages es = es.map fun e => (e.1.shown, image e.2) := by
  induction es with
  | nil => rfl
  | cons e es ih =>
    obtain ⟨k, v⟩ := e
    rw [memberImages, ih, List.map_cons]

theorem writtenMembers_eq_map (ms : List (String × Json)) :
    Json.writtenMembers ms = ms.map fun m => (m.1, m.2.written) := by
  induction ms with
  | nil => rfl
  | cons m ms ih =>
    obtain ⟨k, j⟩ := m
    rw [Json.writtenMembers, ih, List.map_cons]

/-- The members told of a mapping: its texts and values set one after the other. -/
theorem writtenMembers_ofEntries (es : List (Value × Value)) :
    Json.writtenMembers (ofEntries (· == ·) (memberImages es)) =
      (ofEntries (· == ·) (es.map fun e => (e.1.shown, e.2))).map
        fun p => (p.1, (image p.2).written) := by
  have himages : memberImages es =
      (es.map fun e => (e.1.shown, e.2)).map fun p => (p.1, image p.2) := by
    rw [memberImages_eq_map, List.map_map]
    rfl
  rw [himages, ofEntries_map_snd, writtenMembers_eq_map, List.map_map]
  rfl

theorem toldAs_float (x : Float) : ToldAs (.float x) (Json.float x).written := by
  unfold Json.written
  split
  · next s m q h => exact .float ((Decimal.isFinite_iff x).mpr ⟨s, m, q, h⟩)
  · next h =>
    refine .beyond (Bool.eq_false_iff.mpr fun hx => ?_)
    obtain ⟨s, m, q, hx⟩ := (Decimal.isFinite_iff x).mp hx
    exact h s m q hx

mutual

theorem toldAs_image : ∀ v : Value, ToldAs v (image v).written
  | .null => by simpa only [image, Json.written] using .null
  | .bool b => by simpa only [image, Json.written] using .bool b
  | .int i => by simpa only [image, Json.written] using .int i
  | .float x => by
    rw [image]
    exact toldAs_float x
  | .text s => by simpa only [image, Json.written] using .text s
  | .bytes bs => by
    simpa only [image, Json.written] using .bytes (isFingerprint_fingerprint bs)
  | .list xs => by simpa only [image, Json.written] using .list (toldAs_images xs)
  | .tuple xs => by simpa only [image, Json.written] using .tuple (toldAs_images xs)
  | .dict es => by
    have hlast : LastWins ToldAs (es.map fun e => (e.1.shown, e.2)) _ :=
      lastWins_ofEntries (f := fun v => (image v).written)
        (List.forall_mem_map.mpr (toldAs_memberImages es))
    simp only [image, Json.written, writtenMembers_ofEntries]
    exact .dict (hlast.keys.trans (by rw [List.map_map]; rfl)) hlast.last
  | .version v => by simpa only [image, Json.written] using .version v
  | .dateTime t => by simpa only [image, Json.written] using .plain (v := .dateTime t) trivial
  | .date d => by simpa only [image, Json.written] using .plain (v := .date d) trivial
  | .clock c => by simpa only [image, Json.written] using .plain (v := .clock c) trivial
  | .other s => by simpa only [image, Json.written] using .plain (v := .other s) trivial

theorem toldAs_images : ∀ xs : List Value,
    List.Forall₂ ToldAs xs (Json.writtenEach (images xs))
  | [] => .nil
  | x :: xs => .cons (toldAs_image x) (toldAs_images xs)

theorem toldAs_memberImages : ∀ (es : List (Value × Value)), ∀ e ∈ es,
    ToldAs e.2 (image e.2).written
  | [] => fun e he => by cases he
  | (k, v) :: es => List.forall_mem_cons.mpr ⟨toldAs_image v, toldAs_memberImages es⟩

end

/-! ## Whole numbers that can be written -/

theorem membersHaveText_iff (ms : List (String × Json)) :
    Json.membersHaveText ms = true ↔ ∀ m ∈ ms, m.2.hasText = true := by
  induction ms with
  | nil => simp [Json.membersHaveText]
  | cons m ms ih =>
    obtain ⟨k, j⟩ := m
    rw [Json.membersHaveText, Bool.and_eq_true, ih, List.forall_mem_cons]

theorem hasText_number (v : TlsVersion) : Decimal.hasText v.number = true := by
  cases v <;> decide +kernel

mutual

/-- If all whole numbers inside a value can be written, so can its keys and its image. -/
theorem writable_of_hasText : ∀ v : Value, v.hasText = true →
    keysHaveText v = true ∧ (image v).hasText = true
  | .int i => fun h => ⟨by simp only [keysHaveText], by rwa [image, Json.hasText]⟩
  | .list xs | .tuple xs => fun h => by
    rw [keysHaveText, image, Json.hasText]
    exact eachWritable_of_hasText xs h
  | .dict es => fun h => by
    obtain ⟨hkeys, hvalues⟩ := entriesWritable_of_hasText es h
    rw [keysHaveText, image, Json.hasText, membersHaveText_iff]
    exact ⟨hkeys, fun m hm => hvalues m (mem_of_lookup_reverse (mem_ofEntries_iff.mp hm))⟩
  | .version v => fun _ =>
    ⟨by simp only [keysHaveText], by rw [image, Json.hasText, hasText_number]⟩
  | .null | .bool _ | .float _ | .text _ | .bytes _ | .dateTime _ | .date _ | .clock _
  | .other _ => fun _ =>
    ⟨by simp only [keysHaveText], by simp only [image, Json.hasText]⟩

theorem eachWritable_of_hasText : ∀ xs : List Value, Value.eachHasText xs = true →
    eachKeysHaveText xs = true ∧ Json.eachHasText (images xs) = true
  | [] => fun _ => ⟨rfl, rfl⟩
  | x :: xs => fun h => by
    rw [Value.eachHasText, Bool.and_eq_true] at h
    rw [eachKeysHaveText, images, Json.eachHasText, Bool.and_eq_true, Bool.and_eq_true]
    exact and_and_and_comm.mp ⟨writable_of_hasText x h.1, eachWritable_of_hasText xs h.2⟩

theorem entriesWritable_of_hasText : ∀ es : List (Value × Value),
    Value.entriesHaveText es = true →
      entriesKeysHaveText es = true ∧ ∀ m ∈ memberImages es, m.2.hasText = true
  | [] => fun _ => ⟨rfl, fun m hm => by cases hm⟩
  | (k, v) :: es => fun h => by
    rw [Value.entriesHaveText, Bool.and_eq_true, Bool.and_eq_true] at h
    obtain ⟨hkeys, hvalue⟩ := writable_of_hasText v h.1.2
    obtain ⟨hrest, hvalues⟩ := entriesWritable_of_hasText es h.2
    rw [entriesKeysHaveText, h.1.1, hkeys, hrest, memberImages, List.forall_mem_cons]
    exact ⟨rfl, hvalue, hvalues⟩

end

end TrustGate.Logging
