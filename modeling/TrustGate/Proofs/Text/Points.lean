import TrustGate.Text.Points
import Mathlib.Data.List.TakeWhile

/-!
# What an encoding takes

A codec takes a text if and only if it has octets for each of its code points; else its failure is
of one kind and there is a code point without octets.  UTF-8 takes the texts of characters, and
nothing is lost of them:

    characters ps = .ok s ↔ ps = points s        (characters_eq_ok_iff)
-/

namespace TrustGate.Text

namespace Codec

variable {codec : Codec} {ps : List Point} {f : Failure}

theorem check_eq_ok_iff : codec.check ps = .ok () ↔ ∀ p ∈ ps, codec.accepts p = true := by
  rw [← List.dropWhile_eq_nil_iff, check]
  cases ps.dropWhile codec.accepts with
  | nil => exact iff_of_true rfl rfl
  | cons p rest => exact iff_of_false (fun h => by cases h) (List.cons_ne_nil p rest)

theorem kind_of_check (h : codec.check ps = .error f) : f.kind = .unicodeEncode := by
  unfold check at h
  cases hrest : ps.dropWhile codec.accepts with
  | nil => rw [hrest] at h; cases h
  | cons p rest =>
    rw [hrest] at h
    obtain rfl := Except.error.inj h
    rfl

theorem exists_of_check (h : codec.check ps = .error f) : ∃ p ∈ ps, codec.accepts p = false := by
  by_contra hnone
  have hall : ∀ p ∈ ps, codec.accepts p = true := by simpa using hnone
  rw [check_eq_ok_iff.mpr hall] at h
  cases h

end Codec

theorem filterMap_char?_points (s : String) : (points s).filterMap Point.char? = s.toList := by
  rw [points, List.filterMap_map]
  exact List.filterMap_some

theorem points_of_accepts {ps : List Point} (h : ∀ p ∈ ps, Codec.utf8.accepts p = true) :
    ps = points (String.ofList (ps.filterMap Point.char?)) := by
  rw [points, String.toList_ofList]
  induction ps with
  | nil => rfl
  | cons p ps ih =>
    rw [List.forall_mem_cons] at h
    cases p with
    | char c => exact congrArg (Point.char c :: ·) (ih h.2)
    | half offset => cases h.1

theorem characters_eq_ok_iff {ps : List Point} {s : String} :
    characters ps = .ok s ↔ ps = points s := by
  constructor
  · intro h
    cases hcheck : Codec.utf8.check ps with
    | error f => simp only [characters, hcheck] at h; cases h
    | ok _ =>
      simp only [characters, hcheck] at h
      obtain rfl := Except.ok.inj h
      exact points_of_accepts (Codec.check_eq_ok_iff.mp hcheck)
  · rintro rfl
    have hcheck : Codec.utf8.check (points s) = .ok () := by
      refine Codec.check_eq_ok_iff.mpr fun p hp => ?_
      obtain ⟨c, -, rfl⟩ := List.mem_map.mp hp
      rfl
    simp only [characters, hcheck, filterMap_char?_points, String.ofList_toList]
    rfl

/-- What cannot be written as UTF-8 holds half of a surrogate pair. -/
theorem half_mem_of_characters {ps : List Point} {f : Failure} (h : characters ps = .error f) :
    f.kind = .unicodeEncode ∧ ∃ offset, Point.half offset ∈ ps := by
  cases hcheck : Codec.utf8.check ps with
  | ok _ => simp only [characters, hcheck] at h; cases h
  | error g =>
    simp only [characters, hcheck] at h
    obtain rfl := Except.error.inj h
    obtain ⟨p, hp, hrefused⟩ := Codec.exists_of_check hcheck
    cases p with
    | char c => cases hrefused
    | half offset => exact ⟨Codec.kind_of_check hcheck, offset, hp⟩

end TrustGate.Text
