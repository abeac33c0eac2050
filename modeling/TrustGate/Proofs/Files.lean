import Mathlib.Tactic.Common
import TrustGate.Files

/-!
# What a path leads to

Looking at a path and reading it end in few ways, whatever the system answers:

    files.HasFile path       it leads to a regular file            (isFile_eq_true_iff)
    files.Denies path f      the system does not say where it leads    (isFile_eq_error_iff)

A path with a null in it leads nowhere, and reading it is the one failure that is not the system's
(read_eq_error).
-/

namespace TrustGate

/-! ## Nulls in paths -/

theorem Net.mem_intercalate_iff {c separator : Char} (h : c ≠ separator)
    {parts : List (List Char)} : c ∈ [separator].intercalate parts ↔ ∃ part ∈ parts, c ∈ part := by
  induction parts with
  | nil => simp
  | cons part rest ih =>
    cases rest with
    | nil => simp
    | cons next rest =>
      rw [List.intercalate_cons_cons, List.mem_append, List.mem_append, ih]
      simp [h]

/-- What stands in a path, slashes apart, stands in one of its parts. -/
theorem mem_pathParts_iff {c : Char} (hslash : c ≠ '/') {path : String} :
    (∃ part ∈ pathParts path, c ∈ part.toList) ↔ c ∈ path.toList := by
  unfold pathParts
  conv_rhs => rw [← Net.intercalate_splitAt '/' path.toList, Net.mem_intercalate_iff hslash]
  simp

/-- What stands in a path, slashes and dots apart, stands in it when it is normal. -/
theorem mem_normalPath_iff {c : Char} (hslash : c ≠ '/') (hdot : c ≠ '.') {path : String} :
    c ∈ (normalPath path).toList ↔ c ∈ path.toList := by
  have hroot : c ∉ (pathRoot path).toList := by
    unfold pathRoot
    split <;> simp [hslash]
  have hkept : (∃ part ∈ pathParts path, c ∈ part.toList) ↔
      ∃ part ∈ (pathParts path).filter (fun p => p ≠ "" ∧ p ≠ "."), c ∈ part.toList := by
    constructor
    · rintro ⟨part, hpart, hc⟩
      refine ⟨part, List.mem_filter.mpr ⟨hpart, decide_eq_true ⟨?_, ?_⟩⟩, hc⟩
      · rintro rfl
        simp at hc
      · rintro rfl
        simp [hdot] at hc
    · rintro ⟨part, hpart, hc⟩
      exact ⟨part, (List.mem_filter.mp hpart).1, hc⟩
  have htext : c ∈ (pathRoot path ++ String.intercalate "/"
      ((pathParts path).filter fun p => p ≠ "" ∧ p ≠ ".")).toList ↔ c ∈ path.toList := by
    have hparts : _ ↔ c ∈ path.toList := mem_pathParts_iff hslash
    rw [String.toList_append, String.toList_intercalate, List.mem_append, ← hparts, hkept]
    show c ∈ (pathRoot path).toList ∨ c ∈ ['/'].intercalate _ ↔ _
    rw [Net.mem_intercalate_iff hslash]
    simp [hroot]
  unfold normalPath
  simp only
  split
  · next hempty =>
    rw [hempty] at htext
    rw [← htext]
    simp [hdot]
  · exact htext

theorem hasNull_normalPath (path : String) : hasNull (normalPath path) = hasNull path := by
  unfold hasNull
  rw [Bool.eq_iff_iff, List.contains_iff_mem, List.contains_iff_mem]
  exact mem_normalPath_iff (by decide) (by decide)

/-! ## Looking at paths and reading them -/

namespace Files

/-- A path leads to a regular file. -/
structure HasFile (files : Files) (path : String) : Prop where
  whole : hasNull path = false
  regular : files.stat (normalPath path) = .ok .regular

/-- The system does not say what a path leads to, nor that it leads nowhere. -/
inductive Denies (files : Files) (path : String) : Failure → Prop
  | intro {e : SystemError} (whole : hasNull path = false)
      (refused : files.stat (normalPath path) = .error e) (present : e.isAbsence = false) :
      Denies files path (e.failure [normalPath path])

variable {files : Files} {path : String} {f : Failure}

theorem isFile_eq_true_iff : files.isFile path = .ok true ↔ files.HasFile path := by
  unfold isFile
  simp only [hasNull_normalPath]
  cases hnull : hasNull path with
  | true => exact ⟨nofun, fun h => nomatch hnull.symm.trans h.whole⟩
  | false =>
    simp only [Bool.false_eq_true, if_false]
    cases hstat : files.stat (normalPath path) with
    | ok kind =>
      simp only [Except.ok.injEq, decide_eq_true_eq]
      constructor
      · rintro rfl
        exact ⟨hnull, hstat⟩
      · intro h
        exact Except.ok.inj (hstat.symm.trans h.regular)
    | error e =>
      refine ⟨fun h => ?_, fun h => nomatch hstat.symm.trans h.regular⟩
      cases habsent : e.isAbsence <;> simp [habsent] at h

theorem isFile_eq_error_iff : files.isFile path = .error f ↔ files.Denies path f := by
  unfold isFile
  simp only [hasNull_normalPath]
  cases hnull : hasNull path with
  | true => exact ⟨nofun, fun h => by cases h with | intro hwhole => cases hnull.symm.trans hwhole⟩
  | false =>
    simp only [Bool.false_eq_true, if_false]
    cases hstat : files.stat (normalPath path) with
    | ok kind =>
      exact ⟨nofun, fun h => by cases h with | intro _ hrefused => cases hstat.symm.trans hrefused⟩
    | error e =>
      constructor
      · intro h
        cases habsent : e.isAbsence with
        | true => simp [habsent] at h
        | false =>
          simp only [habsent, Bool.false_eq_true, if_false] at h
          cases h
          exact .intro hnull hstat habsent
      · rintro ⟨-, hrefused, hpresent⟩
        cases hstat.symm.trans hrefused
        simp only [hpresent, Bool.false_eq_true, if_false]

theorem Denies.isOs (h : files.Denies path f) : f.kind.isOs = true := by
  cases h with
  | intro _ _ _ => exact SystemError.isOs_failure _ _

theorem read_of_null (h : hasNull path = true) :
    files.read path = .error (Failure.of NullInPath.mk) := by
  unfold read
  simp only [hasNull_normalPath, h, if_true]
  rfl

/-- A file that is not read fails as the system says, or has a null in its path. -/
theorem read_eq_error (h : files.read path = .error f) :
    f.kind.isOs = true ∨ hasNull path = true ∧ f = Failure.of NullInPath.mk := by
  cases hnull : hasNull path with
  | true =>
    rw [read_of_null hnull] at h
    cases h
    exact .inr ⟨rfl, rfl⟩
  | false =>
    unfold read at h
    simp only [hasNull_normalPath, hnull, Bool.false_eq_true, if_false] at h
    cases hcontents : files.contents (normalPath path) with
    | ok octets =>
      rw [hcontents] at h
      cases h
    | error e =>
      rw [hcontents] at h
      cases h
      exact .inl (e.isOs_failure _)

end Files

end TrustGate
