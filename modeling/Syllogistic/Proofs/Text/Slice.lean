import Mathlib.Data.String.Basic
import Syllogistic.Proofs.Text.Cut

/-!
# Pieces as slices

The pieces of a text can be found in one pass over its characters that counts bytes: a
piece runs from the end of the last stop outside quotes to the beginning of the next one.
Both ends of every such slice are boundaries of characters, and what stands between them
in the text is the piece.
-/

namespace Syllogistic
namespace Text

open String.Pos (Raw)

/--
The slices of a text from `index` on, of which the first has begun at `start`.  The flag
says whether the text stands inside a quoted stretch at `index`.
-/
def slicesFrom (stop : Char → Bool) : Bool → Raw → Raw → List Char → List (Raw × Raw)
  | _, start, index, [] => [(start, index)]
  | inside, start, index, c :: rest =>
      if c = quoteMark then slicesFrom stop (!inside) start (index + c) rest
      else if stop c && !inside then
        (start, index) :: slicesFrom stop inside (index + c) (index + c) rest
      else slicesFrom stop inside start (index + c) rest

/-- The slices of a text between its stops outside quotes. -/
def slices (stop : Char → Bool) (text : String) : List (Raw × Raw) :=
  slicesFrom stop false 0 0 text.toList

/-- Two boundaries of characters, and the piece of the text between them. -/
structure IsSlice (text : String) (ends : Raw × Raw) (piece : List Char) : Prop where
  begins : ends.1.IsValid text
  finishes : ends.2.IsValid text
  extracts : Raw.extract text ends.1 ends.2 = String.ofList piece

variable {stop : Char → Bool} {inside : Bool} {before piece behind rest : List Char}

/-- The offset behind some characters. -/
def offset (before : List Char) : Raw :=
  (String.ofList before).rawEndPos

theorem offset_append_singleton (before : List Char) (c : Char) :
    offset (before ++ [c]) = offset before + c := by
  simp [offset]

theorem isValid_offset (before behind : List Char) :
    (offset before).IsValid (String.ofList (before ++ behind)) := by
  rw [String.Pos.Raw.isValid_iff_exists_append]
  exact ⟨String.ofList before, String.ofList behind, String.ofList_append, rfl⟩

/-- A stretch of a text stands between the offsets of its ends. -/
theorem isSlice_offset (before piece behind : List Char) :
    IsSlice (String.ofList (before ++ piece ++ behind)) (offset before, offset (before ++ piece))
      piece where
  begins := by
    rw [List.append_assoc]
    exact isValid_offset before _
  finishes := isValid_offset (before ++ piece) behind
  extracts := by
    simp only [offset, String.rawEndPos_ofList, String.utf8Len_append]
    exact String.extract_of_valid before piece behind

/-- The slices that are yet to come are those of the pieces of what is yet to come. -/
theorem isSlice_slicesFrom (stop : Char → Bool) (inside : Bool) (before piece rest : List Char) :
    List.Forall₂ (IsSlice (String.ofList (before ++ piece ++ rest)))
      (slicesFrom stop inside (offset before) (offset (before ++ piece)) rest)
      ((cutFrom stop inside rest).modifyHead (piece ++ ·)) := by
  induction rest generalizing inside before piece with
  | nil =>
      have only := isSlice_offset before piece []
      simpa [slicesFrom] using only
  | cons c rest ih =>
      have whole : before ++ piece ++ c :: rest = before ++ (piece ++ [c]) ++ rest := by simp
      have next : offset (before ++ piece) + c = offset (before ++ (piece ++ [c])) := by
        rw [← List.append_assoc, offset_append_singleton]
      have longer (inside : Bool) :
          List.Forall₂ (IsSlice (String.ofList (before ++ piece ++ c :: rest)))
            (slicesFrom stop inside (offset before) (offset (before ++ piece) + c) rest)
            (((cutFrom stop inside rest).modifyHead (c :: ·)).modifyHead (piece ++ ·)) := by
        have continued := ih inside before (piece ++ [c])
        rw [whole, next, List.modifyHead_modifyHead]
        simpa [Function.comp_def] using continued
      rw [slicesFrom, cutFrom]
      split
      · exact longer (!inside)
      · split
        · have first := isSlice_offset before piece (c :: rest)
          have others := ih inside (before ++ (piece ++ [c])) []
          rw [List.append_nil, ← whole, ← next, modifyHead_nil_append] at others
          rw [List.modifyHead_cons, List.append_nil]
          exact .cons first others
        · exact longer inside

/-- The slices of a text are its pieces, and both ends of each are boundaries of characters. -/
theorem isSlice_slices (stop : Char → Bool) (text : String) :
    List.Forall₂ (IsSlice text) (slices stop text) (cutOutsideQuotes stop text.toList) := by
  have found := isSlice_slicesFrom stop false [] [] text.toList
  rw [modifyHead_nil_append] at found
  simpa [slices, cutOutsideQuotes, offset] using found

end Text
end Syllogistic
