import Mathlib.Data.List.Forall2
import Syllogistic.Premise
import Syllogistic.Proofs.Statement.Faults
import Syllogistic.Proofs.Text.Outside
import Syllogistic.Proofs.Text.Slice

/-!
# The lines of a block

A block of premises is cut into lines just at its separators outside quotes, and nothing
else is lost: the lines with the separators put back between them are the block.  All lines
but the last close their quotes, so only the last one can be refused for an open quote.
-/

namespace Syllogistic
namespace Premise

open Text

variable {line : String}

/-- An open quote is the fault of a line just when its quotes are odd in number. -/
theorem exists_read_eq_unclosedQuote_iff :
    (∃ text, read line = .error (.unclosedQuote text)) ↔
      Odd (line.toList.count quoteMark) := by
  constructor
  · rintro ⟨text, refused⟩
    unfold read at refused
    rcases bind_eq_error_iff.1 refused with unscanned | ⟨tokens, scanned, unsaid⟩
    · exact (Token.scan_eq_error_iff.1 unscanned).1
    · exfalso
      split at unsaid
      · rcases bind_eq_error_iff.1 unsaid with unread | ⟨statement, _, absurdity⟩
        · have opened := Statement.exists_read_eq_unclosedQuote_iff.1 ⟨text, unread⟩
          exact Nat.not_even_iff_odd.2 opened (Statement.scan_eq_ok_iff.1 scanned).1
        · cases absurdity
      · split at unsaid
        · cases unsaid
        · rcases bind_eq_error_iff.1 unsaid with unnamed | ⟨name, _, empty⟩
          · cases (Token.name_eq_error_iff.1 unnamed).2
          · split at empty
            · cases empty
            · cases empty
        · cases unsaid
  · intro opened
    refine ⟨trimmed line, ?_⟩
    unfold read
    exact bind_eq_error_iff.2 (.inl (Token.scan_eq_error_iff.2 ⟨opened, rfl⟩))

theorem map_fst_lines (separators : List Char) (block : String) :
    (lines separators block).map Prod.fst =
      List.range' 1 (cutOutsideQuotes separators.contains block.toList).length := by
  unfold lines
  rw [List.map_map, ← List.zipIdx_map_snd]
  rfl

theorem toList_join_zipWith (texts endings : List String) :
    (String.join (List.zipWith (· ++ ·) texts endings)).toList =
      (List.zipWith (· ++ ·) (texts.map String.toList) (endings.map String.toList)).flatten := by
  rw [String.join_eq, String.toList_ofList, List.map_zipWith, List.zipWith_map]
  simp only [String.toList_append]

/--
The lines of a block are numbered from one on.  There is one line more than separators
outside quotes; with these put back between them the lines are the block, and no line has
any left.  Every line but the last closes its quotes and is not refused for an open one;
the last is refused for it just when the block has an odd number of quotes.  In one pass
that counts bytes the lines are found as slices of the block, both ends of each of them at
the boundary of a character.
-/
theorem lines_divide_block (separators : List Char) (block : String) :
    let texts := (lines separators block).map Prod.snd
    let cuts := outsideStops separators.contains block.toList
    (lines separators block).map Prod.fst = List.range' 1 (cuts.length + 1) ∧
      String.join (List.zipWith (· ++ ·) texts (cuts.map String.singleton ++ [""])) = block ∧
      texts.length = cuts.length + 1 ∧
      (∀ text ∈ texts, outsideStops separators.contains text.toList = []) ∧
      (∀ text ∈ texts.dropLast, Even (text.toList.count quoteMark) ∧
        ∀ clause, read text ≠ .error (.unclosedQuote clause)) ∧
      (∃ last ∈ texts.getLast?, (∃ clause, read last = .error (.unclosedQuote clause)) ↔
        Odd (block.toList.count quoteMark)) ∧
      List.Forall₂ (fun ends text => IsSlice block ends text.toList)
        (slices separators.contains block) texts := by
  intro texts cuts
  have pieces : texts = (cutOutsideQuotes separators.contains block.toList).map String.ofList :=
    map_snd_lines separators block
  have count := length_cutOutsideQuotes separators.contains block.toList
  refine ⟨?_, ?_, ?_, ?_, ?_, ?_, ?_⟩
  · rw [map_fst_lines, count]
  · have rejoined := flatten_zipWith_outsideStops separators.contains block.toList []
    rw [List.append_nil] at rejoined
    rw [← String.toList_inj, toList_join_zipWith, pieces]
    simpa [Function.comp_def] using rejoined
  · rw [pieces, List.length_map, count]
  · rw [pieces, List.forall_mem_map]
    intro piece member
    rw [String.toList_ofList, outsideStops_eq_nil_iff]
    exact cutOutsideQuotes_of_mem member
  · rw [pieces, ← List.map_dropLast, List.forall_mem_map]
    intro piece member
    have closed := leavesQuoteOpen_eq_false_iff.1 (leavesQuoteOpen_of_mem_dropLast member)
    rw [String.toList_ofList]
    refine ⟨closed, fun clause refused => ?_⟩
    have opened := exists_read_eq_unclosedQuote_iff.1 ⟨clause, refused⟩
    rw [String.toList_ofList] at opened
    exact Nat.not_even_iff_odd.2 opened closed
  · obtain ⟨last, ends, same⟩ :=
      exists_mem_getLast?_cutOutsideQuotes separators.contains block.toList
    refine ⟨String.ofList last, ?_, ?_⟩
    · rw [pieces, List.getLast?_map, Option.mem_def.1 ends]
      rfl
    · rw [exists_read_eq_unclosedQuote_iff, String.toList_ofList, ← Nat.not_even_iff_odd,
        ← Nat.not_even_iff_odd, ← leavesQuoteOpen_eq_false_iff, same, leavesQuoteOpen_eq_false_iff]
  · rw [pieces, List.forall₂_map_right_iff]
    simpa using isSlice_slices separators.contains block

example : (lines ['\n', ';', '"'] "All \"a;b\" are C's;B\n\"é").map Prod.snd =
    ["All \"a;b\" are C's", "B", "\"é"] := by
  decide +kernel

end Premise
end Syllogistic
