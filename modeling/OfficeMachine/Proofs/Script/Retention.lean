/-
This file tells which physical lines a script keeps. The worker obeys the lines in front of the
first drawing definition, without the blank lines, the comments and the placements of comments.
-/

import OfficeMachine.Proofs.Script.Grammar
import OfficeMachine.Proofs.Text.Lines

namespace OfficeMachine.Script

/-- A line is dropped if it is blank, begins with two hyphens or places a comment. -/
def Line.IsDropped (line : Line) : Prop :=
  line.text = "" ∨ ['-', '-'] <+: line.text.toList ∨ line.tokens.head? = some "COMMENT"

instance (line : Line) : Decidable line.IsDropped := inferInstanceAs (Decidable (_ ∨ _ ∨ _))

/-- The obeyed lines end in front of the first line whose first token is the word of drawings. -/
def obeyedLines (source : String) : List Line :=
  ((physicalLines source).takeWhile fun line => line.tokens.head? ≠ some "DEFINE").filter
    fun line => ¬line.IsDropped

/-- A text begins with two hyphens exactly if its first word does. -/
theorem hyphens_prefix_iff {text first : List Char} {others : List (List Char)}
    (shape : Text.words text = first :: others) :
    ['-', '-'] <+: first ↔ ['-', '-'] <+: Text.trim text := by
  obtain ⟨isWord, rest, split, -, ending⟩ := Text.trim_of_words_eq_cons shape
  rw [split]
  constructor
  · intro starts
    exact starts.trans (List.prefix_append first rest)
  · intro given
    obtain ⟨tail, same⟩ := given
    rcases first with _ | ⟨character, _ | ⟨next, front⟩⟩
    · exact absurd rfl isWord.1
    · -- A word of one hyphen would leave the second one to the rest, which starts with a blank.
      rcases ending with empty | ⟨separator, after, shaped, blank⟩
      · simp [empty] at same
      · have second : '-' = separator := by simp [shaped] at same; exact same.2.1
        rw [← second] at blank
        exact absurd blank (by decide)
    · have both : '-' = character ∧ '-' = next := by simp at same; exact ⟨same.1, same.2.1⟩
      rw [← both.1, ← both.2]
      exact ⟨front, rfl⟩

theorem Line.isIdle_iff {line : Line} (cut : line.IsCut) :
    line.isIdle = true ↔ line.IsDropped := by
  obtain ⟨raw, shape⟩ := cut
  rw [shape]
  cases words : Text.words raw with
  | nil =>
      have empty := Text.words_eq_nil_iff.mp words
      simp [Line.isIdle, Line.IsDropped, Line.ofRaw, words, empty]
  | cons first others =>
      have inked : Text.trim raw ≠ [] := by
        rw [Ne, ← Text.words_eq_nil_iff, words]
        exact List.cons_ne_nil _ _
      have hyphens := hyphens_prefix_iff words
      simp [Line.isIdle, Line.IsDropped, Line.ofRaw, words, inked, hyphens]

theorem isCut_of_mem_physicalLines {source : String} {line : Line}
    (member : line ∈ physicalLines source) : line.IsCut := by
  obtain ⟨⟨raw, number⟩, -, same⟩ := List.mem_map.mp member
  rw [← same]
  exact Line.isCut_ofRaw number raw

/-- Physical lines are counted from one. -/
theorem number_of_physicalLines {source : String} {index : Nat} {line : Line}
    (found : (physicalLines source)[index]? = some line) : line.number = index + 1 := by
  simp only [physicalLines, List.getElem?_map, List.getElem?_zipIdx, Option.map_map,
    Option.map_eq_some_iff] at found
  obtain ⟨raw, -, same⟩ := found
  rw [← same]
  simp [Line.ofRaw, Nat.add_comm]

theorem physicalLines_increase (source : String) :
    (physicalLines source).Pairwise fun first second => first.number < second.number := by
  rw [List.pairwise_iff_getElem]
  intro first second firstInside secondInside before
  rw [number_of_physicalLines (List.getElem?_eq_getElem firstInside),
    number_of_physicalLines (List.getElem?_eq_getElem secondInside)]
  omega

theorem retainedLines_sublist (source : String) :
    List.Sublist (retainedLines source) (physicalLines source) :=
  List.filter_sublist.trans (List.takeWhile_sublist _)

theorem isCut_of_mem_retainedLines {source : String} {line : Line}
    (member : line ∈ retainedLines source) : line.IsCut :=
  isCut_of_mem_physicalLines ((retainedLines_sublist source).subset member)

theorem retainedLines_increase (source : String) :
    (retainedLines source).Pairwise fun first second => first.number < second.number :=
  (physicalLines_increase source).sublist (retainedLines_sublist source)

theorem inked_of_mem_retainedLines {source : String} {line : Line}
    (member : line ∈ retainedLines source) : line.tokens ≠ [] := by
  intro empty
  have kept := (List.mem_filter.mp member).2
  simp [Line.isIdle, empty] at kept

/-- The physical lines of a text that ends a line stay, and the lines of what follows come behind
them. -/
theorem exists_physicalLines_append {first : String} (ends : Text.EndsLine first.toList)
    (second : String) :
    ∃ more, physicalLines (first ++ second) = physicalLines first ++ more ∧
      ∀ line ∈ more, (physicalLines first).length < line.number := by
  obtain ⟨more, whole⟩ := ends.exists_lines_append second.toList
  let behind := more.zipIdx (1 + (Text.lines first.toList).length)
  refine ⟨behind.map fun entry => Line.ofRaw entry.2 entry.1, ?_, ?_⟩
  · unfold physicalLines
    rw [String.toList_append, whole, List.zipIdx_append, List.map_append]
  · intro line member
    obtain ⟨⟨raw, number⟩, inside, same⟩ := List.mem_map.mp member
    have counted := (List.mem_zipIdx inside).1
    rw [← same]
    simp only [physicalLines, List.length_map, List.length_zipIdx, Line.ofRaw]
    omega

theorem exists_retainedLines_append {first : String} (ends : Text.EndsLine first.toList)
    (second : String) :
    ∃ more, retainedLines (first ++ second) = retainedLines first ++ more ∧
      ∀ line ∈ more, (physicalLines first).length < line.number := by
  obtain ⟨more, whole, behind⟩ := exists_physicalLines_append ends second
  unfold retainedLines
  rw [whole, List.takeWhile_append]
  split
  · rename_i open_
    refine ⟨_, by rw [List.filter_append, (List.takeWhile_prefix _).eq_of_length open_], ?_⟩
    intro line member
    exact behind line ((List.takeWhile_sublist _).subset (List.mem_filter.mp member).1)
  · exact ⟨[], by rw [List.append_nil], by simp⟩

/-- A line of a text that ends a line has its place among the retained lines whatever follows. -/
theorem getElem?_retainedLines_append {first : String} (ends : Text.EndsLine first.toList)
    {second : String} {index : Nat} {line : Line}
    (here : (retainedLines (first ++ second))[index]? = some line)
    (inside : line.number ≤ (physicalLines first).length) (other : String) :
    (retainedLines (first ++ other))[index]? = some line ∧
      (retainedLines (first ++ other)).take index = (retainedLines (first ++ second)).take index := by
  obtain ⟨more, whole, behind⟩ := exists_retainedLines_append ends second
  obtain ⟨others, changed, -⟩ := exists_retainedLines_append ends other
  have before : index < (retainedLines first).length := by
    apply Nat.lt_of_not_le
    intro after
    rw [whole, List.getElem?_append_right after] at here
    have := behind line (List.mem_of_getElem? here)
    omega
  rw [whole, List.getElem?_append_left before] at here
  rw [whole, changed, List.getElem?_append_left before,
    List.take_append_of_le_length (Nat.le_of_lt before),
    List.take_append_of_le_length (Nat.le_of_lt before)]
  exact ⟨here, rfl⟩

/-- A physical line has the trimmed text of the raw line with its number. -/
theorem exists_raw_of_mem_physicalLines {source : String} {line : Line}
    (member : line ∈ physicalLines source) :
    1 ≤ line.number ∧ ∃ raw, (Text.lines source.toList)[line.number - 1]? = some raw ∧
      line.text = String.ofList (Text.trim raw) := by
  obtain ⟨⟨raw, number⟩, inside, same⟩ := List.mem_map.mp member
  obtain ⟨counted, -, here⟩ := List.mem_zipIdx inside
  rw [← same]
  refine ⟨counted, raw, ?_, rfl⟩
  simp only [Line.ofRaw]
  rw [here, List.getElem?_eq_getElem]

/-- The retained lines are the lines that the worker obeys. -/
theorem retainedLines_eq_obeyedLines (source : String) :
    retainedLines source = obeyedLines source := by
  unfold retainedLines obeyedLines
  have closing : (fun line : Line => !line.isClosing) =
      fun line => decide (line.tokens.head? ≠ some "DEFINE") := by
    funext line
    simp [Line.isClosing]
  rw [closing]
  apply List.filter_congr
  intro line member
  have cut : line.IsCut := isCut_of_mem_physicalLines ((List.takeWhile_sublist _).subset member)
  have same := Line.isIdle_iff cut
  cases idle : line.isIdle <;> simp [← same, idle]

end OfficeMachine.Script
