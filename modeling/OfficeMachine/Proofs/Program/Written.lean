/-
This file reads the rows of a listing one by one. Each row stays on one line, and the grammar gives
it the statement that it was written for.
-/

import OfficeMachine.Program.Listing
import OfficeMachine.Proofs.Program.WellFormed
import OfficeMachine.Proofs.Script.Retention
import OfficeMachine.Proofs.Text.Lines

namespace OfficeMachine

open Script

/-- A row writes a statement if it stays on one line and means the statement on any line. -/
structure Writes (row : String) (statement : Statement) : Prop where
  isRow : Text.IsRow row.toList
  means : ∀ number, (Line.ofRaw number row.toList).Means statement

theorem isLineEnd_of_isPlain {character : Char} (plain : isPlain character = true) :
    Text.isLineEnd character = false := by
  simp only [isPlain, Bool.or_eq_true, Bool.and_eq_true, decide_eq_true_eq] at plain
  simp only [Text.isLineEnd, Bool.or_eq_false_iff, Bool.and_eq_false_iff, decide_eq_false_iff_not,
    beq_eq_false_iff_ne]
  omega

theorem Script.IsPlainText.isRow {text : List Char} (plain : IsPlainText text) : Text.IsRow text :=
  fun character member => isLineEnd_of_isPlain (plain.2 character member)

theorem Text.IsRow.append {first second : List Char} (row : IsRow first) (other : IsRow second) :
    IsRow (first ++ second) := by
  intro character member
  rcases List.mem_append.mp member with left | right
  · exact row character left
  · exact other character right

theorem Text.isRow_spaces (count : Nat) : IsRow (List.replicate count ' ') := by
  intro character member
  rw [List.eq_of_mem_replicate member]
  decide

theorem Text.isMargin_spaces (count : Nat) : IsMargin (List.replicate count ' ') := by
  intro character member
  rw [List.eq_of_mem_replicate member]
  decide

/-- A label row writes the declaration of its name. -/
theorem writes_label {name : String} (wellNamed : isName name.toList = true) :
    Writes (name ++ ":") (.label name) where
  isRow := by
    rw [String.toList_append]
    exact (isPlainText_of_isName wellNamed).isRow.append (by decide)
  means := by
    intro number
    refine .declaration name wellNamed ?_
    have single := Text.words_of_isWord (isWord_declaration wellNamed)
    have trimmed := (Text.words_eq_singleton_iff.mp single).1
    simp [Line.ofRaw, trimmed]

/-- The tokens of an operand row are the word of the opcode and the operand. -/
theorem tokens_operandLine (opcode : Opcode) {operand : String}
    (plain : IsPlainText operand.toList) (number : Nat) :
    (Line.ofRaw number (operandLine opcode operand).toList).tokens = [opcode.word, operand] := by
  have gap : List.replicate (8 - opcode.word.length) ' ' ++ [' '] =
      ' ' :: List.replicate (8 - opcode.word.length) ' ' := List.replicate_succ'.symm
  have split : (operandLine opcode operand).toList =
      List.replicate 4 ' ' ++ (opcode.word.toList ++
        ' ' :: (List.replicate (8 - opcode.word.length) ' ' ++ operand.toList)) := by
    rw [← List.cons_append, ← gap]
    simp [operandLine]
  simp only [Line.ofRaw]
  rw [split, Text.words_margin_append (Text.isMargin_spaces 4),
    Text.words_word_append (isPlainText_word opcode).isWord _ (by decide),
    Text.words_margin_append (Text.isMargin_spaces _), Text.words_of_isWord plain.isWord]
  simp

theorem isRow_operandLine (opcode : Opcode) {operand : String}
    (plain : IsPlainText operand.toList) : Text.IsRow (operandLine opcode operand).toList := by
  simp only [operandLine, String.toList_append, String.toList_ofList]
  exact ((((Text.isRow_spaces 4).append (isPlainText_word opcode).isRow).append
    (Text.isRow_spaces _)).append (by decide)).append plain.isRow

/-- A bare row writes an opcode without an operand. -/
theorem writes_bare {opcode : Opcode} (takes : opcode.operand = .nothing) :
    Writes ("    " ++ opcode.word) (.act opcode .nothing) where
  isRow := by
    rw [String.toList_append]
    exact (Text.isRow_spaces 4).append (isPlainText_word opcode).isRow
  means := by
    intro number
    refine .bare opcode takes ?_
    have margin := Text.words_margin_append (Text.isMargin_spaces 4) opcode.word.toList
    simp only [Line.ofRaw, String.toList_append]
    rw [show "    ".toList = List.replicate 4 ' ' from rfl, margin,
      Text.words_of_isWord (isPlainText_word opcode).isWord]
    simp

/-- A jump row writes a jump to its name. -/
theorem writes_jump {opcode : Opcode} (takes : opcode.operand = .label) {name : String}
    (wellNamed : isName name.toList = true) :
    Writes (operandLine opcode name) (.act opcode (.label name)) where
  isRow := isRow_operandLine opcode (isPlainText_of_isName wellNamed)
  means number := .jump opcode takes name wellNamed
    (tokens_operandLine opcode (isPlainText_of_isName wellNamed) number)

/-- A tile row writes the address in decimal digits. -/
theorem writes_tile {opcode : Opcode} (takes : opcode.operand = .tile) {address : Address}
    (start : 0 ≤ address.index) (writable : Numeral.isWritable address.index = true) :
    Writes (operandLine opcode address.text) (.act opcode (.tile address)) := by
  obtain ⟨index, indirect⟩ := address
  obtain ⟨number, same⟩ := Int.eq_ofNat_of_zero_le start
  simp only at same
  subst same
  let digits := String.ofList (Nat.toDigits 10 number)
  have spelled : toString (number : Int) = digits := by
    change toString number = digits
    exact Nat.toString_eq_ofList_toDigits
  have value : Numeral.value digits.toList = number := by simp [digits]
  have isNumber : Numeral.isDigits digits.toList = true := by
    simp only [digits, String.toList_ofList]
    exact Numeral.isDigits_toDigits number
  have short : digits.length ≤ Numeral.digitLimit := by
    rw [← String.length_toList, String.toList_ofList]
    refine Numeral.length_toDigits_le (by decide) ?_
    exact Numeral.isWritable_iff.mp writable
  have plain := isPlainText_of_isName (isName_of_isDigits isNumber)
  cases indirect with
  | false =>
      have text : Address.text ⟨number, false⟩ = digits := spelled
      rw [text, ← value]
      exact ⟨isRow_operandLine opcode plain, fun line =>
        .direct opcode takes digits isNumber short (tokens_operandLine opcode plain line)⟩
  | true =>
      have text : Address.text ⟨number, true⟩ = "[" ++ digits ++ "]" := by
        change "[" ++ toString (number : Int) ++ "]" = _
        rw [spelled]
      have bracketed : IsPlainText ("[" ++ digits ++ "]").toList := by
        rw [toList_bracketed]
        exact isPlainText_bracketed plain
      rw [text, ← value]
      exact ⟨isRow_operandLine opcode bracketed, fun line =>
        .indirect opcode takes digits isNumber short (tokens_operandLine opcode bracketed line)⟩

/-- A line that has a meaning is obeyed. -/
theorem Script.Line.Means.obeyed {line : Line} (cut : line.IsCut) {statement : Statement}
    (meaning : line.Means statement) : line.isClosing = false ∧ line.isIdle = false := by
  have settle {first : String} {others : List String} (tokens : line.tokens = first :: others)
      (noHyphen : '-' ∉ first.toList) (notComment : first ≠ "COMMENT") (notDefine : first ≠ "DEFINE") :
      line.isClosing = false ∧ line.isIdle = false := by
    constructor
    · simp [Line.isClosing, tokens, notDefine]
    · simp only [Line.isIdle, tokens, Bool.or_eq_false_iff, decide_eq_false_iff_not]
      refine ⟨?_, notComment⟩
      rw [Bool.eq_false_iff, Ne, List.isPrefixOf_iff_prefix]
      intro starts
      exact noHyphen (starts.subset (by simp))
  have word (opcode : Opcode) : '-' ∉ opcode.word.toList ∧ opcode.word ≠ "COMMENT" ∧
      opcode.word ≠ "DEFINE" := by
    cases opcode <;> decide
  cases meaning with
  | declaration name wellNamed shape =>
      have isWord : Text.IsWord (name ++ ":").toList := by
        rw [String.toList_append]
        exact isWord_declaration wellNamed
      have colon : ':' ∈ (name ++ ":").toList := by simp
      refine settle ((Line.tokens_eq_singleton_iff cut isWord).mpr shape) ?_ ?_ ?_
      · rw [String.toList_append]
        intro member
        rcases List.mem_append.mp member with inName | last
        · exact (isPlainText_of_isName wellNamed).not_mem (by decide) inName
        · exact absurd last (by decide)
      · intro same
        rw [same] at colon
        exact absurd colon (by decide)
      · intro same
        rw [same] at colon
        exact absurd colon (by decide)
  | bare opcode takes shape => exact settle shape (word opcode).1 (word opcode).2.1 (word opcode).2.2
  | direct opcode takes digits isNumber short shape =>
      exact settle shape (word opcode).1 (word opcode).2.1 (word opcode).2.2
  | indirect opcode takes digits isNumber short shape =>
      exact settle shape (word opcode).1 (word opcode).2.1 (word opcode).2.2
  | jump opcode takes name wellNamed shape =>
      exact settle shape (word opcode).1 (word opcode).2.1 (word opcode).2.2

end OfficeMachine
