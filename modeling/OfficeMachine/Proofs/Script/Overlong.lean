/-
This file tells when a script fails without an error that points to one of its lines. It does so exactly
if the first line that breaks a rule names a tile with more digits than can be read.
-/

import OfficeMachine.Proofs.Program.Written
import OfficeMachine.Proofs.Script.Rejection

namespace OfficeMachine.Script

/-- A failure points into a script if it is an error with the number and the trimmed text of one of
the physical lines. -/
def Failure.PointsInto (failure : Failure) (source : String) : Prop :=
  ∃ error raw, failure = .rejected error ∧ 1 ≤ error.line ∧
    (Text.lines source.toList)[(error.line - 1).toNat]? = some raw ∧
    error.text = String.ofList (Text.trim raw)

/-- A script settles if it is read, or if its failure points into it. -/
def Settles (source : String) : Prop :=
  (∃ program, read source = .ok program) ∨
    ∃ failure, read source = .error failure ∧ failure.PointsInto source

/-- An overlong line gives its opcode a tile index with so many digits that it cannot be read. -/
structure Line.IsOverlong (line : Line) (count : Nat) : Prop where
  beyond : Numeral.digitLimit < count
  spelt : ∃ (opcode : Opcode) (operand digits : String), opcode.operand = .tile ∧
    line.tokens = [opcode.word, operand] ∧ Spells operand digits ∧ digits.length = count

/-- A script stumbles over an overlong line if no line in front of it breaks a rule. -/
def Stumbles (source : String) (count : Nat) : Prop :=
  ∃ (index : Nat) (line : Line), (obeyedLines source)[index]? = some line ∧
    Pass [] ((obeyedLines source).take index) ∧ line.IsOverlong count

section Overlong

variable {line : Line} {count : Nat}

theorem Spells.noColon {operand digits : String} (spelt : Spells operand digits) :
    ':' ∉ operand.toList := by
  obtain ⟨isNumber, same | same⟩ := spelt
  · rw [same]
    exact (isPlainText_of_isName (isName_of_isDigits isNumber)).not_mem (by decide)
  · rw [same, toList_bracketed]
    exact (isPlainText_bracketed (isPlainText_of_isName (isName_of_isDigits isNumber))).not_mem
      (by decide)

/-- A line is refused for its digits exactly if it is overlong. -/
theorem Line.misspells_overlong_iff (cut : line.IsCut) :
    line.Misspells (.overlong ⟨count⟩) ↔ line.IsOverlong count := by
  constructor
  · intro misspells
    cases misspells with
    | overlong plain shape takes spelt long => exact ⟨long, _, _, _, takes, shape, spelt, rfl⟩
  · rintro ⟨beyond, opcode, operand, digits, takes, shape, spelt, rfl⟩
    have plain : ':' ∉ line.text.toList := by
      rw [← Line.any_colon_iff cut, shape]
      simp [spelt.noColon, (isPlainText_word opcode).not_mem (show isPlain ':' = false by decide)]
    exact .overlong plain shape takes spelt beyond

/-- A failure is about digits exactly if the refusal is. -/
theorem Refusal.on_eq_overlong_iff {refusal : Refusal} :
    refusal.on line = .overlong ⟨count⟩ ↔ refusal = .overlong ⟨count⟩ := by
  cases refusal <;> simp [Refusal.on, Complaint.on]

/-- Only a line that breaks a rule is refused for its digits. -/
theorem read_eq_overlong_iff {source : String} :
    read source = .error (.overlong ⟨count⟩) ↔ Stumbles source count := by
  have cut {line : Line} {index : Nat} (here : (retainedLines source)[index]? = some line) :
      line.IsCut := isCut_of_mem_retainedLines (List.mem_of_getElem? here)
  rw [read_eq_error_iff, Stumbles, ← retainedLines_eq_obeyedLines]
  constructor
  · rintro ⟨index, line, refusal, blames, same⟩
    rw [eq_comm, Refusal.on_eq_overlong_iff] at same
    subst same
    cases blames with
    | breaks here passed breaks =>
        cases breaks with
        | misspelt misspells =>
            exact ⟨index, line, here, passed, (Line.misspells_overlong_iff (cut here)).mp misspells⟩
  · rintro ⟨index, line, here, passed, overlong⟩
    have misspells := (Line.misspells_overlong_iff (cut here)).mpr overlong
    exact ⟨index, line, _, .breaks here passed (.misspelt misspells), rfl⟩

/-- The line that is blamed is one of the lines of the script. -/
theorem Blames.mem {lines : List Line} {index : Nat} {refusal : Refusal}
    (blames : Blames lines index line refusal) : line ∈ lines := by
  cases blames with
  | breaks here _ _ => exact List.mem_of_getElem? here
  | undeclared here _ _ _ _ => exact List.mem_of_getElem? here

/-- Each error points to the line that is blamed. -/
theorem pointsInto_of_read_rejected {source : String} {error : Error}
    (rejected : read source = .error (.rejected error)) :
    (Failure.rejected error).PointsInto source := by
  obtain ⟨index, line, refusal, blames, same⟩ := read_eq_error_iff.mp rejected
  obtain ⟨counted, raw, here, text⟩ :=
    exists_raw_of_mem_physicalLines ((retainedLines_sublist source).subset blames.mem)
  cases refusal with
  | overlong failure => cases same
  | complaint complaint =>
      cases same
      have place : ((line.number : Int) - 1).toNat = line.number - 1 := by omega
      exact ⟨_, raw, rfl, Int.ofNat_le.mpr counted, by rw [place]; exact here, text⟩

theorem not_settles_of_stumbles {source : String} {count : Nat} (stumbles : Stumbles source count) :
    ¬Settles source := by
  rw [← read_eq_overlong_iff] at stumbles
  rintro (⟨program, succeeds⟩ | ⟨failure, fails, error, raw, same, -⟩)
  · rw [stumbles] at succeeds
    cases succeeds
  · rw [stumbles, same] at fails
    cases fails

end Overlong

/-- Reading a script settles unless the script stumbles over an overlong line. Then it fails with the
count of the digits alone and tells neither the line nor its number. -/
theorem settles_iff_not_stumbles (source : String) :
    (Settles source ↔ ∀ count, ¬Stumbles source count) ∧
    ∀ count, read source = .error (.overlong ⟨count⟩) ↔ Stumbles source count := by
  refine ⟨⟨?_, ?_⟩, fun count => read_eq_overlong_iff⟩
  · intro settles count stumbles
    exact not_settles_of_stumbles stumbles settles
  · intro steady
    cases reading : read source with
    | ok program => exact Or.inl ⟨program, reading⟩
    | error failure =>
        cases failure with
        | rejected error => exact Or.inr ⟨_, reading, pointsInto_of_read_rejected reading⟩
        | overlong failure => exact absurd (read_eq_overlong_iff.mp reading) (steady failure.digits)

section Row

variable {opcode : Opcode} {digits : String}

/-- A script of one row has one physical line. -/
theorem physicalLines_row {row : String} (clean : Text.IsRow row.toList) :
    physicalLines (row ++ "\n") = [Line.ofRaw 1 row.toList] := by
  have terminated : (row ++ "\n").toList = [row.toList].flatMap (· ++ ['\n']) := by simp
  rw [physicalLines, terminated, Text.lines_terminated (by simpa using clean)]
  rfl

/-- A line is obeyed if its first token is the word of an opcode. -/
theorem Line.obeyed_of_word {line : Line} {operands : List String}
    (shape : line.tokens = opcode.word :: operands) :
    line.isClosing = false ∧ line.isIdle = false := by
  rw [Line.isClosing, Line.isIdle, shape]
  cases opcode <;> exact ⟨rfl, rfl⟩

/-- A row with too many digits is a script that stumbles, although it is written like any other. -/
theorem stumbles_operandLine (takes : opcode.operand = .tile)
    (isNumber : Numeral.isDigits digits.toList = true) (long : Numeral.digitLimit < digits.length) :
    Stumbles (operandLine opcode digits ++ "\n") digits.length := by
  have plain := isPlainText_of_isName (isName_of_isDigits isNumber)
  have tokens := tokens_operandLine opcode plain 1
  obtain ⟨goesOn, busy⟩ := Line.obeyed_of_word tokens
  have obeyed : obeyedLines (operandLine opcode digits ++ "\n") =
      [Line.ofRaw 1 (operandLine opcode digits).toList] := by
    rw [← retainedLines_eq_obeyedLines, retainedLines,
      physicalLines_row (isRow_operandLine opcode plain)]
    simp [goesOn, busy]
  refine ⟨0, _, by rw [obeyed]; rfl, pass_nil [], long, opcode, digits, digits, takes, tokens, ?_, rfl⟩
  exact ⟨isNumber, Or.inl rfl⟩

theorem not_settles_sevens (count : Nat) (long : Numeral.digitLimit < count) :
    ¬Settles ("    COPYFROM " ++ String.ofList (List.replicate count '7') ++ "\n") := by
  have isNumber : Numeral.isDigits (String.ofList (List.replicate count '7')).toList = true := by
    have some : count ≠ 0 := by omega
    simp [Numeral.isDigits, some, show Char.isDigit '7' = true by decide]
  have length : (String.ofList (List.replicate count '7')).length = count := by
    rw [String.length_ofList, List.length_replicate]
  have stumbles := stumbles_operandLine (show Opcode.copyFrom.operand = .tile from rfl) isNumber
    (by rwa [length])
  exact not_settles_of_stumbles stumbles

end Row

/-- A tile with 4301 digits is too much. -/
theorem not_settles_manyDigits :
    ¬Settles ("    COPYFROM " ++ String.ofList (List.replicate 4301 '7') ++ "\n") :=
  not_settles_sevens 4301 (by decide)

end OfficeMachine.Script
