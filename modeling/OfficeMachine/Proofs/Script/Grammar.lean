/-
This file states the grammar of script lines as rules. The reader of statements accepts a line
exactly if one of the rules applies to it, and then gives the statement of that rule.
-/

import OfficeMachine.Script.Statement
import OfficeMachine.Script.Line
import OfficeMachine.Proofs.Text.Words

namespace OfficeMachine.Script

/-- Each rule of the grammar tells the shape of a line and the statement that it makes. -/
inductive Line.Means (line : Line) : Statement → Prop where
  | declaration (name : String) (wellNamed : isName name.toList = true)
      (shape : line.text = name ++ ":") : line.Means (.label name)
  | bare (opcode : Opcode) (takes : opcode.operand = .nothing)
      (shape : line.tokens = [opcode.word]) : line.Means (.act opcode .nothing)
  | direct (opcode : Opcode) (takes : opcode.operand = .tile) (digits : String)
      (isNumber : Numeral.isDigits digits.toList = true)
      (short : digits.length ≤ Numeral.digitLimit)
      (shape : line.tokens = [opcode.word, digits]) :
      line.Means (.act opcode (.tile ⟨Numeral.value digits.toList, false⟩))
  | indirect (opcode : Opcode) (takes : opcode.operand = .tile) (digits : String)
      (isNumber : Numeral.isDigits digits.toList = true)
      (short : digits.length ≤ Numeral.digitLimit)
      (shape : line.tokens = [opcode.word, "[" ++ digits ++ "]"]) :
      line.Means (.act opcode (.tile ⟨Numeral.value digits.toList, true⟩))
  | jump (opcode : Opcode) (takes : opcode.operand = .label) (name : String)
      (wellNamed : isName name.toList = true)
      (shape : line.tokens = [opcode.word, name]) : line.Means (.act opcode (.label name))

/-- A line is cut from a text if its text and its tokens are those of one raw text. -/
def Line.IsCut (line : Line) : Prop := ∃ raw, line = Line.ofRaw line.number raw

theorem Line.isCut_ofRaw (number : Nat) (raw : List Char) : (Line.ofRaw number raw).IsCut :=
  ⟨raw, rfl⟩

/-- A line has one token exactly if its text is that token. -/
theorem Line.tokens_eq_singleton_iff {line : Line} (cut : line.IsCut) {token : String}
    (isWord : Text.IsWord token.toList) : line.tokens = [token] ↔ line.text = token := by
  obtain ⟨raw, shape⟩ := cut
  rw [shape]
  simp only [Line.ofRaw]
  constructor
  · intro single
    obtain ⟨word, words, same⟩ := List.map_eq_singleton_iff.mp single
    rw [(Text.words_eq_singleton_iff.mp words).1, same]
  · intro same
    have trimmed : Text.trim raw = token.toList := by rw [← same, String.toList_ofList]
    rw [Text.words_eq_singleton_iff.mpr ⟨trimmed, isWord⟩]
    simp

/-- Plain characters are the letters, the digits and some signs, but no blank, colon or hyphen. -/
def isPlain (character : Char) : Bool :=
  (48 ≤ character.toNat && character.toNat ≤ 57) ||
    (65 ≤ character.toNat && character.toNat ≤ 122)

def IsPlainText (text : List Char) : Prop :=
  text ≠ [] ∧ ∀ character ∈ text, isPlain character = true

theorem isPlain_of_isNameCharacter {character : Char}
    (inName : isNameCharacter character = true) : isPlain character = true := by
  change ((decide (65 ≤ character.val ∧ character.val ≤ 90) ||
    (decide (97 ≤ character.val) && decide (character.val ≤ 122))) ||
    (decide (48 ≤ character.val) && decide (character.val ≤ 57)) ||
    decide (character = '_')) = true at inName
  simp only [Bool.or_eq_true, Bool.and_eq_true, decide_eq_true_eq,
    UInt32.le_iff_toNat_le] at inName
  change (((65 ≤ character.toNat ∧ character.toNat ≤ 90) ∨
    (97 ≤ character.toNat ∧ character.toNat ≤ 122)) ∨
    (48 ≤ character.toNat ∧ character.toNat ≤ 57)) ∨ character = '_' at inName
  simp only [isPlain, Bool.or_eq_true, Bool.and_eq_true, decide_eq_true_eq]
  rcases inName with ((capital | small) | digit) | line
  · omega
  · omega
  · omega
  · subst line
    decide

theorem isBlank_of_isPlain {character : Char} (plain : isPlain character = true) :
    Text.isBlank character = false := by
  simp only [isPlain, Bool.or_eq_true, Bool.and_eq_true, decide_eq_true_eq] at plain
  simp only [Text.isBlank, Bool.or_eq_false_iff, Bool.and_eq_false_iff, decide_eq_false_iff_not,
    beq_eq_false_iff_ne]
  omega

theorem IsPlainText.isWord {text : List Char} (plain : IsPlainText text) : Text.IsWord text :=
  ⟨plain.1, fun character member => isBlank_of_isPlain (plain.2 character member)⟩

theorem IsPlainText.not_mem {text : List Char} (plain : IsPlainText text) {character : Char}
    (odd : isPlain character = false) : character ∉ text := by
  intro member
  rw [plain.2 character member] at odd
  cases odd

theorem isPlainText_of_isName {text : List Char} (wellNamed : isName text = true) :
    IsPlainText text := by
  simp only [isName, Bool.and_eq_true, Bool.not_eq_true', List.isEmpty_eq_false_iff,
    List.all_eq_true] at wellNamed
  exact ⟨wellNamed.1, fun character member => isPlain_of_isNameCharacter (wellNamed.2 character member)⟩

theorem isWord_declaration {name : List Char} (wellNamed : isName name = true) :
    Text.IsWord (name ++ [':']) := by
  refine ⟨by simp, fun character member => ?_⟩
  rcases List.mem_append.mp member with inName | colon
  · exact isBlank_of_isPlain ((isPlainText_of_isName wellNamed).2 character inName)
  · rw [List.mem_singleton.mp colon]
    decide

theorem isName_of_isDigits {text : List Char} (isNumber : Numeral.isDigits text = true) :
    isName text = true := by
  simp only [Numeral.isDigits, isName, Bool.and_eq_true, List.all_eq_true] at isNumber ⊢
  refine ⟨isNumber.1, fun character member => ?_⟩
  simp [isNameCharacter, Char.isAlphanum, isNumber.2 character member]

theorem isPlainText_bracketed {digits : List Char} (plain : IsPlainText digits) :
    IsPlainText ('[' :: (digits ++ [']'])) := by
  refine ⟨by simp, fun character member => ?_⟩
  rcases List.mem_cons.mp member with first | later
  · rw [first]
    decide
  · rcases List.mem_append.mp later with inside | last
    · exact plain.2 character inside
    · rw [List.mem_singleton.mp last]
      decide

theorem isPlainText_word (opcode : Opcode) : IsPlainText opcode.word.toList := by
  cases opcode <;> exact ⟨by decide, List.all_eq_true.mp (by decide)⟩

@[simp] theorem toList_bracketed (digits : String) :
    ("[" ++ digits ++ "]").toList = '[' :: (digits.toList ++ [']']) := by
  simp

theorem unbracket?_eq_some_iff {text inside : List Char} :
    unbracket? text = some inside ↔ text = '[' :: (inside ++ [']']) := by
  constructor
  · intro found
    unfold unbracket? at found
    split at found
    · rename_i rest
      split at found
      · rename_i closed
        obtain ⟨front, shape⟩ := List.getLast?_eq_some_iff.mp closed
        rw [shape, List.dropLast_concat] at found
        rw [shape, Option.some.inj found]
      · cases found
    · cases found
  · intro shape
    rw [shape]
    simp [unbracket?]

theorem readIndex_eq_ok_iff {indirect : Bool} {digits : String} {operand : Operand} :
    readIndex indirect digits.toList = .ok operand ↔
      digits.length ≤ Numeral.digitLimit ∧
        operand = .tile ⟨Numeral.value digits.toList, indirect⟩ := by
  unfold readIndex Numeral.read
  rw [String.length_toList]
  by_cases short : digits.length ≤ Numeral.digitLimit
  · simp [short, eq_comm]
  · simp [short]

theorem not_isDigits_bracketed (digits : String) :
    Numeral.isDigits ("[" ++ digits ++ "]").toList = false := by
  rw [toList_bracketed]
  rfl

/-- A tile operand is a run of digits within the limit, alone or in brackets. -/
theorem readTile_eq_ok_iff {token : String} {operand : Operand} :
    readTile token = .ok operand ↔
      ∃ digits : String, Numeral.isDigits digits.toList = true ∧
        digits.length ≤ Numeral.digitLimit ∧
        ((token = digits ∧ operand = .tile ⟨Numeral.value digits.toList, false⟩) ∨
          (token = "[" ++ digits ++ "]" ∧
            operand = .tile ⟨Numeral.value digits.toList, true⟩)) := by
  constructor
  · intro accepted
    unfold readTile at accepted
    split at accepted
    · rename_i isNumber
      obtain ⟨short, same⟩ := readIndex_eq_ok_iff.mp accepted
      exact ⟨token, isNumber, short, Or.inl ⟨rfl, same⟩⟩
    · split at accepted
      · rename_i inside found
        have shape := unbracket?_eq_some_iff.mp found
        split at accepted
        · rename_i isNumber
          rw [← @String.toList_ofList inside] at accepted isNumber
          obtain ⟨short, same⟩ := readIndex_eq_ok_iff.mp accepted
          refine ⟨String.ofList inside, isNumber, short, Or.inr ⟨?_, same⟩⟩
          apply String.toList_inj.mp
          rw [shape, toList_bracketed, String.toList_ofList]
        · cases accepted
      · cases accepted
  · rintro ⟨digits, isNumber, short, ⟨same, result⟩ | ⟨same, result⟩⟩
    · rw [same, readTile, if_pos isNumber]
      exact readIndex_eq_ok_iff.mpr ⟨short, result⟩
    · have opened : unbracket? token.toList = some digits.toList := by
        rw [unbracket?_eq_some_iff, same, toList_bracketed]
      rw [same] at opened ⊢
      simp only [readTile, not_isDigits_bracketed, opened, isNumber, if_true, Bool.false_eq_true,
        if_false]
      exact readIndex_eq_ok_iff.mpr ⟨short, result⟩

theorem declaredName?_eq_some_iff {text name : List Char} :
    declaredName? text = some name ↔ text = name ++ [':'] ∧ isName name = true := by
  unfold declaredName?
  constructor
  · intro found
    split at found
    · rename_i shape
      obtain ⟨front, split⟩ := List.getLast?_eq_some_iff.mp shape.1
      have same : front = name := by simpa [split] using found
      rw [split, same]
      refine ⟨rfl, ?_⟩
      simpa [split, same] using shape.2
    · cases found
  · intro given
    obtain ⟨shape, wellNamed⟩ := given
    simp [shape, wellNamed]

/-- The kind of operand that an opcode takes decides which operands are read. -/
theorem readOperand_eq_ok_iff {opcode : Opcode} {tokens : List String} {operand : Operand} :
    readOperand opcode tokens = .ok operand ↔
      (opcode.operand = .nothing ∧ tokens = [] ∧ operand = .nothing) ∨
      (opcode.operand = .tile ∧ ∃ token, tokens = [token] ∧ readTile token = .ok operand) ∨
      (opcode.operand = .label ∧ ∃ token, tokens = [token] ∧ isName token.toList = true ∧
        operand = .label token) := by
  constructor
  · intro accepted
    unfold readOperand at accepted
    split at accepted
    · rename_i kind
      exact Or.inl ⟨kind, rfl, (Except.ok.inj accepted).symm⟩
    · cases accepted
    · rename_i token kind
      exact Or.inr (Or.inl ⟨kind, token, rfl, accepted⟩)
    · rename_i token kind
      unfold readLabel at accepted
      split at accepted
      · rename_i wellNamed
        exact Or.inr (Or.inr ⟨kind, token, rfl, wellNamed, (Except.ok.inj accepted).symm⟩)
      · cases accepted
    · cases accepted
  · rintro (⟨kind, empty, same⟩ | ⟨kind, token, single, accepted⟩ |
      ⟨kind, token, single, wellNamed, same⟩)
    · simp [readOperand, kind, empty, same]
    · simp [readOperand, kind, single, accepted]
    · simp [readOperand, kind, single, readLabel, wellNamed, same]

theorem any_colon_eq_false {tokens : List String}
    (plain : ∀ token ∈ tokens, IsPlainText token.toList) :
    (tokens.any fun token => token.toList.contains ':') = false := by
  rw [List.any_eq_false]
  intro token member found
  exact (plain token member).not_mem (by decide) (List.contains_iff_mem.mp found)

/-- A line that consists of an opcode and plain operands is read as an instruction. -/
theorem Statement.read_word_cons (opcode : Opcode) {operands : List String}
    (plain : ∀ token ∈ operands, IsPlainText token.toList) :
    Statement.read (opcode.word :: operands) =
      (readOperand opcode operands).map (Statement.act opcode) := by
  have allPlain : ∀ token ∈ opcode.word :: operands, IsPlainText token.toList := by
    intro token member
    rcases List.mem_cons.mp member with first | later
    · rw [first]
      exact isPlainText_word opcode
    · exact plain token later
  rw [Statement.read, any_colon_eq_false allPlain]
  simp

/-- The reader accepts what the grammar allows. -/
theorem Statement.read_of_means {line : Line} (cut : line.IsCut) {statement : Statement}
    (meaning : line.Means statement) : Statement.read line.tokens = .ok statement := by
  cases meaning with
  | declaration name wellNamed shape =>
      have isWord : Text.IsWord (name ++ ":").toList := by
        rw [String.toList_append]
        exact isWord_declaration wellNamed
      have found : declaredName? (name ++ ":").toList = some name.toList :=
        declaredName?_eq_some_iff.mpr ⟨by simp, wellNamed⟩
      rw [(Line.tokens_eq_singleton_iff cut isWord).mpr shape]
      simp only [Statement.read, readDeclaration, found, String.ofList_toList]
      simp
  | bare opcode takes shape =>
      rw [shape, read_word_cons opcode (by simp),
        readOperand_eq_ok_iff.mpr (Or.inl ⟨takes, rfl, rfl⟩)]
      rfl
  | direct opcode takes digits isNumber short shape =>
      have plain := isPlainText_of_isName (isName_of_isDigits isNumber)
      have accepted := readTile_eq_ok_iff.mpr ⟨digits, isNumber, short, Or.inl ⟨rfl, rfl⟩⟩
      rw [shape, read_word_cons opcode (by simpa using plain),
        readOperand_eq_ok_iff.mpr (Or.inr (Or.inl ⟨takes, _, rfl, accepted⟩))]
      rfl
  | indirect opcode takes digits isNumber short shape =>
      have plain := isPlainText_bracketed (isPlainText_of_isName (isName_of_isDigits isNumber))
      have accepted := readTile_eq_ok_iff.mpr ⟨digits, isNumber, short, Or.inr ⟨rfl, rfl⟩⟩
      rw [shape, read_word_cons opcode (by
          intro token member
          rw [List.mem_singleton.mp member, toList_bracketed]
          exact plain),
        readOperand_eq_ok_iff.mpr (Or.inr (Or.inl ⟨takes, _, rfl, accepted⟩))]
      rfl
  | jump opcode takes name wellNamed shape =>
      have plain := isPlainText_of_isName wellNamed
      rw [shape, read_word_cons opcode (by simpa using plain),
        readOperand_eq_ok_iff.mpr (Or.inr (Or.inr ⟨takes, _, rfl, wellNamed, rfl⟩))]
      rfl

theorem means_of_readDeclaration {line : Line} (cut : line.IsCut) {statement : Statement}
    (accepted : readDeclaration line.tokens = .ok statement) : line.Means statement := by
  unfold readDeclaration at accepted
  split at accepted
  · rename_i token single
    split at accepted
    · rename_i name found
      obtain ⟨shape, wellNamed⟩ := declaredName?_eq_some_iff.mp found
      have isWord : Text.IsWord token.toList := by
        rw [shape]
        exact isWord_declaration wellNamed
      have text := (Line.tokens_eq_singleton_iff cut isWord).mp single
      rw [← Except.ok.inj accepted]
      refine .declaration (String.ofList name) (by simpa using wellNamed) ?_
      apply String.toList_inj.mp
      rw [text, shape]
      simp
    · cases accepted
  · cases accepted

/-- The grammar allows what the reader accepts. -/
theorem Statement.means_of_read {line : Line} (cut : line.IsCut) {statement : Statement}
    (accepted : Statement.read line.tokens = .ok statement) : line.Means statement := by
  unfold Statement.read at accepted
  split at accepted
  · exact means_of_readDeclaration cut accepted
  · split at accepted
    · cases accepted
    · rename_i word operands shape
      split at accepted
      · cases accepted
      · rename_i opcode known
        have sameWord := Opcode.word_of_ofWord? known
        cases read : readOperand opcode operands with
        | error refusal => rw [read] at accepted; cases accepted
        | ok operand =>
            rw [read] at accepted
            rw [← Except.ok.inj accepted]
            rcases readOperand_eq_ok_iff.mp read with
              ⟨kind, empty, same⟩ | ⟨kind, token, single, tile⟩ |
                ⟨kind, token, single, wellNamed, same⟩
            · rw [same]
              exact .bare opcode kind (by rw [shape, empty, sameWord])
            · obtain ⟨digits, isNumber, short, ⟨spelling, same⟩ | ⟨spelling, same⟩⟩ :=
                readTile_eq_ok_iff.mp tile
              · rw [same]
                exact .direct opcode kind digits isNumber short
                  (by rw [shape, single, sameWord, spelling])
              · rw [same]
                exact .indirect opcode kind digits isNumber short
                  (by rw [shape, single, sameWord, spelling])
            · rw [same]
              exact .jump opcode kind token wellNamed (by rw [shape, single, sameWord])

/-- The reader of statements follows the grammar. -/
theorem Statement.read_eq_ok_iff {line : Line} (cut : line.IsCut) {statement : Statement} :
    Statement.read line.tokens = .ok statement ↔ line.Means statement :=
  ⟨means_of_read cut, read_of_means cut⟩

end OfficeMachine.Script
