/-
This file states the mistakes of script lines as rules. The reader of statements refuses a line with
tokens exactly if one of the rules applies to it, and then for the reason of that rule.
-/

import OfficeMachine.Proofs.Script.Grammar

namespace OfficeMachine.Script

/-- A token spells a tile index if it is a run of digits, alone or in brackets. -/
def Spells (token digits : String) : Prop :=
  Numeral.isDigits digits.toList = true ∧ (token = digits ∨ token = "[" ++ digits ++ "]")

/-- Each rule tells the shape of a line that the grammar does not allow and why it is refused. A
stray colon goes before everything else, and the opcode goes before its operands. -/
inductive Line.Misspells (line : Line) : Refusal → Prop where
  | strayColon (colon : ':' ∈ line.text.toList)
      (undeclared : ∀ name : String, isName name.toList = true → line.text ≠ name ++ ":") :
      line.Misspells (.complaint .strayColon)
  | noOpcode (plain : ':' ∉ line.text.toList) {word : String} {operands : List String}
      (shape : line.tokens = word :: operands) (unknown : ∀ opcode : Opcode, opcode.word ≠ word) :
      line.Misspells (.complaint (.noOpcode word))
  | takesNothing (plain : ':' ∉ line.text.toList) {opcode : Opcode} {operands : List String}
      (shape : line.tokens = opcode.word :: operands) (takes : opcode.operand = .nothing)
      (given : operands ≠ []) : line.Misspells (.complaint (.takesNothing opcode))
  | takesOne (plain : ':' ∉ line.text.toList) {opcode : Opcode} {operands : List String}
      (shape : line.tokens = opcode.word :: operands) (takes : opcode.operand ≠ .nothing)
      (given : operands.length ≠ 1) :
      line.Misspells (.complaint (.takesOne opcode operands.length))
  | noTile (plain : ':' ∉ line.text.toList) {opcode : Opcode} {operand : String}
      (shape : line.tokens = [opcode.word, operand]) (takes : opcode.operand = .tile)
      (misspelt : ∀ digits, ¬Spells operand digits) :
      line.Misspells (.complaint (.noTile operand))
  | noLabelName (plain : ':' ∉ line.text.toList) {opcode : Opcode} {operand : String}
      (shape : line.tokens = [opcode.word, operand]) (takes : opcode.operand = .label)
      (misnamed : isName operand.toList = false) :
      line.Misspells (.complaint (.noLabelName opcode operand))
  | overlong (plain : ':' ∉ line.text.toList) {opcode : Opcode} {operand digits : String}
      (shape : line.tokens = [opcode.word, operand]) (takes : opcode.operand = .tile)
      (spelt : Spells operand digits) (long : Numeral.digitLimit < digits.length) :
      line.Misspells (.overlong ⟨digits.length⟩)

/-- A colon on a line is a colon in one of its tokens. -/
theorem Line.any_colon_iff {line : Line} (cut : line.IsCut) :
    (line.tokens.any fun token => token.toList.contains ':') = true ↔ ':' ∈ line.text.toList := by
  obtain ⟨raw, shape⟩ := cut
  rw [shape]
  simp only [Line.ofRaw, List.any_map, String.toList_ofList]
  rw [← Text.exists_mem_words_iff (show Text.isBlank ':' = false by decide), Text.words_trim]
  simp

theorem readIndex_eq_error_iff {indirect : Bool} {digits : String} {refusal : Refusal} :
    readIndex indirect digits.toList = .error refusal ↔
      Numeral.digitLimit < digits.length ∧ refusal = .overlong ⟨digits.length⟩ := by
  unfold readIndex Numeral.read
  rw [String.length_toList]
  by_cases short : digits.length ≤ Numeral.digitLimit
  · simp [short, Nat.not_lt_of_le short]
  · simp [short, eq_comm, Nat.lt_of_not_le short]

/-- A token that spells an index is read as that index. -/
theorem readTile_of_spells {token digits : String} (spelt : Spells token digits) :
    ∃ indirect, readTile token = readIndex indirect digits.toList := by
  obtain ⟨isNumber, same | same⟩ := spelt
  · exact ⟨false, by rw [same, readTile, if_pos isNumber]⟩
  · refine ⟨true, ?_⟩
    have opened : unbracket? token.toList = some digits.toList := by
      rw [unbracket?_eq_some_iff, same, toList_bracketed]
    rw [same] at opened ⊢
    simp only [readTile, not_isDigits_bracketed, opened, isNumber, if_true, Bool.false_eq_true,
      if_false]

theorem readTile_of_not_spells {token : String} (misspelt : ∀ digits, ¬Spells token digits) :
    readTile token = .error (.complaint (.noTile token)) := by
  have plain : Numeral.isDigits token.toList = false := by
    apply Bool.eq_false_iff.mpr
    intro isNumber
    exact misspelt token ⟨isNumber, Or.inl rfl⟩
  unfold readTile
  rw [if_neg (by simp [plain])]
  split
  · rename_i inside opened
    have bracketed : token = "[" ++ String.ofList inside ++ "]" := by
      apply String.toList_inj.mp
      rw [unbracket?_eq_some_iff.mp opened, toList_bracketed, String.toList_ofList]
    rw [if_neg]
    intro isNumber
    exact misspelt (String.ofList inside) ⟨by rwa [String.toList_ofList], Or.inr bracketed⟩
  · rfl

/-- A tile operand is refused if it spells no index, or one with too many digits. -/
theorem readTile_eq_error_iff {token : String} {refusal : Refusal} :
    readTile token = .error refusal ↔
      ((∀ digits, ¬Spells token digits) ∧ refusal = .complaint (.noTile token)) ∨
      ∃ digits, Spells token digits ∧ Numeral.digitLimit < digits.length ∧
        refusal = .overlong ⟨digits.length⟩ := by
  by_cases spelt : ∃ digits, Spells token digits
  · constructor
    · intro refused
      obtain ⟨digits, spelt⟩ := spelt
      obtain ⟨indirect, same⟩ := readTile_of_spells spelt
      rw [same, readIndex_eq_error_iff] at refused
      exact Or.inr ⟨digits, spelt, refused⟩
    · rintro (⟨misspelt, -⟩ | ⟨digits, spelt, long⟩)
      · obtain ⟨digits, spelt⟩ := spelt
        exact absurd spelt (misspelt digits)
      · obtain ⟨indirect, same⟩ := readTile_of_spells spelt
        rw [same]
        exact readIndex_eq_error_iff.mpr long
  · rw [not_exists] at spelt
    rw [readTile_of_not_spells spelt]
    simp [spelt, eq_comm]

/-- The number of operands is checked before their shapes. -/
theorem readOperand_eq_error_iff {opcode : Opcode} {tokens : List String} {refusal : Refusal} :
    readOperand opcode tokens = .error refusal ↔
      (opcode.operand = .nothing ∧ tokens ≠ [] ∧ refusal = .complaint (.takesNothing opcode)) ∨
      (opcode.operand ≠ .nothing ∧ tokens.length ≠ 1 ∧
        refusal = .complaint (.takesOne opcode tokens.length)) ∨
      (opcode.operand = .tile ∧ ∃ token, tokens = [token] ∧ readTile token = .error refusal) ∨
      (opcode.operand = .label ∧ ∃ token, tokens = [token] ∧ isName token.toList = false ∧
        refusal = .complaint (.noLabelName opcode token)) := by
  cases kind : opcode.operand with
  | nothing =>
      cases tokens <;> simp [readOperand, kind, eq_comm (a := refusal)]
  | tile =>
      rcases tokens with _ | ⟨token, _ | ⟨next, others⟩⟩ <;>
        simp [readOperand, kind, eq_comm (a := refusal)]
  | label =>
      rcases tokens with _ | ⟨token, _ | ⟨next, others⟩⟩
      · simp [readOperand, kind, eq_comm (a := refusal)]
      · cases wellNamed : isName token.toList <;>
          simp [readOperand, kind, readLabel, wellNamed, eq_comm (a := refusal)]
      · simp [readOperand, kind, eq_comm (a := refusal)]

/-- The first token of a line without a colon decides how the line is read. -/
theorem Statement.read_plain {line : Line} (cut : line.IsCut) (plain : ':' ∉ line.text.toList)
    {opcode : Opcode} {operands : List String} (shape : line.tokens = opcode.word :: operands) :
    Statement.read line.tokens = (readOperand opcode operands).map (Statement.act opcode) := by
  unfold Statement.read
  rw [if_neg (mt (Line.any_colon_iff cut).mp plain), shape]
  simp only [Opcode.ofWord?_word]

theorem map_act_eq_error_iff {opcode : Opcode} {operand : Except Refusal Operand}
    {refusal : Refusal} :
    operand.map (Statement.act opcode) = .error refusal ↔ operand = .error refusal := by
  cases operand <;> simp [Except.map]

/-- A line with a colon that declares no name is a mistake. -/
theorem readDeclaration_of_undeclared {tokens : List String}
    (undeclared : ∀ name : String, isName name.toList = true → tokens ≠ [name ++ ":"]) :
    readDeclaration tokens = .error (.complaint .strayColon) := by
  unfold readDeclaration
  split
  · rename_i token
    split
    · rename_i name found
      obtain ⟨shape, wellNamed⟩ := declaredName?_eq_some_iff.mp found
      refine absurd ?_ (undeclared (String.ofList name) (by rwa [String.toList_ofList]))
      apply congrArg (fun word => [word])
      apply String.toList_inj.mp
      simp [shape]
    · rfl
  · rfl

/-- The reader refuses a line that breaks a rule. -/
theorem Statement.read_of_misspells {line : Line} (cut : line.IsCut) {refusal : Refusal}
    (misspells : line.Misspells refusal) : Statement.read line.tokens = .error refusal := by
  cases misspells with
  | strayColon colon undeclared =>
      unfold Statement.read
      rw [if_pos ((Line.any_colon_iff cut).mpr colon)]
      apply readDeclaration_of_undeclared
      intro name wellNamed single
      have isWord : Text.IsWord (name ++ ":").toList := by
        rw [String.toList_append]
        exact isWord_declaration wellNamed
      exact undeclared name wellNamed ((Line.tokens_eq_singleton_iff cut isWord).mp single)
  | noOpcode plain shape unknown =>
      unfold Statement.read
      rw [if_neg (mt (Line.any_colon_iff cut).mp plain), shape]
      split
      · rename_i empty
        cases empty
      · rename_i word operands same
        obtain ⟨sameWord, -⟩ := List.cons.inj same
        rw [← sameWord]
        cases known : Opcode.ofWord? _ with
        | none => rfl
        | some opcode => exact absurd (Opcode.word_of_ofWord? known) (unknown opcode)
  | takesNothing plain shape takes given =>
      rw [read_plain cut plain shape, map_act_eq_error_iff, readOperand_eq_error_iff]
      exact Or.inl ⟨takes, given, rfl⟩
  | takesOne plain shape takes given =>
      rw [read_plain cut plain shape, map_act_eq_error_iff, readOperand_eq_error_iff]
      exact Or.inr (Or.inl ⟨takes, given, rfl⟩)
  | noTile plain shape takes misspelt =>
      rw [read_plain cut plain shape, map_act_eq_error_iff, readOperand_eq_error_iff]
      exact Or.inr (Or.inr (Or.inl
        ⟨takes, _, rfl, readTile_eq_error_iff.mpr (Or.inl ⟨misspelt, rfl⟩)⟩))
  | noLabelName plain shape takes misnamed =>
      rw [read_plain cut plain shape, map_act_eq_error_iff, readOperand_eq_error_iff]
      exact Or.inr (Or.inr (Or.inr ⟨takes, _, rfl, misnamed, rfl⟩))
  | overlong plain shape takes spelt long =>
      rw [read_plain cut plain shape, map_act_eq_error_iff, readOperand_eq_error_iff]
      exact Or.inr (Or.inr (Or.inl
        ⟨takes, _, rfl, readTile_eq_error_iff.mpr (Or.inr ⟨_, spelt, long, rfl⟩)⟩))

/-- A line whose operands are refused breaks the rule about them. -/
theorem misspells_of_readOperand {line : Line} (plain : ':' ∉ line.text.toList) {opcode : Opcode}
    {operands : List String} (shape : line.tokens = opcode.word :: operands) {refusal : Refusal}
    (refused : readOperand opcode operands = .error refusal) : line.Misspells refusal := by
  rcases readOperand_eq_error_iff.mp refused with
    ⟨takes, given, same⟩ | ⟨takes, given, same⟩ | ⟨takes, token, single, tile⟩ |
      ⟨takes, token, single, misnamed, same⟩
  · rw [same]
    exact .takesNothing plain shape takes given
  · rw [same]
    exact .takesOne plain shape takes given
  · rw [single] at shape
    rcases readTile_eq_error_iff.mp tile with ⟨misspelt, same⟩ | ⟨digits, spelt, long, same⟩
    · rw [same]
      exact .noTile plain shape takes misspelt
    · rw [same]
      exact .overlong plain shape takes spelt long
  · rw [same]
    rw [single] at shape
    exact .noLabelName plain shape takes misnamed

theorem readDeclaration_refusal {tokens : List String} {refusal : Refusal}
    (refused : readDeclaration tokens = .error refusal) :
    refusal = .complaint .strayColon := by
  unfold readDeclaration at refused
  split at refused
  · split at refused
    · cases refused
    · exact (Except.error.inj refused).symm
  · exact (Except.error.inj refused).symm

/-- A line with tokens that the reader refuses breaks a rule. -/
theorem Statement.misspells_of_read {line : Line} (cut : line.IsCut) (inked : line.tokens ≠ [])
    {refusal : Refusal} (refused : Statement.read line.tokens = .error refusal) :
    line.Misspells refusal := by
  by_cases colon : ':' ∈ line.text.toList
  · have undeclared (name : String) (wellNamed : isName name.toList = true) :
        line.text ≠ name ++ ":" := by
      intro shape
      rw [Statement.read_of_means cut (.declaration name wellNamed shape)] at refused
      cases refused
    unfold Statement.read at refused
    rw [if_pos ((Line.any_colon_iff cut).mpr colon)] at refused
    rw [readDeclaration_refusal refused]
    exact .strayColon colon undeclared
  · cases shape : line.tokens with
    | nil => exact absurd shape inked
    | cons word operands =>
        cases known : Opcode.ofWord? word with
        | some opcode =>
            rw [← Opcode.word_of_ofWord? known] at shape
            rw [read_plain cut colon shape, map_act_eq_error_iff] at refused
            exact misspells_of_readOperand colon shape refused
        | none =>
            have unknown (opcode : Opcode) : opcode.word ≠ word := by
              intro same
              rw [← same, Opcode.ofWord?_word] at known
              cases known
            have misspells := Line.Misspells.noOpcode colon shape unknown
            rw [Statement.read_of_misspells cut misspells] at refused
            rw [← Except.error.inj refused]
            exact misspells

/-- The reader refuses exactly the lines that break a rule. -/
theorem Statement.read_eq_error_iff {line : Line} (cut : line.IsCut) (inked : line.tokens ≠ [])
    {refusal : Refusal} :
    Statement.read line.tokens = .error refusal ↔ line.Misspells refusal :=
  ⟨misspells_of_read cut inked, read_of_misspells cut⟩

end OfficeMachine.Script
