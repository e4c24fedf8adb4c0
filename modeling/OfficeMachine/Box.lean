/-
This file defines the boxes. A box holds a signed 32-bit number or one capital letter, and the two
kinds never turn into each other.
-/

namespace OfficeMachine

/-- A number lies in the signed 32-bit range. -/
structure Number where
  value : Int
  atLeast : -2147483648 ≤ value
  atMost : value ≤ 2147483647
  deriving DecidableEq

def Number.least : Int := -2147483648

def Number.greatest : Int := 2147483647

/-- The number exists exactly if the value is in range. -/
def Number.ofInt? (value : Int) : Option Number :=
  if inRange : -2147483648 ≤ value ∧ value ≤ 2147483647 then
    some ⟨value, inRange.1, inRange.2⟩
  else none

/-- The range is shown as its two ends. -/
def Number.rangeText : String := s!"[{Number.least}, {Number.greatest}]"

/-- A letter is one of the capitals from A to Z. -/
structure Letter where
  character : Char
  atLeast : 65 ≤ character.toNat
  atMost : character.toNat ≤ 90
  deriving DecidableEq

def Letter.ofChar? (character : Char) : Option Letter :=
  if inRange : 65 ≤ character.toNat ∧ character.toNat ≤ 90 then
    some ⟨character, inRange.1, inRange.2⟩
  else none

def Letter.text (letter : Letter) : String := String.singleton letter.character

inductive Box where
  | number (content : Number)
  | letter (content : Letter)
  deriving DecidableEq

/-- The text of a box is its decimal number or its letter. -/
def Box.text : Box → String
  | .number content => toString content.value
  | .letter content => content.text

/-- A sentence about a box names its kind. -/
def Box.kindText : Box → String
  | .number _ => "integer"
  | .letter _ => "letter"

def Box.isLetter : Box → Bool
  | .number _ => false
  | .letter _ => true

@[simp] theorem Number.ofInt?_value (number : Number) : ofInt? number.value = some number := by
  simp [ofInt?, number.atLeast, number.atMost]

theorem Number.ofInt?_eq_some_iff {value : Int} {number : Number} :
    ofInt? value = some number ↔ number.value = value := by
  constructor
  · intro found
    unfold ofInt? at found
    split at found
    · cases found; rfl
    · cases found
  · intro same
    subst same
    exact ofInt?_value number

theorem Number.ofInt?_eq_none_iff {value : Int} :
    ofInt? value = none ↔ value < least ∨ greatest < value := by
  unfold ofInt? least greatest
  split <;> simp <;> omega

@[simp] theorem Letter.ofChar?_character (letter : Letter) :
    ofChar? letter.character = some letter := by
  simp [ofChar?, letter.atLeast, letter.atMost]

theorem Letter.ofChar?_eq_some_iff {character : Char} {letter : Letter} :
    ofChar? character = some letter ↔ letter.character = character := by
  constructor
  · intro found
    unfold ofChar? at found
    split at found
    · cases found; rfl
    · cases found
  · intro same
    subst same
    exact ofChar?_character letter

end OfficeMachine
