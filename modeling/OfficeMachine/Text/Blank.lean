/-
This file splits text at blank characters. Cutting a text at a separator and keeping the empty
pieces is the basic operation, and the words are the pieces that are not empty.
-/

namespace OfficeMachine.Text

/-- Blank characters are the white space of Unicode and the four information separators. -/
def isBlank (character : Char) : Bool :=
  let point := character.toNat
  (0x09 ≤ point && point ≤ 0x0D) || (0x1C ≤ point && point ≤ 0x20) ||
    point == 0x85 || point == 0xA0 || point == 0x1680 ||
    (0x2000 ≤ point && point ≤ 0x200A) || point == 0x2028 || point == 0x2029 ||
    point == 0x202F || point == 0x205F || point == 0x3000

/-- The trimmed text has no blank character at either end. -/
def trim (text : List Char) : List Char :=
  ((text.dropWhile isBlank).reverse.dropWhile isBlank).reverse

/-- One character extends the first piece, and a separator opens an empty one. -/
def attach (isSeparator : Char → Bool) (character : Char) :
    List (List Char) → List (List Char)
  | [] => if isSeparator character then [[], []] else [[character]]
  | piece :: others =>
      if isSeparator character then [] :: piece :: others
      else (character :: piece) :: others

/-- The pieces are what stands between the separators, with the empty pieces kept. -/
def pieces (isSeparator : Char → Bool) (text : List Char) : List (List Char) :=
  text.foldr (attach isSeparator) [[]]

@[simp] theorem pieces_nil (isSeparator : Char → Bool) : pieces isSeparator [] = [[]] := rfl

theorem pieces_cons (isSeparator : Char → Bool) (character : Char) (text : List Char) :
    pieces isSeparator (character :: text) =
      attach isSeparator character (pieces isSeparator text) := rfl

theorem pieces_ne_nil (isSeparator : Char → Bool) (text : List Char) :
    pieces isSeparator text ≠ [] := by
  cases text with
  | nil => simp
  | cons character text =>
      rw [pieces_cons]
      cases pieces isSeparator text <;> simp only [attach] <;> split <;> simp

/-- A separator between two texts separates their pieces. -/
theorem pieces_append_separator (isSeparator : Char → Bool) (first second : List Char)
    (separator : Char) (separates : isSeparator separator = true) :
    pieces isSeparator (first ++ separator :: second) =
      pieces isSeparator first ++ pieces isSeparator second := by
  induction first with
  | nil =>
      cases parts : pieces isSeparator second with
      | nil => exact absurd parts (pieces_ne_nil isSeparator second)
      | cons piece others => simp [pieces_cons, attach, separates, parts]
  | cons character first inductionHypothesis =>
      rw [List.cons_append, pieces_cons, inductionHypothesis, pieces_cons]
      cases parts : pieces isSeparator first with
      | nil => exact absurd parts (pieces_ne_nil isSeparator first)
      | cons piece others =>
          simp only [attach, List.cons_append]
          split <;> simp

/-- The words of a text are its maximal runs of characters that are not blank. -/
def words (text : List Char) : List (List Char) :=
  (pieces isBlank text).filter fun piece => !piece.isEmpty

/-- The word texts of a string are its words. -/
def wordTexts (text : String) : List String :=
  (words text.toList).map String.ofList

end OfficeMachine.Text
