/-
This file cuts texts that consist of terminated rows. The lines of such a text are its rows, and a
text that ends a line keeps its lines whatever follows it.
-/

import OfficeMachine.Text.Line
import OfficeMachine.Proofs.Text.Words

namespace OfficeMachine.Text

/-- A row stays on one line. -/
def IsRow (text : List Char) : Prop := ∀ character ∈ text, isLineEnd character = false

instance (text : List Char) : Decidable (IsRow text) :=
  decidable_of_iff ((text.all fun character => !isLineEnd character) = true) (by simp [IsRow])

theorem unifyLineEnds_of_noReturn {text : List Char}
    (clean : ∀ character ∈ text, character ≠ '\r') : unifyLineEnds text = text := by
  fun_induction unifyLineEnds text with
  | case1 => rfl
  | case2 rest inductionHypothesis => exact absurd rfl (clean '\r' (by simp))
  | case3 rest other inductionHypothesis => exact absurd rfl (clean '\r' (by simp))
  | case4 character rest other another inductionHypothesis =>
      rw [inductionHypothesis fun later member => clean later (by simp [member])]

/-- Line ends are blank, so it does not matter to the words whether they are unified. -/
theorem words_append_unifyLineEnds (front text : List Char) :
    words (front ++ unifyLineEnds text) = words (front ++ text) := by
  fun_induction unifyLineEnds text generalizing front with
  | case1 => rfl
  | case2 rest inductionHypothesis =>
      have same : words (unifyLineEnds rest) = words rest := inductionHypothesis []
      rw [words_append_blank _ _ (by decide), words_append_blank _ _ (by decide),
        words_cons_blank _ (by decide), same]
  | case3 rest other inductionHypothesis =>
      have same : words (unifyLineEnds rest) = words rest := inductionHypothesis []
      rw [words_append_blank _ _ (by decide), words_append_blank _ _ (by decide), same]
  | case4 character rest other another inductionHypothesis =>
      have same := inductionHypothesis (front ++ [character])
      simpa using same

theorem words_unifyLineEnds (text : List Char) : words (unifyLineEnds text) = words text :=
  words_append_unifyLineEnds [] text

theorem pieces_terminated {rows : List (List Char)} (clean : ∀ row ∈ rows, IsRow row) :
    pieces isLineEnd (rows.flatMap (· ++ ['\n'])) = rows ++ [[]] := by
  induction rows with
  | nil => rfl
  | cons row rows inductionHypothesis =>
      have first : pieces isLineEnd row = [row] := pieces_of_clean isLineEnd (clean row (by simp))
      have others := inductionHypothesis fun other member => clean other (by simp [member])
      rw [List.flatMap_cons, List.append_assoc, List.singleton_append,
        pieces_append_separator isLineEnd row _ '\n' (by decide), first, others]
      rfl

/-- A text of terminated rows has these rows as its lines. -/
theorem lines_terminated {rows : List (List Char)} (clean : ∀ row ∈ rows, IsRow row) :
    lines (rows.flatMap (· ++ ['\n'])) = rows := by
  have noReturn : ∀ character ∈ rows.flatMap (· ++ ['\n']), character ≠ '\r' := by
    intro character member same
    obtain ⟨row, rowMember, inside⟩ := List.mem_flatMap.mp member
    rcases List.mem_append.mp inside with inRow | atEnd
    · have ink := clean row rowMember character inRow
      rw [same] at ink
      revert ink
      decide
    · rw [same] at atEnd
      revert atEnd
      decide
  simp only [lines, unifyLineEnds_of_noReturn noReturn, pieces_terminated clean]
  simp

/-- The last character of such a text ends a line. -/
def EndsLine (text : List Char) : Prop :=
  ∃ terminator, text.getLast? = some terminator ∧ isLineEnd terminator = true

theorem endsLine_iff {text : List Char} :
    EndsLine text ↔ ∃ row terminator, text = row ++ [terminator] ∧ isLineEnd terminator = true := by
  constructor
  · rintro ⟨terminator, last, ends⟩
    obtain ⟨row, shape⟩ := List.getLast?_eq_some_iff.mp last
    exact ⟨row, terminator, shape, ends⟩
  · rintro ⟨row, terminator, shape, ends⟩
    exact ⟨terminator, by rw [shape, List.getLast?_concat], ends⟩

theorem endsLine_cons_iff {character : Char} {text : List Char} :
    EndsLine (character :: text) ↔
      (text = [] ∧ isLineEnd character = true) ∨ EndsLine text := by
  cases text with
  | nil => simp [EndsLine]
  | cons next rest => simp [EndsLine]

/-- Two texts are unified apart unless a carriage return and its line feed meet. -/
theorem unifyLineEnds_append {first : List Char} (second : List Char)
    (apart : first.getLast? = some '\r' → second.head? ≠ some '\n') :
    unifyLineEnds (first ++ second) = unifyLineEnds first ++ unifyLineEnds second := by
  fun_induction unifyLineEnds first with
  | case1 => rfl
  | case2 rest inductionHypothesis =>
      rw [List.cons_append, List.cons_append, unifyLineEnds, inductionHypothesis]
      · rfl
      · intro last
        exact apart (by cases rest <;> simp_all)
  | case3 rest other inductionHypothesis =>
      have noFeed : ∀ tail, rest ++ second ≠ '\n' :: tail := by
        intro tail same
        cases rest with
        | nil => exact apart rfl (by rw [← List.nil_append second, same]; rfl)
        | cons character rest =>
            rw [List.cons_append] at same
            exact other _ (by rw [(List.cons.inj same).1])
      rw [List.cons_append, unifyLineEnds]
      · rw [inductionHypothesis]
        · rfl
        · intro last
          exact apart (by cases rest <;> simp_all)
      · exact noFeed
  | case4 character rest other another inductionHypothesis =>
      rw [List.cons_append, unifyLineEnds, inductionHypothesis]
      · rfl
      · intro last
        exact apart (by cases rest <;> simp_all)
      · simp_all
      · simp_all

theorem EndsLine.unifyLineEnds {text : List Char} (ends : EndsLine text) :
    EndsLine (unifyLineEnds text) := by
  fun_induction Text.unifyLineEnds text with
  | case1 => exact ends
  | case2 rest inductionHypothesis =>
      rw [endsLine_cons_iff]
      rcases endsLine_cons_iff.mp ends with ⟨empty, -⟩ | later
      · cases empty
      · rcases endsLine_cons_iff.mp later with ⟨empty, -⟩ | last
        · rw [empty]
          exact Or.inl ⟨rfl, by decide⟩
        · exact Or.inr (inductionHypothesis last)
  | case3 rest other inductionHypothesis =>
      rw [endsLine_cons_iff]
      rcases endsLine_cons_iff.mp ends with ⟨empty, -⟩ | last
      · rw [empty]
        exact Or.inl ⟨rfl, by decide⟩
      · exact Or.inr (inductionHypothesis last)
  | case4 character rest other another inductionHypothesis =>
      rw [endsLine_cons_iff]
      rcases endsLine_cons_iff.mp ends with ⟨empty, ended⟩ | last
      · rw [empty]
        exact Or.inl ⟨rfl, ended⟩
      · exact Or.inr (inductionHypothesis last)

/-- What follows a text only adds to the unified text. -/
theorem exists_unifyLineEnds_append (first second : List Char) :
    ∃ more, unifyLineEnds (first ++ second) = unifyLineEnds first ++ unifyLineEnds more := by
  by_cases meet : first.getLast? = some '\r' ∧ second.head? = some '\n'
  · -- The line feed at the start of the second text belongs to the last line of the first one.
    obtain ⟨row, shape⟩ := List.getLast?_eq_some_iff.mp meet.1
    obtain ⟨rest, same⟩ := List.head?_eq_some_iff.mp meet.2
    refine ⟨rest, ?_⟩
    have whole : first ++ second = row ++ ('\r' :: '\n' :: rest) := by simp [shape, same]
    rw [whole, unifyLineEnds_append _ (by simp), shape, unifyLineEnds_append _ (by simp)]
    simp [unifyLineEnds]
  · refine ⟨second, unifyLineEnds_append second ?_⟩
    intro last first
    exact meet ⟨last, first⟩

/-- Behind a text that ends a line the lines go on afresh. -/
theorem EndsLine.lines_append {first second more : List Char} (ends : EndsLine first)
    (unified : Text.unifyLineEnds (first ++ second) =
      Text.unifyLineEnds first ++ Text.unifyLineEnds more) :
    lines (first ++ second) = lines first ++ lines more := by
  obtain ⟨row, terminator, shape, ended⟩ := endsLine_iff.mp ends.unifyLineEnds
  have front : lines first = pieces isLineEnd row := by
    simp only [lines, shape, pieces_append_separator isLineEnd row [] terminator ended, pieces_nil]
    simp
  have nonempty := pieces_ne_nil isLineEnd (Text.unifyLineEnds more)
  have last : (pieces isLineEnd row ++ pieces isLineEnd (Text.unifyLineEnds more)).getLast? =
      (pieces isLineEnd (Text.unifyLineEnds more)).getLast? := by
    rw [List.getLast?_append_of_ne_nil _ nonempty]
  rw [front]
  simp only [lines, unified, shape, List.append_assoc, List.singleton_append,
    pieces_append_separator isLineEnd row _ terminator ended, last,
    List.dropLast_append_of_ne_nil nonempty]
  split <;> rfl

/-- The lines of a text that ends a line stay, whatever follows it. -/
theorem EndsLine.exists_lines_append {first : List Char} (ends : EndsLine first)
    (second : List Char) : ∃ more, lines (first ++ second) = lines first ++ more := by
  obtain ⟨more, unified⟩ := exists_unifyLineEnds_append first second
  exact ⟨lines more, ends.lines_append unified⟩

/-- A line feed between two texts separates their lines. -/
theorem lines_feed_append (first second : List Char) :
    lines (first ++ ['\n'] ++ second) = lines (first ++ ['\n']) ++ lines second := by
  have ends : EndsLine (first ++ ['\n']) := endsLine_iff.mpr ⟨first, '\n', rfl, by decide⟩
  refine ends.lines_append (unifyLineEnds_append second ?_)
  intro last
  simp at last

/-- A further line feed belongs to the carriage return in front of it, ends the last line or makes a
blank line. -/
theorem lines_append_feed (text : List Char) :
    lines (text ++ ['\n']) = lines text ∨ lines (text ++ ['\n']) = lines text ++ [[]] := by
  by_cases returned : text.getLast? = some '\r'
  · obtain ⟨row, shape⟩ := List.getLast?_eq_some_iff.mp returned
    have alone : unifyLineEnds (row ++ ['\r']) = unifyLineEnds row ++ ['\n'] :=
      unifyLineEnds_append ['\r'] (by simp)
    have together : unifyLineEnds (row ++ ['\r', '\n']) = unifyLineEnds row ++ ['\n'] :=
      unifyLineEnds_append ['\r', '\n'] (by simp)
    left
    rw [shape, List.append_assoc]
    simp only [lines, List.singleton_append, alone, together]
  · have unified : unifyLineEnds (text ++ ['\n']) = unifyLineEnds text ++ ['\n'] :=
      unifyLineEnds_append ['\n'] fun last => absurd last returned
    have parted : lines (text ++ ['\n']) = pieces isLineEnd (unifyLineEnds text) := by
      simp only [lines, unified, pieces_append_separator isLineEnd _ [] '\n' (by decide), pieces_nil]
      simp
    rw [parted, lines]
    by_cases ended : (pieces isLineEnd (unifyLineEnds text)).getLast? = some []
    · obtain ⟨front, shape⟩ := List.getLast?_eq_some_iff.mp ended
      right
      simp [shape]
    · left
      rw [if_neg ended]

end OfficeMachine.Text
