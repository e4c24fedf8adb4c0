/-
This file looks at a text as its rows of words. The rows do not show which blanks are between the
words, which characters end the lines and where blank lines are.
-/

import OfficeMachine.Proofs.Text.Lines

namespace OfficeMachine.Text

/-- The rows of a text are the words of its lines without those of the blank lines. -/
def rows (text : List Char) : List (List (List Char)) :=
  ((pieces isLineEnd text).map words).filter fun row => !row.isEmpty

@[simp] theorem rows_nil : rows [] = [] := rfl

/-- A line end between two texts separates their rows. -/
theorem rows_append_end (first second : List Char) {terminator : Char}
    (ends : isLineEnd terminator = true) :
    rows (first ++ terminator :: second) = rows first ++ rows second := by
  simp only [rows, pieces_append_separator isLineEnd first second terminator ends,
    List.map_append, List.filter_append]

theorem rows_cons_end (text : List Char) {terminator : Char}
    (ends : isLineEnd terminator = true) : rows (terminator :: text) = rows text :=
  rows_append_end [] text ends

/-- A text on one line has the row of its words, if it has words. -/
theorem rows_of_isRow {text : List Char} (clean : IsRow text) :
    rows text = [words text].filter fun row => !row.isEmpty := by
  rw [rows, pieces_of_clean isLineEnd clean]
  rfl

theorem rows_append_unifyLineEnds (front text : List Char) :
    rows (front ++ unifyLineEnds text) = rows (front ++ text) := by
  fun_induction unifyLineEnds text generalizing front with
  | case1 => rfl
  | case2 rest inductionHypothesis =>
      have same : rows (unifyLineEnds rest) = rows rest := inductionHypothesis []
      rw [rows_append_end _ _ (by decide), rows_append_end _ _ (by decide),
        rows_cons_end _ (by decide), same]
  | case3 rest other inductionHypothesis =>
      have same : rows (unifyLineEnds rest) = rows rest := inductionHypothesis []
      rw [rows_append_end _ _ (by decide), rows_append_end _ _ (by decide), same]
  | case4 character rest other another inductionHypothesis =>
      have same := inductionHypothesis (front ++ [character])
      simpa using same

theorem rows_unifyLineEnds (text : List Char) : rows (unifyLineEnds text) = rows text :=
  rows_append_unifyLineEnds [] text

/-- The lines of a text have the words of its rows. -/
theorem filter_words_lines (text : List Char) :
    ((lines text).map words).filter (fun row => !row.isEmpty) = rows text := by
  rw [← rows_unifyLineEnds, rows, lines]
  split
  · rename_i last
    obtain ⟨front, shape⟩ := List.getLast?_eq_some_iff.mp last
    rw [shape, List.dropLast_concat, List.map_append, List.filter_append]
    simp
  · rfl

theorem not_mem_unifyLineEnds (text : List Char) : '\r' ∉ unifyLineEnds text := by
  fun_induction unifyLineEnds text with
  | case1 => simp
  | case2 rest inductionHypothesis => simpa using inductionHypothesis
  | case3 rest other inductionHypothesis => simpa using inductionHypothesis
  | case4 character rest other another inductionHypothesis =>
      rw [List.mem_cons, not_or]
      refine ⟨?_, inductionHypothesis⟩
      rintro rfl
      exact another rfl

/-- Unified line ends stay as they are. -/
theorem unifyLineEnds_idem (text : List Char) :
    unifyLineEnds (unifyLineEnds text) = unifyLineEnds text := by
  apply unifyLineEnds_of_noReturn
  rintro character member rfl
  exact not_mem_unifyLineEnds text member

theorem lines_unifyLineEnds (text : List Char) : lines (unifyLineEnds text) = lines text := by
  simp only [lines, unifyLineEnds_idem]

/-- A line ends with one character, or with a carriage return and a line feed. -/
inductive IsTerminator : List Char → Prop
  | single {character : Char} (ends : isLineEnd character = true) : IsTerminator [character]
  | pair : IsTerminator ['\r', '\n']

theorem IsTerminator.rows_append {terminator : List Char} (terminates : IsTerminator terminator)
    (first second : List Char) :
    rows (first ++ terminator ++ second) = rows first ++ rows second := by
  cases terminates with
  | single ends => rw [List.append_assoc, List.singleton_append, rows_append_end _ _ ends]
  | pair =>
      rw [List.append_assoc, List.cons_append, rows_append_end _ _ (by decide),
        List.singleton_append, rows_cons_end _ (by decide)]

/-- What follows such a text is on a line of its own. -/
def OpensLine (text : List Char) : Prop := text = [] ∨ EndsLine text

/-- What such a text follows is on a line of its own. -/
def ClosesLine (text : List Char) : Prop :=
  ∀ character, text.head? = some character → isLineEnd character = true

theorem OpensLine.rows_append {first : List Char} (opens : OpensLine first)
    (second : List Char) : rows (first ++ second) = rows first ++ rows second := by
  rcases opens with empty | ends
  · rw [empty]
    rfl
  · obtain ⟨row, terminator, shape, ended⟩ := endsLine_iff.mp ends
    rw [shape, List.append_assoc, List.singleton_append, rows_append_end _ _ ended,
      rows_append_end _ _ ended, rows_nil, List.append_nil]

theorem ClosesLine.rows_append (first : List Char) {second : List Char}
    (closes : ClosesLine second) : rows (first ++ second) = rows first ++ rows second := by
  cases second with
  | nil => simp
  | cons terminator rest =>
      have ends : isLineEnd terminator = true := closes terminator rfl
      rw [rows_append_end _ _ ends, rows_cons_end _ ends]

/-- The end of a text is on its last line. -/
theorem exists_opensLine_append (text : List Char) :
    ∃ front row, text = front ++ row ∧ OpensLine front ∧ IsRow row := by
  induction text with
  | nil => exact ⟨[], [], rfl, Or.inl rfl, List.forall_mem_nil _⟩
  | cons character rest inductionHypothesis =>
      obtain ⟨front, row, shape, opens, clean⟩ := inductionHypothesis
      rw [shape]
      by_cases ends : isLineEnd character = true ∨ EndsLine front
      · refine ⟨character :: front, row, rfl, Or.inr (endsLine_cons_iff.mpr ?_), clean⟩
        rcases ends with ended | later
        · rcases opens with empty | later
          · exact Or.inl ⟨empty, ended⟩
          · exact Or.inr later
        · exact Or.inr later
      · rw [not_or, Bool.not_eq_true] at ends
        have empty : front = [] := opens.resolve_right ends.2
        exact ⟨[], character :: row, by simp [empty], Or.inl rfl,
          List.forall_mem_cons.mpr ⟨ends.1, clean⟩⟩

/-- The start of a text is on its first line. -/
theorem exists_append_closesLine (text : List Char) :
    ∃ row back, text = row ++ back ∧ IsRow row ∧ ClosesLine back := by
  induction text with
  | nil => exact ⟨[], [], rfl, List.forall_mem_nil _, by simp [ClosesLine]⟩
  | cons character rest inductionHypothesis =>
      by_cases ends : isLineEnd character = true
      · exact ⟨[], character :: rest, rfl, List.forall_mem_nil _, by simp [ClosesLine, ends]⟩
      · obtain ⟨row, back, shape, clean, closes⟩ := inductionHypothesis
        rw [Bool.not_eq_true] at ends
        exact ⟨character :: row, back, by rw [shape]; rfl,
          List.forall_mem_cons.mpr ⟨ends, clean⟩, closes⟩

/-- A gap is a run of blank characters on one line. -/
structure IsGap (gap : List Char) : Prop where
  blank : IsMargin gap
  clean : IsRow gap

/-- No word goes from the end of the first text into the second one. -/
def Apart (first second : List Char) : Prop :=
  first = [] ∨ second = [] ∨
    (∃ character, first.getLast? = some character ∧ isBlank character = true) ∨
    ∃ character, second.head? = some character ∧ isBlank character = true

theorem Apart.words_append {first second : List Char} (apart : Apart first second) :
    words (first ++ second) = words first ++ words second := by
  rcases apart with empty | empty | ⟨separator, last, blank⟩ | ⟨separator, head, blank⟩
  · rw [empty]
    rfl
  · rw [empty, List.append_nil, words_nil, List.append_nil]
  · obtain ⟨front, shape⟩ := List.getLast?_eq_some_iff.mp last
    rw [shape, List.append_assoc, List.singleton_append, words_append_blank _ _ blank,
      words_append_blank _ _ blank, words_nil, List.append_nil]
  · obtain ⟨back, shape⟩ := List.head?_eq_some_iff.mp head
    rw [shape, words_append_blank _ _ blank, words_cons_blank _ blank]

theorem Apart.inner {front first second back : List Char}
    (apart : Apart (front ++ first) (second ++ back)) : Apart first second := by
  by_cases noFirst : first = []
  · exact Or.inl noFirst
  by_cases noSecond : second = []
  · exact Or.inr (Or.inl noSecond)
  rcases apart with empty | empty | ⟨separator, last, blank⟩ | ⟨separator, head, blank⟩
  · exact absurd (List.append_eq_nil_iff.mp empty).2 noFirst
  · exact absurd (List.append_eq_nil_iff.mp empty).1 noSecond
  · rw [List.getLast?_append_of_ne_nil _ noFirst] at last
    exact Or.inr (Or.inr (Or.inl ⟨separator, last, blank⟩))
  · rw [List.head?_append_of_ne_nil _ noSecond] at head
    exact Or.inr (Or.inr (Or.inr ⟨separator, head, blank⟩))

theorem words_gap (first second : List Char) {gap : List Char} (isMargin : IsMargin gap)
    (apart : gap ≠ [] ∨ Apart first second) :
    words (first ++ gap ++ second) = words first ++ words second := by
  cases gap with
  | nil =>
      rw [List.append_nil]
      exact (apart.resolve_left fun full => full rfl).words_append
  | cons separator rest =>
      have blank : isBlank separator = true := isMargin separator (by simp)
      have others : IsMargin rest := fun other member => isMargin other (by simp [member])
      rw [List.append_assoc, List.cons_append, words_append_blank _ _ blank,
        words_margin_append others]

/-- One gap is as good as another if neither creates or removes the end of a word. -/
theorem rows_gap (before after : List Char) {gap other : List Char} (isGap : IsGap gap)
    (isGapToo : IsGap other) (keeps : (gap = [] ↔ other = []) ∨ Apart before after) :
    rows (before ++ gap ++ after) = rows (before ++ other ++ after) := by
  obtain ⟨front, head, shape, opens, headClean⟩ := exists_opensLine_append before
  obtain ⟨tail, back, shaped, tailClean, closes⟩ := exists_append_closesLine after
  have onLine {space : List Char} (clean : IsRow space) : rows (before ++ space ++ after) =
      rows front ++ [words (head ++ space ++ tail)].filter (fun row => !row.isEmpty) ++
        rows back := by
    have line : IsRow (head ++ space ++ tail) :=
      List.forall_mem_append.mpr ⟨List.forall_mem_append.mpr ⟨headClean, clean⟩, tailClean⟩
    have whole : before ++ space ++ after = front ++ (head ++ space ++ tail) ++ back := by
      simp [shape, shaped]
    rw [whole, closes.rows_append, opens.rows_append, rows_of_isRow line]
  rw [onLine isGap.clean, onLine isGapToo.clean]
  by_cases both : gap = [] ↔ other = []
  · by_cases empty : gap = []
    · rw [empty, both.mp empty]
    · rw [words_gap _ _ isGap.blank (Or.inl empty),
        words_gap _ _ isGapToo.blank (Or.inl (mt both.mpr empty))]
  · have outer := keeps.resolve_left both
    rw [shape, shaped] at outer
    have apart := outer.inner
    rw [words_gap _ _ isGap.blank (Or.inr apart), words_gap _ _ isGapToo.blank (Or.inr apart)]

end OfficeMachine.Text
