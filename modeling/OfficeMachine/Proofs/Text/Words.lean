/-
This file relates the words of a text to its trimmed form. Blanks around a text do not count, the
trimmed text begins with the first word, and it is one word exactly if the text has one.
-/

import Mathlib.Data.List.DropRight
import OfficeMachine.Text.Blank

namespace OfficeMachine.Text

/-- A word has a character and no blank one. -/
def IsWord (text : List Char) : Prop :=
  text ≠ [] ∧ ∀ character ∈ text, isBlank character = false

/-- A margin has only blank characters. -/
def IsMargin (text : List Char) : Prop := ∀ character ∈ text, isBlank character = true

/-- A text without separators is one piece. -/
theorem pieces_of_clean (isSeparator : Char → Bool) {text : List Char}
    (clean : ∀ character ∈ text, isSeparator character = false) :
    pieces isSeparator text = [text] := by
  induction text with
  | nil => rfl
  | cons character text inductionHypothesis =>
      have first : isSeparator character = false := clean character (by simp)
      have others : pieces isSeparator text = [text] :=
        inductionHypothesis fun other member => clean other (by simp [member])
      simp [pieces_cons, others, attach, first]

/-- A character that does not separate stays in one of the pieces. -/
theorem exists_mem_pieces_iff (isSeparator : Char → Bool) {character : Char}
    (kept : isSeparator character = false) (text : List Char) :
    (∃ piece ∈ pieces isSeparator text, character ∈ piece) ↔ character ∈ text := by
  induction text with
  | nil => simp
  | cons first rest inductionHypothesis =>
      rw [pieces_cons, List.mem_cons, ← inductionHypothesis]
      cases parts : pieces isSeparator rest with
      | nil => exact absurd parts (pieces_ne_nil isSeparator rest)
      | cons piece others =>
          by_cases separates : isSeparator first = true
          · have different : character ≠ first := by
              intro same
              rw [same, separates] at kept
              cases kept
            simp [attach, separates, different]
          · simp [attach, separates, or_assoc]

@[simp] theorem words_nil : words [] = [] := rfl

/-- A character that is not blank stays in one of the words. -/
theorem exists_mem_words_iff {character : Char} (ink : isBlank character = false)
    (text : List Char) : (∃ word ∈ words text, character ∈ word) ↔ character ∈ text := by
  rw [← exists_mem_pieces_iff isBlank ink text]
  constructor
  · rintro ⟨word, member, inside⟩
    exact ⟨word, (List.mem_filter.mp member).1, inside⟩
  · rintro ⟨piece, member, inside⟩
    refine ⟨piece, List.mem_filter.mpr ⟨member, ?_⟩, inside⟩
    simpa using List.ne_nil_of_mem inside

/-- A blank character between two texts separates their words. -/
theorem words_append_blank (first second : List Char) {separator : Char}
    (blank : isBlank separator = true) :
    words (first ++ separator :: second) = words first ++ words second := by
  simp only [words, pieces_append_separator isBlank first second separator blank,
    List.filter_append]

theorem words_of_isWord {word : List Char} (isWord : IsWord word) : words word = [word] := by
  obtain ⟨nonempty, clean⟩ := isWord
  simp [words, pieces_of_clean isBlank clean, nonempty]

/-- The word in front of a blank character is the first one. -/
theorem words_word_append {word : List Char} (isWord : IsWord word) (rest : List Char)
    {separator : Char} (blank : isBlank separator = true) :
    words (word ++ separator :: rest) = word :: words rest := by
  rw [words_append_blank word rest blank, words_of_isWord isWord]
  rfl

/-- Words with spaces between them are the words of their text. -/
theorem wordTexts_intercalate {texts : List String}
    (isWord : ∀ text ∈ texts, IsWord text.toList) : wordTexts (" ".intercalate texts) = texts := by
  induction texts with
  | nil => rfl
  | cons first rest inductionHypothesis =>
      obtain ⟨isFirst, areOthers⟩ := List.forall_mem_cons.mp isWord
      cases rest with
      | nil =>
          rw [String.intercalate_singleton, wordTexts, words_of_isWord isFirst]
          simp
      | cons second rest =>
          have others := inductionHypothesis areOthers
          have blank : isBlank ' ' = true := by decide
          rw [wordTexts] at others ⊢
          rw [String.intercalate_cons_cons, String.toList_append, String.toList_append,
            List.append_assoc]
          change (words (first.toList ++ ' ' :: (" ".intercalate (second :: rest)).toList)).map
            String.ofList = _
          rw [words_word_append isFirst _ blank, List.map_cons, others, String.ofList_toList]

theorem words_cons_blank (text : List Char) {separator : Char}
    (blank : isBlank separator = true) : words (separator :: text) = words text := by
  simpa using words_append_blank [] text blank

theorem words_margin_append {margin : List Char} (isMargin : IsMargin margin)
    (text : List Char) : words (margin ++ text) = words text := by
  induction margin with
  | nil => rfl
  | cons separator margin inductionHypothesis =>
      have blank : isBlank separator = true := isMargin separator (by simp)
      have tail : IsMargin margin := fun other member => isMargin other (by simp [member])
      rw [List.cons_append, words_cons_blank _ blank]
      exact inductionHypothesis tail

theorem words_of_isMargin {margin : List Char} (isMargin : IsMargin margin) :
    words margin = [] := by
  have alone := words_margin_append isMargin []
  rwa [List.append_nil] at alone

theorem words_append_margin (text : List Char) {margin : List Char}
    (isMargin : IsMargin margin) : words (text ++ margin) = words text := by
  cases margin with
  | nil => rw [List.append_nil]
  | cons separator margin =>
      have tail : IsMargin margin := fun other member => isMargin other (by simp [member])
      rw [words_append_blank text margin (isMargin separator (by simp)), words_of_isMargin tail,
        List.append_nil]

/-- A text is its trimmed form between two margins. -/
theorem exists_margins (text : List Char) :
    ∃ front back, text = front ++ trim text ++ back ∧ IsMargin front ∧ IsMargin back := by
  have frontSplit := List.takeWhile_append_dropWhile (p := isBlank) (l := text)
  have backSplit := List.rdropWhile_append_rtakeWhile (p := isBlank)
    (l := text.dropWhile isBlank)
  refine ⟨text.takeWhile isBlank, (text.dropWhile isBlank).rtakeWhile isBlank, ?_, ?_, ?_⟩
  · rw [List.append_assoc, show trim text = (text.dropWhile isBlank).rdropWhile isBlank from rfl,
      backSplit, frontSplit]
  · intro character member
    exact List.mem_takeWhile_imp member
  · intro character member
    exact List.mem_rtakeWhile_imp member

@[simp] theorem words_trim (text : List Char) : words (trim text) = words text := by
  obtain ⟨front, back, split, isFront, isBack⟩ := exists_margins text
  conv_rhs => rw [split]
  rw [words_append_margin _ isBack, words_margin_append isFront]

theorem isBlank_head_trim {text rest : List Char} {character : Char}
    (shape : trim text = character :: rest) : isBlank character = false := by
  have start : trim text <+: text.dropWhile isBlank := List.rdropWhile_prefix isBlank _
  obtain ⟨back, same⟩ := start
  rw [shape, List.cons_append] at same
  have nonempty : text.dropWhile isBlank ≠ [] := by
    rw [← same]
    exact List.cons_ne_nil _ _
  have head := List.head_dropWhile_not (p := isBlank) nonempty
  simpa only [← same, List.head_cons, Bool.not_eq_true] using head

theorem isBlank_last_trim {text : List Char} (front : List Char) {character : Char}
    (shape : trim text = front ++ [character]) : isBlank character = false := by
  have last := List.rdropWhile_last_not isBlank (text.dropWhile isBlank)
  change ∀ nonempty : trim text ≠ [], ¬isBlank ((trim text).getLast nonempty) = true at last
  simpa [shape] using last

/-- The trimmed text is empty, or it begins with its first word. -/
theorem trim_split (text : List Char) :
    trim text = [] ∨ ∃ word rest, IsWord word ∧ trim text = word ++ rest ∧
      (rest = [] ∨ ∃ separator tail, rest = separator :: tail ∧ isBlank separator = true) := by
  cases shape : trim text with
  | nil => exact Or.inl rfl
  | cons character others =>
      right
      have head : isBlank character = false := isBlank_head_trim shape
      let isInk (other : Char) : Bool := !isBlank other
      refine ⟨character :: others.takeWhile isInk, others.dropWhile isInk, ⟨by simp, ?_⟩, ?_, ?_⟩
      · intro other member
        rcases List.mem_cons.mp member with same | later
        · rw [same]
          exact head
        · simpa [isInk] using List.mem_takeWhile_imp later
      · rw [List.cons_append, List.takeWhile_append_dropWhile]
      · cases remains : others.dropWhile isInk with
        | nil => exact Or.inl rfl
        | cons separator tail =>
            right
            have nonempty : others.dropWhile isInk ≠ [] := by simp [remains]
            have stopped := List.head_dropWhile_not (p := isInk) nonempty
            refine ⟨separator, tail, rfl, ?_⟩
            simpa [remains, isInk] using stopped

theorem words_eq_nil_iff {text : List Char} : words text = [] ↔ trim text = [] := by
  constructor
  · intro none
    rcases trim_split text with
      empty | ⟨word, rest, isWord, shape, ends | ⟨separator, tail, shaped, blank⟩⟩
    · exact empty
    · rw [← words_trim, shape, ends, List.append_nil, words_of_isWord isWord] at none
      cases none
    · rw [← words_trim, shape, shaped, words_word_append isWord tail blank] at none
      cases none
  · intro empty
    rw [← words_trim, empty, words_nil]

theorem isMargin_of_words_eq_nil {text : List Char} (none : words text = []) :
    IsMargin text := by
  obtain ⟨front, back, split, isFront, isBack⟩ := exists_margins text
  rw [words_eq_nil_iff.mp none, List.append_nil] at split
  intro character member
  rw [split] at member
  rcases List.mem_append.mp member with inFront | inBack
  · exact isFront character inFront
  · exact isBack character inBack

/-- The trimmed text begins with the first word, and nothing or a blank follows it. -/
theorem trim_of_words_eq_cons {text first : List Char} {others : List (List Char)}
    (shape : words text = first :: others) :
    IsWord first ∧ ∃ rest, trim text = first ++ rest ∧ words rest = others ∧
      (rest = [] ∨ ∃ separator tail, rest = separator :: tail ∧ isBlank separator = true) := by
  rcases trim_split text with empty | ⟨word, rest, isWord, split, ending⟩
  · rw [words_eq_nil_iff.mpr empty] at shape
    cases shape
  · have known : words text = word :: words rest := by
      rw [← words_trim, split]
      rcases ending with ends | ⟨separator, tail, shaped, blank⟩
      · rw [ends, List.append_nil, words_of_isWord isWord, words_nil]
      · rw [shaped, words_word_append isWord tail blank]
        rw [words_cons_blank tail blank]
    rw [known] at shape
    obtain ⟨sameWord, sameOthers⟩ := List.cons.inj shape
    subst sameWord
    exact ⟨isWord, rest, split, sameOthers, ending⟩

/-- A text has one word exactly if its trimmed form is that word. -/
theorem words_eq_singleton_iff {text word : List Char} :
    words text = [word] ↔ trim text = word ∧ IsWord word := by
  constructor
  · intro single
    obtain ⟨isWord, rest, split, noOthers, ending⟩ := trim_of_words_eq_cons single
    refine ⟨?_, isWord⟩
    -- A rest without words would end the trimmed text with a blank character.
    rcases List.eq_nil_or_concat rest with empty | ⟨front, last, shaped⟩
    · rw [split, empty, List.append_nil]
    · have ink : isBlank last = false :=
        isBlank_last_trim (word ++ front) (by
          rw [split, shaped, List.concat_eq_append, List.append_assoc])
      have blank := isMargin_of_words_eq_nil noOthers last (by simp [shaped])
      rw [blank] at ink
      cases ink
  · intro given
    obtain ⟨same, isWord⟩ := given
    rw [← words_trim, same, words_of_isWord isWord]

/-- A text spaces out words if it has them in this order, with blank characters between any two of
them and perhaps at the ends. -/
inductive SpacedOut : List (List Char) → List Char → Prop where
  | blank {margin : List Char} (isMargin : IsMargin margin) : SpacedOut [] margin
  | word {front word gap text : List Char} {words : List (List Char)} (isMargin : IsMargin front)
      (isWord : IsWord word) (isGap : IsMargin gap) (apart : words ≠ [] → gap ≠ [])
      (others : SpacedOut words text) : SpacedOut (word :: words) (front ++ word ++ gap ++ text)

theorem SpacedOut.words_eq {spaced : List (List Char)} {text : List Char}
    (spacedOut : SpacedOut spaced text) : words text = spaced := by
  induction spacedOut with
  | blank isMargin => exact words_of_isMargin isMargin
  | @word front word gap text spaced isMargin isWord isGap apart others inductionHypothesis =>
      rw [List.append_assoc, List.append_assoc, words_margin_append isMargin]
      cases gap with
      | nil =>
          have none : spaced = [] := by
            by_contra some
            exact apart some rfl
          rw [none] at inductionHypothesis
          rw [List.nil_append, words_append_margin _ (isMargin_of_words_eq_nil inductionHypothesis),
            words_of_isWord isWord, none]
      | cons separator gap =>
          have tail : IsMargin gap := fun other member => isGap other (List.mem_cons_of_mem _ member)
          rw [List.cons_append, words_word_append isWord _ (isGap separator List.mem_cons_self),
            words_margin_append tail, inductionHypothesis]

/-- A text has exactly the words that it spaces out. -/
theorem words_eq_iff_spacedOut {spaced : List (List Char)} {text : List Char} :
    words text = spaced ↔ SpacedOut spaced text := by
  refine ⟨fun same => ?_, SpacedOut.words_eq⟩
  induction spaced generalizing text with
  | nil => exact .blank (isMargin_of_words_eq_nil same)
  | cons first others inductionHypothesis =>
      obtain ⟨front, back, split, isFront, isBack⟩ := exists_margins text
      obtain ⟨isWord, rest, shape, remaining, ending⟩ := trim_of_words_eq_cons same
      rw [split, shape]
      rcases ending with empty | ⟨separator, tail, shaped, blank⟩
      · have none : others = [] := by rw [← remaining, empty, words_nil]
        have last : SpacedOut others [] := none ▸ .blank (by simp [IsMargin])
        have spacedOut := SpacedOut.word isFront isWord isBack (fun some => absurd none some) last
        rw [empty, List.append_nil]
        simpa only [List.append_assoc, List.append_nil] using spacedOut
      · have later : words (tail ++ back) = others := by
          rw [words_append_margin _ isBack, ← remaining, shaped, words_cons_blank _ blank]
        have isGap : IsMargin [separator] := List.forall_mem_singleton.mpr blank
        have spacedOut := SpacedOut.word isFront isWord isGap (fun _ => List.cons_ne_nil _ _)
          (inductionHypothesis later)
        rw [shaped]
        simpa only [List.append_assoc, List.cons_append, List.nil_append] using spacedOut

end OfficeMachine.Text
