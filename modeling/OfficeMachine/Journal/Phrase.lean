/-
This file defines phrases, which loggers have as names and messages. A phrase may hold lone surrogates.
These can be shown on a console but have no place in an encoded file.
-/

import OfficeMachine.Text.Quoted

namespace OfficeMachine

/-- A code point is a character or a lone surrogate, and these are counted from the first one on. -/
inductive CodePoint where
  | character (plain : Char)
  | surrogate (index : Fin 0x800)
  deriving DecidableEq

namespace CodePoint

@[match_pattern]
abbrev dot : CodePoint := .character '.'

/-- Only characters can be encoded. -/
def character? : CodePoint → Option Char
  | .character plain => some plain
  | .surrogate _ => none

/-- A surrogate is shown by its number. -/
def shown : CodePoint → List Char
  | .character plain => [plain]
  | .surrogate index => Text.escapedPoint (0xD800 + index)

end CodePoint

@[ext]
structure Phrase where
  points : List CodePoint
  deriving DecidableEq

namespace Phrase

def ofText (text : String) : Phrase := ⟨text.toList.map .character⟩

instance : Coe String Phrase := ⟨ofText⟩

/-- A phrase without lone surrogates is a text. -/
def text? (phrase : Phrase) : Option String :=
  (phrase.points.mapM CodePoint.character?).map String.ofList

def shown (phrase : Phrase) : String := String.ofList (phrase.points.flatMap CodePoint.shown)

@[simp] theorem text?_ofText (text : String) : (ofText text).text? = some text := by
  have each (characters : List Char) :
      (characters.map CodePoint.character).mapM CodePoint.character? = some characters := by
    induction characters with
    | nil => rfl
    | cons character rest inductionHypothesis =>
        rw [List.map_cons, List.mapM_cons, inductionHypothesis]
        rfl
  rw [text?, ofText, each, Option.map_some, String.ofList_toList]

end Phrase

end OfficeMachine
