/-
This file states the grammar of box tokens. A token is read as a box exactly if its trimmed text
denotes this box, and it is refused exactly for the reason that a rule gives.
-/

import OfficeMachine.Box.Token
import OfficeMachine.Proofs.Numeral
import OfficeMachine.Proofs.Outcome

namespace OfficeMachine

open Numeral

/-- A numeral is a run of ASCII digits with at most one sign in front of it. It has the decimal value
of the digits, and a hyphen makes this negative. -/
inductive IsNumeral : List Char → List Char → Int → Prop where
  | plain {digits : List Char} (isNumber : isDigits digits = true) :
      IsNumeral digits digits (value digits)
  | plus {digits : List Char} (isNumber : isDigits digits = true) :
      IsNumeral ('+' :: digits) digits (value digits)
  | minus {digits : List Char} (isNumber : isDigits digits = true) :
      IsNumeral ('-' :: digits) digits (-(value digits : Int))

/-- A text denotes a letter if it is one capital, and a number if it is a numeral within the limit of
the digits whose value lies in the signed 32-bit range. -/
inductive Denotes : List Char → Box → Prop where
  | capital {character : Char} (first : 65 ≤ character.toNat) (last : character.toNat ≤ 90) :
      Denotes [character] (.letter ⟨character, first, last⟩)
  | numeral {text digits : List Char} {number : Int} (isNumeral : IsNumeral text digits number)
      (short : digits.length ≤ digitLimit) (atLeast : -2147483648 ≤ number)
      (atMost : number ≤ 2147483647) : Denotes text (.number ⟨number, atLeast, atMost⟩)

/-- A text that denotes no box is refused. The number of the digits is checked before the value. -/
inductive IsRefused : List Char → TokenError → Prop where
  | outOfRange {text digits : List Char} {number : Int} (isNumeral : IsNumeral text digits number)
      (short : digits.length ≤ digitLimit) (outside : number < -2147483648 ∨ 2147483647 < number) :
      IsRefused text (.outOfRange (String.ofList text) number)
  | tooLong {text digits : List Char} {number : Int} (isNumeral : IsNumeral text digits number)
      (long : digitLimit < digits.length) : IsRefused text (.tooLong ⟨digits.length⟩)
  | unrecognised {text : List Char} (noCapital : ∀ letter : Letter, text ≠ [letter.character])
      (noNumeral : ∀ digits number, ¬IsNumeral text digits number) :
      IsRefused text (.unrecognised (String.ofList text))

section Numerals

variable {text digits : List Char} {number : Int}

theorem IsNumeral.isDigits (isNumeral : IsNumeral text digits number) :
    Numeral.isDigits digits = true := by
  cases isNumeral <;> assumption

/-- Digits have no sign that could be split from them. -/
theorem splitSign_of_isDigits (isNumber : isDigits digits = true) :
    splitSign digits = (false, digits) := by
  obtain ⟨-, decimal⟩ := isDigits_iff.mp isNumber
  unfold splitSign
  split
  case h_1 => exact absurd (decimal '-' List.mem_cons_self) (by decide)
  case h_2 => exact absurd (decimal '+' List.mem_cons_self) (by decide)
  case h_3 => rfl

theorem IsNumeral.splitSign (isNumeral : IsNumeral text digits number) :
    ∃ negative : Bool, splitSign text = (negative, digits) ∧
      number = if negative then -(value digits : Int) else value digits := by
  cases isNumeral with
  | plain isNumber => exact ⟨false, splitSign_of_isDigits isNumber, rfl⟩
  | plus => exact ⟨false, rfl, rfl⟩
  | minus => exact ⟨true, rfl, rfl⟩

/-- A text whose sign leaves digits is a numeral. -/
theorem exists_isNumeral (isNumber : isDigits (splitSign text).2 = true) :
    ∃ digits number, IsNumeral text digits number := by
  unfold splitSign at isNumber
  split at isNumber
  · exact ⟨_, _, .minus isNumber⟩
  · exact ⟨_, _, .plus isNumber⟩
  · exact ⟨_, _, .plain isNumber⟩

/-- The digits of a numeral are counted, and then its value is compared with the range. -/
theorem IsNumeral.ofText (isNumeral : IsNumeral text digits number) :
    Number.ofText text =
      if digits.length ≤ digitLimit then
        match Number.ofInt? number with
        | some content => .ok content
        | none => .error (.outOfRange (String.ofList text) number)
      else .error (.tooLong ⟨digits.length⟩) := by
  obtain ⟨negative, split, rfl⟩ := isNumeral.splitSign
  simp only [Number.ofText, split, isNumeral.isDigits, Numeral.read, if_true]
  by_cases short : digits.length ≤ digitLimit
  · cases found : Number.ofInt? (if negative = true then -(value digits : Int) else value digits) <;>
      simp only [short, found, if_true]
  · simp only [short, if_false]

/-- A digit is no capital letter, and a sign with digits behind it is more than one character. -/
theorem IsNumeral.not_letter (isNumeral : IsNumeral text digits number) (letter : Letter) :
    text ≠ [letter.character] := by
  intro single
  have first := letter.atLeast
  have isNumber := isNumeral.isDigits
  cases isNumeral with
  | plain =>
      rw [single] at isNumber
      have inside := toNat_of_isDigit ((isDigits_iff.mp isNumber).2 _ List.mem_cons_self)
      omega
  | plus => rw [(List.cons.inj single).2] at isNumber; cases isNumber
  | minus => rw [(List.cons.inj single).2] at isNumber; cases isNumber

theorem Letter.ofText?_eq_some_iff {letter : Letter} :
    Letter.ofText? text = some letter ↔ text = [letter.character] := by
  unfold Letter.ofText?
  split
  · rw [Letter.ofChar?_eq_some_iff, List.singleton_inj, eq_comm]
  · rename_i other
    simp only [reduceCtorEq, false_iff]
    exact other _

theorem Letter.ofText?_eq_none_iff :
    Letter.ofText? text = none ↔ ∀ letter : Letter, text ≠ [letter.character] := by
  rw [Option.eq_none_iff_forall_ne_some]
  simp only [ne_eq, Letter.ofText?_eq_some_iff]

end Numerals

section Tokens

variable {token : String} {text : List Char} {box : Box} {error : TokenError}

/-- A token that is no letter is read as a number. -/
theorem Box.ofToken_of_not_letter (trimmed : Text.trim token.toList = text)
    (noCapital : ∀ letter : Letter, text ≠ [letter.character]) :
    Box.ofToken token = (Number.ofText text).map Box.number := by
  simp only [Box.ofToken, trimmed, Letter.ofText?_eq_none_iff.mpr noCapital]

theorem Denotes.ofToken (denotes : Denotes text box) (trimmed : Text.trim token.toList = text) :
    Box.ofToken token = .ok box := by
  cases denotes with
  | @capital character first last =>
      have found : Letter.ofText? [character] = some ⟨character, first, last⟩ :=
        Letter.ofText?_eq_some_iff.mpr rfl
      simp only [Box.ofToken, trimmed, found]
  | @numeral _ digits number isNumeral short atLeast atMost =>
      have inRange : Number.ofInt? number = some ⟨number, atLeast, atMost⟩ :=
        Number.ofInt?_eq_some_iff.mpr rfl
      rw [Box.ofToken_of_not_letter trimmed isNumeral.not_letter, isNumeral.ofText, if_pos short,
        inRange]
      rfl

theorem IsRefused.ofToken (refused : IsRefused text error)
    (trimmed : Text.trim token.toList = text) : Box.ofToken token = .error error := by
  cases refused with
  | outOfRange isNumeral short outside =>
      have missing := Number.ofInt?_eq_none_iff.mpr outside
      rw [Box.ofToken_of_not_letter trimmed isNumeral.not_letter, isNumeral.ofText, if_pos short,
        missing]
      rfl
  | tooLong isNumeral long =>
      rw [Box.ofToken_of_not_letter trimmed isNumeral.not_letter, isNumeral.ofText,
        if_neg (Nat.not_le_of_lt long)]
      rfl
  | unrecognised noCapital noNumeral =>
      have noDigits : isDigits (splitSign text).2 = false := by
        rw [Bool.eq_false_iff]
        intro isNumber
        obtain ⟨digits, number, isNumeral⟩ := exists_isNumeral isNumber
        exact noNumeral digits number isNumeral
      rw [Box.ofToken_of_not_letter trimmed noCapital]
      simp only [Number.ofText, noDigits, Bool.false_eq_true, if_false]
      rfl

/-- Every text denotes a box or is refused. -/
theorem denotes_or_isRefused (text : List Char) :
    (∃ box, Denotes text box) ∨ ∃ error, IsRefused text error := by
  by_cases isCapital : ∃ letter : Letter, text = [letter.character]
  · obtain ⟨letter, rfl⟩ := isCapital
    exact Or.inl ⟨_, .capital letter.atLeast letter.atMost⟩
  by_cases signed : ∃ digits number, IsNumeral text digits number
  · obtain ⟨digits, number, isNumeral⟩ := signed
    by_cases short : digits.length ≤ digitLimit
    · by_cases inRange : -2147483648 ≤ number ∧ number ≤ 2147483647
      · exact Or.inl ⟨_, .numeral isNumeral short inRange.1 inRange.2⟩
      · exact Or.inr ⟨_, .outOfRange isNumeral short (by omega)⟩
    · exact Or.inr ⟨_, .tooLong isNumeral (Nat.lt_of_not_le short)⟩
  · simp only [not_exists] at isCapital signed
    exact Or.inr ⟨_, .unrecognised isCapital signed⟩

/-- The grammar tells how a token is read. -/
theorem Box.isToldBy_ofToken (token : String) :
    IsToldBy (Box.ofToken token) (Denotes (Text.trim token.toList))
      (IsRefused (Text.trim token.toList)) where
  ok _ denotes := denotes.ofToken rfl
  error _ refused := refused.ofToken rfl
  total := denotes_or_isRefused _

theorem Box.ofToken_eq_ok_iff :
    Box.ofToken token = .ok box ↔ Denotes (Text.trim token.toList) box :=
  (Box.isToldBy_ofToken token).eq_ok_iff

theorem Box.ofToken_eq_error_iff :
    Box.ofToken token = .error error ↔ IsRefused (Text.trim token.toList) error :=
  (Box.isToldBy_ofToken token).eq_error_iff

end Tokens

/-- A text strays from the grammar if it is empty, a lone sign or begins with two signs, or if it has
a character that is no ASCII digit, no sign and no capital. -/
inductive IsStray : List Char → Prop where
  | empty : IsStray []
  | loneSign {sign : Char} (isSign : sign = '+' ∨ sign = '-') : IsStray [sign]
  | twoSigns {sign other : Char} {rest : List Char} (isSign : sign = '+' ∨ sign = '-')
      (another : other = '+' ∨ other = '-') : IsStray (sign :: other :: rest)
  | oddCharacter {text : List Char} {character : Char} (member : character ∈ text)
      (noDigit : character.isDigit = false) (noSign : character ≠ '+' ∧ character ≠ '-')
      (noCapital : character.toNat < 65 ∨ 90 < character.toNat) : IsStray text

theorem IsNumeral.isDigit_of_mem {text digits : List Char} {number : Int}
    (isNumeral : IsNumeral text digits number) {character : Char} (member : character ∈ text)
    (noSign : character ≠ '+' ∧ character ≠ '-') : character.isDigit = true := by
  have decimal := (isDigits_iff.mp isNumeral.isDigits).2
  cases isNumeral with
  | plain => exact decimal character member
  | plus => exact decimal character (List.mem_of_ne_of_mem noSign.1 member)
  | minus => exact decimal character (List.mem_of_ne_of_mem noSign.2 member)

/-- A compact text has a character and only plain ones and signs. -/
structure IsCompact (text : List Char) : Prop where
  nonempty : text ≠ []
  plain : ∀ character ∈ text, character ≠ '+' ∧ character ≠ '-' → Script.isPlain character = true

theorem IsCompact.isWord {text : List Char} (isCompact : IsCompact text) : Text.IsWord text := by
  refine ⟨isCompact.nonempty, fun character member => ?_⟩
  by_cases noSign : character ≠ '+' ∧ character ≠ '-'
  · exact Script.isBlank_of_isPlain (isCompact.plain character member noSign)
  · rcases not_and_or.mp noSign with plus | minus
    · rw [not_not.mp plus]
      decide
    · rw [not_not.mp minus]
      decide

theorem IsNumeral.isCompact {text digits : List Char} {number : Int}
    (isNumeral : IsNumeral text digits number) : IsCompact text where
  nonempty := by
    cases isNumeral with
    | plain isNumber => exact (isDigits_iff.mp isNumber).1
    | plus | minus => exact List.cons_ne_nil _ _
  plain := by
    intro character member noSign
    have inside := toNat_of_isDigit (isNumeral.isDigit_of_mem member noSign)
    simp only [Script.isPlain, Bool.or_eq_true, Bool.and_eq_true, decide_eq_true_eq]
    exact Or.inl inside

theorem Denotes.isCompact {text : List Char} {box : Box} (denotes : Denotes text box) :
    IsCompact text := by
  cases denotes with
  | capital first last =>
      refine ⟨List.cons_ne_nil _ _, List.forall_mem_singleton.mpr fun _ => ?_⟩
      simp only [Script.isPlain, Bool.or_eq_true, Bool.and_eq_true, decide_eq_true_eq]
      omega
  | numeral isNumeral => exact isNumeral.isCompact

theorem not_isNumeral_sign {sign : Char} (isSign : sign = '+' ∨ sign = '-') {rest : List Char}
    (noDigits : isDigits rest = false) (digits : List Char) (number : Int) :
    ¬IsNumeral (sign :: rest) digits number := by
  intro isNumeral
  cases isNumeral with
  | plain isNumber =>
      have isDigit := (isDigits_iff.mp isNumber).2 sign List.mem_cons_self
      rcases isSign with same | same <;> subst same <;> cases isDigit
  | plus isNumber => cases isNumber.symm.trans noDigits
  | minus isNumber => cases isNumber.symm.trans noDigits

/-- A stray text is not recognised. -/
theorem IsStray.isRefused {text : List Char} (stray : IsStray text) :
    IsRefused text (.unrecognised (String.ofList text)) := by
  cases stray with
  | empty =>
      refine .unrecognised (fun letter => by simp) ?_
      rintro digits number isNumeral
      cases isNumeral with
      | plain isNumber => cases isNumber
  | @loneSign sign isSign =>
      refine .unrecognised ?_ (not_isNumeral_sign isSign rfl)
      intro letter same
      have first := letter.atLeast
      rw [← List.singleton_inj.mp same] at first
      rcases isSign with same | same <;> subst same <;> exact absurd first (by decide)
  | @twoSigns sign other rest isSign another =>
      refine .unrecognised (fun letter => by simp) (not_isNumeral_sign isSign ?_)
      rcases another with same | same <;> subst same <;> rfl
  | @oddCharacter _ character member noDigit noSign noCapital =>
      refine .unrecognised ?_ ?_
      · rintro letter rfl
        have first := letter.atLeast
        have last := letter.atMost
        rw [← List.mem_singleton.mp member] at first last
        omega
      · intro digits number isNumeral
        rw [isNumeral.isDigit_of_mem member noSign] at noDigit
        cases noDigit

/-- A respelling of a written number has more zeros in front of its digits, a plus sign in front of a
number that is not negative, or a hyphen in front of zero. -/
inductive Respells : List Char → List Char → Prop where
  | same (written : List Char) : Respells written written
  | plain {digits : List Char} (isNumber : isDigits digits = true) (zeros : Nat) :
      Respells digits (List.replicate zeros '0' ++ digits)
  | plus {digits : List Char} (isNumber : isDigits digits = true) (zeros : Nat) :
      Respells digits ('+' :: (List.replicate zeros '0' ++ digits))
  | minus {digits : List Char} (isNumber : isDigits digits = true) (zeros : Nat) :
      Respells ('-' :: digits) ('-' :: (List.replicate zeros '0' ++ digits))
  | minusZero (zeros : Nat) : Respells ['0'] ('-' :: (List.replicate zeros '0' ++ ['0']))

/-- A numeral respells the written form of its value. -/
theorem IsNumeral.respells {text digits : List Char} {number : Int}
    (isNumeral : IsNumeral text digits number) : Respells (toString number).toList text := by
  obtain ⟨zeros, shape⟩ := exists_zeros isNumeral.isDigits
  have isNumber := isDigits_toDigits (value digits)
  have written (magnitude : Nat) :
      (toString (magnitude : Int)).toList = Nat.toDigits 10 magnitude := toList_toString magnitude
  cases isNumeral with
  | plain =>
      have respells := Respells.plain isNumber zeros
      rwa [← shape, ← written] at respells
  | plus =>
      have respells := Respells.plus isNumber zeros
      rwa [← shape, ← written] at respells
  | minus =>
      cases known : value digits with
      | zero =>
          rw [known, Nat.toDigits_zero] at shape
          rw [shape]
          exact .minusZero zeros
      | succ previous =>
          rw [known] at shape isNumber
          have hyphened : (toString (-((previous + 1 : Nat) : Int))).toList =
              '-' :: Nat.toDigits 10 (previous + 1) := by
            change ("-" ++ toString (previous + 1)).toList = _
            rw [String.toList_append, toList_toString]
            rfl
          rw [hyphened, shape]
          exact .minus isNumber zeros

/-- A text that denotes a box respells the text of the box. -/
theorem Denotes.respells {text : List Char} {box : Box} (denotes : Denotes text box) :
    Respells box.text.toList text := by
  cases denotes with
  | @capital character first last =>
      change Respells (String.singleton character).toList _
      rw [String.toList_singleton]
      exact .same _
  | numeral isNumeral => exact isNumeral.respells

end OfficeMachine
