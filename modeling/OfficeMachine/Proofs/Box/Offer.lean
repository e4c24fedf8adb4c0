/-
This file tells which offers fit into a box. Each kind of box takes exactly its own contents, every
refusal has its reason, and no offer fits both kinds.
-/

import OfficeMachine.Box.Offer
import OfficeMachine.Proofs.Box.Arithmetic
import OfficeMachine.Proofs.Box.Token

namespace OfficeMachine

/-- The content of a box is a whole number or a text of one capital. -/
def Box.content : Box → Offer
  | .number content => .whole content.value
  | .letter content => .text content.text

/-- An offer that is no number is refused for its range if it is whole, and for its kind if not. A
whole number with too many digits lies out of range, and it cannot even be shown. -/
inductive Number.IsRefused : Offer → OfferError → Prop where
  | outOfRange {value : Int} (outside : value < Number.least ∨ Number.greatest < value)
      (short : Numeral.isWritable value = true) :
      IsRefused (.whole value) (.outOfRange value)
  | unwritable {value : Int} (overlong : Numeral.isWritable value = false) :
      IsRefused (.whole value) .unwritable
  | text (value : String) : IsRefused (.text value) (.notAnInteger (Text.quoted value))
  | other (shown : String) : IsRefused (.other shown) (.notAnInteger shown)

/-- An offer that is no letter is refused in the same words whatever its kind. -/
inductive Letter.IsRefused : Offer → OfferError → Prop where
  | text {value : String} (noCapital : ∀ letter : Letter, value ≠ letter.text) :
      IsRefused (.text value) (.notALetter (Text.quoted value))
  | whole {value : Int} (short : Numeral.isWritable value = true) :
      IsRefused (.whole value) (.notALetter (toString value))
  | unwritable {value : Int} (overlong : Numeral.isWritable value = false) :
      IsRefused (.whole value) .unwritable
  | other (shown : String) : IsRefused (.other shown) (.notALetter shown)

section Offers

variable {offer : Offer} {value : Int} {number : Number} {letter : Letter}

theorem Offer.refuse_whole (short : Numeral.isWritable value = true)
    (reason : String → OfferError) :
    (Offer.whole value).refuse reason = reason (toString value) := by
  simp only [refuse, shown?, short, if_true]

theorem Offer.refuse_overlong (overlong : Numeral.isWritable value = false)
    (reason : String → OfferError) : (Offer.whole value).refuse reason = .unwritable := by
  simp only [refuse, shown?, overlong, Bool.false_eq_true, if_false]

/-- A number that cannot be shown is out of range. -/
theorem Number.ofInt?_of_overlong (overlong : Numeral.isWritable value = false) :
    Number.ofInt? value = none := by
  cases found : Number.ofInt? value with
  | none => rfl
  | some number =>
      have short := number.isWritable_value
      rw [Number.ofInt?_eq_some_iff.mp found, overlong] at short
      cases short

/-- The rules tell which offers are numbers. -/
theorem Number.isToldBy_ofOffer (offer : Offer) :
    IsToldBy (Number.ofOffer offer) (fun number => offer = (Box.number number).content)
      (Number.IsRefused offer) where
  ok := by
    intro number same
    rw [same]
    simp only [Number.ofOffer, Box.content, Number.ofInt?_value]
  error := by
    intro error refused
    cases refused with
    | outOfRange outside short =>
        simp only [Number.ofOffer, Number.ofInt?_eq_none_iff.mpr outside,
          Offer.refuse_whole short]
    | unwritable overlong =>
        simp only [Number.ofOffer, Number.ofInt?_of_overlong overlong,
          Offer.refuse_overlong overlong]
    | text value => rfl
    | other shown => rfl
  total := by
    cases offer with
    | whole value =>
        cases found : Number.ofInt? value with
        | some number =>
            rw [← Number.ofInt?_eq_some_iff.mp found]
            exact Or.inl ⟨number, rfl⟩
        | none =>
            cases writable : Numeral.isWritable value with
            | true =>
                exact Or.inr ⟨_, .outOfRange (Number.ofInt?_eq_none_iff.mp found) writable⟩
            | false => exact Or.inr ⟨_, .unwritable writable⟩
    | text value => exact Or.inr ⟨_, .text value⟩
    | other shown => exact Or.inr ⟨_, .other shown⟩

theorem Letter.toList_eq_iff {text : String} :
    text.toList = [letter.character] ↔ text = letter.text := by
  rw [← String.toList_inj, Letter.text, String.toList_singleton]

/-- The rules tell which offers are letters. -/
theorem Letter.isToldBy_ofOffer (offer : Offer) :
    IsToldBy (Letter.ofOffer offer) (fun letter => offer = (Box.letter letter).content)
      (Letter.IsRefused offer) where
  ok := by
    intro letter same
    have found : Letter.ofText? letter.text.toList = some letter :=
      Letter.ofText?_eq_some_iff.mpr (Letter.toList_eq_iff.mpr rfl)
    rw [same]
    simp only [Letter.ofOffer, Box.content, found]
  error := by
    intro error refused
    cases refused with
    | text noCapital =>
        have missing := Letter.ofText?_eq_none_iff.mpr fun letter same =>
          noCapital letter (Letter.toList_eq_iff.mp same)
        simp only [Letter.ofOffer, missing]
        rfl
    | whole short => simp only [Letter.ofOffer, Offer.refuse_whole short]
    | unwritable overlong => simp only [Letter.ofOffer, Offer.refuse_overlong overlong]
    | other shown => rfl
  total := by
    cases offer with
    | whole value =>
        cases writable : Numeral.isWritable value with
        | true => exact Or.inr ⟨_, .whole writable⟩
        | false => exact Or.inr ⟨_, .unwritable writable⟩
    | text value =>
        by_cases isCapital : ∃ letter : Letter, value = letter.text
        · obtain ⟨letter, same⟩ := isCapital
          exact Or.inl ⟨letter, congrArg Offer.text same⟩
        · rw [not_exists] at isCapital
          exact Or.inr ⟨_, .text isCapital⟩
    | other shown => exact Or.inr ⟨_, .other shown⟩

theorem Number.ofOffer_eq_ok_iff :
    Number.ofOffer offer = .ok number ↔ offer = (Box.number number).content :=
  (Number.isToldBy_ofOffer offer).eq_ok_iff

theorem Letter.ofOffer_eq_ok_iff :
    Letter.ofOffer offer = .ok letter ↔ offer = (Box.letter letter).content :=
  (Letter.isToldBy_ofOffer offer).eq_ok_iff

/-- The two kinds of boxes share no content. -/
theorem Box.not_both_fit :
    ¬(Number.ofOffer offer = .ok number ∧ Letter.ofOffer offer = .ok letter) := by
  rw [Number.ofOffer_eq_ok_iff, Letter.ofOffer_eq_ok_iff]
  rintro ⟨whole, text⟩
  cases whole.symm.trans text

end Offers

end OfficeMachine
