/-
This file makes boxes of contents that come from outside. Only whole numbers in range and single
capitals fit into a box, and the refusal shows what was offered.
-/

import OfficeMachine.Box.Token

namespace OfficeMachine

/-- An offer is any datum that somebody may want to put into a box. Any datum that is neither a whole
number nor a text is known by the form in which it is shown. -/
inductive Offer where
  | whole (value : Int)
  | text (value : String)
  | other (shown : String)
  deriving DecidableEq

/-- A number with too many digits cannot be shown. -/
def Offer.shown? : Offer → Option String
  | .whole value => if Numeral.isWritable value then some (toString value) else none
  | .text value => some (Text.quoted value)
  | .other shown => some shown

inductive OfferError where
  | outOfRange (value : Int)
  | notAnInteger (shown : String)
  | notALetter (shown : String)
  | unwritable
  deriving DecidableEq

def OfferError.message : OfferError → String
  | .outOfRange value => Number.outsideMessage value
  | .notAnInteger shown => s!"Integer needs an int, got {shown}"
  | .notALetter shown => s!"Letter needs one of A-Z, got {shown}"
  | .unwritable => Numeral.unwritableMessage

/-- A refusal shows the offer if it can. -/
def Offer.refuse (offer : Offer) (reason : String → OfferError) : OfferError :=
  match offer.shown? with
  | some shown => reason shown
  | none => .unwritable

/-- A number is made of a whole number, and its range is checked last. -/
def Number.ofOffer (offer : Offer) : Except OfferError Number :=
  match offer with
  | .whole value =>
      match Number.ofInt? value with
      | some number => .ok number
      | none => .error (offer.refuse fun _ => .outOfRange value)
  | _ => .error (offer.refuse .notAnInteger)

/-- A letter is made of a text that is one capital. -/
def Letter.ofOffer (offer : Offer) : Except OfferError Letter :=
  match offer with
  | .text value =>
      match Letter.ofText? value.toList with
      | some letter => .ok letter
      | none => .error (offer.refuse .notALetter)
  | _ => .error (offer.refuse .notALetter)

end OfficeMachine
