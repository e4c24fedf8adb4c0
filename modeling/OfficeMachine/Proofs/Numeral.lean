/-
This file reads written numbers back. A number is written in plain digits, with a hyphen in front if
it is negative, and the text of a count is read as the count.
-/

import Mathlib.Data.Option.Basic
import OfficeMachine.Numeral.Count
import OfficeMachine.Proofs.Script.Grammar

namespace OfficeMachine.Numeral

/-- The digits of a number have the text of the number. -/
theorem toList_toString (number : Nat) : (toString number).toList = Nat.toDigits 10 number := by
  rw [Nat.toString_eq_ofList_toDigits, String.toList_ofList]

/-- An integer is written as the digits of its magnitude, with a hyphen if it is negative. -/
theorem exists_magnitude (value : Int) :
    ∃ magnitude : Nat,
      (value = magnitude ∧ (toString value).toList = Nat.toDigits 10 magnitude) ∨
      (value = -(magnitude : Int) ∧ (toString value).toList = '-' :: Nat.toDigits 10 magnitude) := by
  cases value with
  | ofNat magnitude => exact ⟨magnitude, Or.inl ⟨rfl, toList_toString magnitude⟩⟩
  | negSucc magnitude =>
      refine ⟨magnitude + 1, Or.inr ⟨rfl, ?_⟩⟩
      change ("-" ++ toString (magnitude + 1)).toList = _
      rw [String.toList_append, toList_toString]
      rfl

section Digits

variable {character : Char} {digits : List Char}

theorem toNat_of_isDigit (isDigit : character.isDigit = true) :
    48 ≤ character.toNat ∧ character.toNat ≤ 57 := by
  simpa [Char.isDigit, UInt32.le_iff_toNat_le] using isDigit

theorem digitChar_of_isDigit (isDigit : character.isDigit = true) :
    Nat.digitChar (character.toNat - 48) = character := by
  have inside := toNat_of_isDigit isDigit
  apply Char.toNat_inj.mp
  rw [Nat.toNat_digitChar_of_lt_ten (by omega)]
  omega

/-- A plain digit has the value that its place in the alphabet gives. -/
theorem digitValue?_of_isDigit (isDigit : character.isDigit = true) :
    digitValue? character = some (character.toNat - 48) := by
  have inside := toNat_of_isDigit isDigit
  have known := digitValue?_digitChar (character.toNat - 48) (by omega)
  rwa [digitChar_of_isDigit isDigit] at known

theorem isPadding_of_isDigit (isDigit : character.isDigit = true) :
    isPadding character = false := by
  have inside := toNat_of_isDigit isDigit
  have plain : Script.isPlain character = true := by
    simp [Script.isPlain]
    omega
  rw [isPadding, Script.isBlank_of_isPlain plain, Bool.false_and]

theorem ne_of_isDigit (isDigit : character.isDigit = true) {other : Char}
    (noDigit : other.isDigit = false) : character ≠ other := by
  rintro rfl
  rw [isDigit] at noDigit
  cases noDigit

theorem isDigits_iff : isDigits digits = true ↔
    digits ≠ [] ∧ ∀ digit ∈ digits, digit.isDigit = true := by
  simp [isDigits]

/-- Plain digits are read one by one. -/
theorem groupedDigits?_of_isDigits (isNumber : isDigits digits = true) :
    groupedDigits? digits = some (digits.map fun digit => digit.toNat - 48) := by
  obtain ⟨nonempty, decimal⟩ := isDigits_iff.mp isNumber
  clear isNumber
  induction digits with
  | nil => exact absurd rfl nonempty
  | cons first rest inductionHypothesis =>
      have here := digitValue?_of_isDigit (decimal first List.mem_cons_self)
      have later : ∀ digit ∈ rest, digit.isDigit = true :=
        fun digit member => decimal digit (List.mem_cons_of_mem first member)
      cases rest with
      | nil => rw [groupedDigits?, here]; rfl
      | cons second others =>
          have plain : second ≠ '_' := ne_of_isDigit (later second List.mem_cons_self) (by decide)
          have tail := inductionHypothesis (List.cons_ne_nil _ _) later
          rw [groupedDigits?, here, tail]
          · rfl
          · simp
          · intro tail same
            exact plain (List.cons.inj same).1

theorem ofDigitValues_map (digits : List Char) :
    ofDigitValues (digits.map fun digit => digit.toNat - 48) = value digits := by
  rw [ofDigitValues, List.foldl_map]
  rfl

theorem dropWhile_isPadding (decimal : ∀ digit ∈ digits, digit.isDigit = true) :
    digits.dropWhile isPadding = digits := by
  cases digits with
  | nil => rfl
  | cons first rest =>
      rw [List.dropWhile_cons_of_neg]
      rw [isPadding_of_isDigit (decimal first List.mem_cons_self)]
      decide

/-- A run of plain digits within the limit is read as its value. -/
theorem integer?_of_isDigits {text : String} (isNumber : isDigits text.toList = true)
    (short : text.toList.length ≤ digitLimit) : integer? text = some (value text.toList : Int) := by
  obtain ⟨nonempty, decimal⟩ := isDigits_iff.mp isNumber
  have reversed : ∀ digit ∈ text.toList.reverse, digit.isDigit = true :=
    fun digit member => decimal digit (List.mem_reverse.mp member)
  have body : (((text.toList.dropWhile isPadding).reverse).dropWhile isPadding).reverse =
      text.toList := by
    rw [dropWhile_isPadding decimal, dropWhile_isPadding reversed, List.reverse_reverse]
  unfold integer?
  simp only [body]
  obtain ⟨first, rest, shape⟩ := List.exists_cons_of_ne_nil nonempty
  have isDigit : first.isDigit = true := decimal first (by rw [shape]; exact List.mem_cons_self)
  have unsigned : first ≠ '-' ∧ first ≠ '+' :=
    ⟨ne_of_isDigit isDigit (by decide), ne_of_isDigit isDigit (by decide)⟩
  have grouped := groupedDigits?_of_isDigits isNumber
  rw [shape] at grouped short ⊢
  split
  case h_1 signed =>
      exact absurd (List.cons.inj signed).1 unsigned.1
  case h_2 signed =>
      exact absurd (List.cons.inj signed).1 unsigned.2
  case h_3 =>
      generalize values : (first :: rest).map (fun digit => digit.toNat - 48) = digits at grouped
      have fits : digits.length ≤ digitLimit := by
        rwa [← values, List.length_map]
      have passes : (guard (digits.length ≤ digitLimit) : Option Unit) = some () := if_pos fits
      rw [grouped, ← ofDigitValues_map, values]
      change ((guard (digits.length ≤ digitLimit) : Option Unit) >>= _) = _
      rw [passes]
      rfl

/-- Digits behind the digits of a positive number write the number that they make together. -/
theorem toDigits_append (decimal : ∀ digit ∈ digits, digit.isDigit = true) {number : Nat}
    (positive : 0 < number) :
    Nat.toDigits 10 number ++ digits = Nat.toDigits 10 (Nat.ofDigitChars 10 digits number) := by
  induction digits generalizing number with
  | nil => rw [List.append_nil, Nat.ofDigitChars_nil]
  | cons first rest inductionHypothesis =>
      obtain ⟨isDigit, others⟩ := List.forall_mem_cons.mp decimal
      have inside := toNat_of_isDigit isDigit
      have one : Nat.toDigits 10 (first.toNat - 48) = [first] := by
        rw [Nat.toDigits_of_lt_base (by omega), digitChar_of_isDigit isDigit]
      calc
        Nat.toDigits 10 number ++ first :: rest
            = Nat.toDigits 10 number ++ Nat.toDigits 10 (first.toNat - 48) ++ rest := by
          rw [one, List.append_assoc, List.singleton_append]
        _ = Nat.toDigits 10 (10 * number + (first.toNat - 48)) ++ rest := by
          rw [Nat.toDigits_append_toDigits (by decide) positive (by omega)]
        _ = Nat.toDigits 10 (Nat.ofDigitChars 10 (first :: rest) number) := by
          rw [inductionHypothesis others (by omega), Nat.ofDigitChars_cons]
          rfl

/-- A run of digits is the written form of its value behind some zeros. -/
theorem exists_zeros (isNumber : isDigits digits = true) :
    ∃ zeros, digits = List.replicate zeros '0' ++ Nat.toDigits 10 (value digits) := by
  obtain ⟨nonempty, decimal⟩ := isDigits_iff.mp isNumber
  clear isNumber
  induction digits with
  | nil => exact absurd rfl nonempty
  | cons first rest inductionHypothesis =>
      obtain ⟨isDigit, others⟩ := List.forall_mem_cons.mp decimal
      have inside := toNat_of_isDigit isDigit
      have start : value (first :: rest) = Nat.ofDigitChars 10 rest (first.toNat - 48) := by
        rw [value, Nat.ofDigitChars_cons, Nat.mul_zero, Nat.zero_add]
        rfl
      by_cases isZero : first = '0'
      · subst isZero
        cases rest with
        | nil => exact ⟨0, rfl⟩
        | cons second rest =>
            obtain ⟨zeros, same⟩ := inductionHypothesis (List.cons_ne_nil _ _) others
            refine ⟨zeros + 1, ?_⟩
            rw [start, List.replicate_succ, List.cons_append]
            exact congrArg _ same
      · have positive : 0 < first.toNat - 48 := by
          have different : first.toNat ≠ 48 := fun same => isZero (Char.toNat_inj.mp same)
          omega
        refine ⟨0, ?_⟩
        rw [start, ← toDigits_append others positive, Nat.toDigits_of_lt_base (by omega),
          digitChar_of_isDigit isDigit]
        rfl

end Digits

/-- A writable number is counted as itself. -/
theorem count_toString {number : Nat} (small : number < Nat.pow 10 digitLimit) :
    count (toString number) = .ok number := by
  have isNumber : isDigits (toString number).toList = true := by
    rw [toList_toString]
    exact isDigits_toDigits number
  have short : (toString number).toList.length ≤ digitLimit := by
    rw [toList_toString]
    exact length_toDigits_le (by decide) small
  rw [count, integer?_of_isDigits isNumber short, toList_toString, value_toDigits]

end OfficeMachine.Numeral
