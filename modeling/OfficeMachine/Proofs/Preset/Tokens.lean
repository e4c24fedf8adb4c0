/-
This file tells how the tokens of an inbox and of a floor are read. The tokens of a floor are paired
up, the first pair that is no tile is reported, and otherwise the table collects the pairs.
-/

import Mathlib.Data.List.Induction
import OfficeMachine.Preset
import OfficeMachine.Proofs.Box.Token
import OfficeMachine.Proofs.Table

namespace OfficeMachine.Preset

open Numeral

/-- The inbox has a box for each token, in the order of the tokens. -/
theorem inbox_eq_ok_iff {tokens : List String} {boxes : List Box} :
    inbox tokens = .ok boxes ↔
      List.Forall₂ (fun token box => Denotes (Text.trim token.toList) box) tokens boxes := by
  rw [inbox, mapM_eq_ok_iff]
  simp only [mapError_eq_ok_iff, Box.ofToken_eq_ok_iff]

/-- The inbox is refused for the first token that is. -/
theorem inbox_eq_error_iff {tokens : List String} {error : Error} :
    inbox tokens = .error error ↔
      ∃ (index : Nat) (token : String) (reason : TokenError), tokens[index]? = some token ∧
        IsRefused (Text.trim token.toList) reason ∧ error = .badInput reason ∧
        ∀ earlier ∈ tokens.take index, ∃ box, Denotes (Text.trim earlier.toList) box := by
  have first : (tokens.filterMap some).mapM
      (fun token => (Box.ofToken token).mapError Error.badInput) = .error error ↔ _ :=
    mapM_filterMap_eq_error_iff some _
  rw [List.filterMap_some] at first
  rw [inbox, first]
  simp only [mapError_eq_error_iff, mapError_eq_ok_iff, Box.ofToken_eq_ok_iff,
    Box.ofToken_eq_error_iff, Option.some.injEq, forall_eq']
  constructor
  · rintro ⟨index, token, part, here, same, ⟨reason, refused, told⟩, fine⟩
    subst same
    exact ⟨index, token, reason, here, refused, told.symm, fine⟩
  · rintro ⟨index, token, reason, here, refused, same, fine⟩
    exact ⟨index, token, token, here, rfl, ⟨reason, refused, same.symm⟩, fine⟩

/-- An address is a run of ASCII digits within the limit. -/
structure IsAddress (text : List Char) : Prop where
  isNumber : isDigits text = true
  short : text.length ≤ digitLimit

/-- Two tokens make a tile if the first one is an address and the second one denotes a box. -/
inductive IsTile (addressToken boxToken : String) : Nat × Box → Prop where
  | intro {box : Box} (address : IsAddress (Text.trim addressToken.toList))
      (denotes : Denotes (Text.trim boxToken.toList) box) :
      IsTile addressToken boxToken (value (Text.trim addressToken.toList), box)

/-- The first token is refused if it has other characters than digits, and only after the second one
for the number of its digits. -/
inductive IsTileRefused (addressToken boxToken : String) : Error → Prop where
  | badAddress (noDigits : isDigits (Text.trim addressToken.toList) = false) :
      IsTileRefused addressToken boxToken
        (.badAddress (String.ofList (Text.trim addressToken.toList)))
  | badBox {reason : TokenError} (isNumber : isDigits (Text.trim addressToken.toList) = true)
      (refused : IsRefused (Text.trim boxToken.toList) reason) :
      IsTileRefused addressToken boxToken
        (.badTile (String.ofList (Text.trim addressToken.toList)) reason)
  | longAddress {box : Box} (isNumber : isDigits (Text.trim addressToken.toList) = true)
      (denotes : Denotes (Text.trim boxToken.toList) box)
      (long : digitLimit < (Text.trim addressToken.toList).length) :
      IsTileRefused addressToken boxToken
        (.badTile (String.ofList (Text.trim addressToken.toList))
          (.tooLong ⟨(Text.trim addressToken.toList).length⟩))

/-- The rules tell how two tokens are read as a tile. -/
theorem isToldBy_tile (addressToken boxToken : String) :
    IsToldBy (tile addressToken boxToken) (IsTile addressToken boxToken)
      (IsTileRefused addressToken boxToken) where
  ok := by
    rintro pair ⟨address, denotes⟩
    simp only [tile, address.isNumber, denotes.ofToken rfl, Numeral.read, address.short, if_true]
  error := by
    intro error refused
    cases refused with
    | badAddress noDigits => simp only [tile, noDigits, Bool.false_eq_true, if_false]
    | badBox isNumber refused => simp only [tile, isNumber, refused.ofToken rfl, if_true]
    | longAddress isNumber denotes long =>
        simp only [tile, isNumber, denotes.ofToken rfl, Numeral.read, if_true,
          if_neg (Nat.not_le_of_lt long)]
  total := by
    cases isNumber : isDigits (Text.trim addressToken.toList) with
    | false => exact Or.inr ⟨_, .badAddress isNumber⟩
    | true =>
        rcases denotes_or_isRefused (Text.trim boxToken.toList) with
          ⟨box, denotes⟩ | ⟨reason, refused⟩
        · by_cases short : (Text.trim addressToken.toList).length ≤ digitLimit
          · exact Or.inl ⟨_, ⟨isNumber, short⟩, denotes⟩
          · exact Or.inr ⟨_, .longAddress isNumber denotes (Nat.lt_of_not_le short)⟩
        · exact Or.inr ⟨_, .badBox isNumber refused⟩

/-- Tokens pair up if each two of them make a tile. -/
inductive PairsUp : List String → List (Nat × Box) → Prop where
  | nil : PairsUp [] []
  | cons {addressToken boxToken : String} {rest : List String} {pair : Nat × Box}
      {pairs : List (Nat × Box)} (isTile : IsTile addressToken boxToken pair)
      (others : PairsUp rest pairs) : PairsUp (addressToken :: boxToken :: rest) (pair :: pairs)

/-- Tokens stop at the first pair that is refused. -/
inductive StopsAt : List String → Error → Prop where
  | pair {front rest : List String} {pairs : List (Nat × Box)} {addressToken boxToken : String}
      {error : Error} (fine : PairsUp front pairs)
      (refused : IsTileRefused addressToken boxToken error) :
      StopsAt (front ++ addressToken :: boxToken :: rest) error

section Pairs

variable {tokens rest : List String} {pairs : List (Nat × Box)} {table : Table Nat Box}

theorem PairsUp.even (pairsUp : PairsUp tokens pairs) : tokens.length % 2 = 0 := by
  induction pairsUp with
  | nil => rfl
  | cons _ _ inductionHypothesis =>
      rw [List.length_cons, List.length_cons]
      omega

/-- Tokens that pair up are put one pair after another. -/
theorem PairsUp.putTiles (pairsUp : PairsUp tokens pairs) (rest : List String) :
    putTiles table (tokens ++ rest) =
      Preset.putTiles (pairs.foldl (fun table pair => table.put pair.1 pair.2) table) rest := by
  induction pairsUp generalizing table with
  | nil => rfl
  | @cons addressToken boxToken _ pair _ isTile _ inductionHypothesis =>
      rw [List.cons_append, List.cons_append, Preset.putTiles,
        (isToldBy_tile addressToken boxToken).ok pair isTile]
      exact inductionHypothesis

theorem putTiles_of_isTileRefused {addressToken boxToken : String} {error : Error}
    (refused : IsTileRefused addressToken boxToken error) :
    putTiles table (addressToken :: boxToken :: rest) = .error error := by
  rw [putTiles, (isToldBy_tile addressToken boxToken).error error refused]
  rfl

/-- An even number of tokens pairs up or stops. -/
theorem pairsUp_or_stopsAt (even : tokens.length % 2 = 0) :
    (∃ pairs, PairsUp tokens pairs) ∨ ∃ error, StopsAt tokens error := by
  induction tokens using List.twoStepInduction with
  | nil => exact Or.inl ⟨[], .nil⟩
  | singleton token => cases even
  | cons_cons addressToken boxToken rest inductionHypothesis _ =>
      rcases (isToldBy_tile addressToken boxToken).total with ⟨pair, isTile⟩ | ⟨error, refused⟩
      · have evenRest : rest.length % 2 = 0 := by
          rw [List.length_cons, List.length_cons] at even
          omega
        rcases inductionHypothesis evenRest with ⟨pairs, others⟩ | ⟨error, stops⟩
        · exact Or.inl ⟨pair :: pairs, .cons isTile others⟩
        · cases stops with
          | pair fine refused => exact Or.inr ⟨error, .pair (.cons isTile fine) refused⟩
      · exact Or.inr ⟨error, .pair .nil refused⟩

end Pairs

/-- The tokens of a floor are refused if they are odd in number, and else where they stop. -/
inductive AreRefused (tokens : List String) : Error → Prop where
  | oddCount (odd : tokens.length % 2 = 1) : AreRefused tokens (.oddCount tokens.length)
  | stops {error : Error} (even : tokens.length % 2 = 0) (stops : StopsAt tokens error) :
      AreRefused tokens error

/-- The rules tell how the tokens of a floor are read. The table collects the pairs. -/
theorem isToldBy_tiles (tokens : List String) :
    IsToldBy (tiles tokens) (fun table => ∃ pairs, PairsUp tokens pairs ∧ table.Collects pairs)
      (AreRefused tokens) where
  ok := by
    rintro table ⟨pairs, pairsUp, collects⟩
    have put : putTiles Table.empty (tokens ++ []) = _ := pairsUp.putTiles []
    rw [List.append_nil] at put
    rw [tiles, if_pos pairsUp.even, put, collects.unique (Table.collects_ofList pairs)]
    rfl
  error := by
    intro error refused
    cases refused with
    | oddCount odd => rw [tiles, if_neg (by omega)]
    | stops even stops =>
        cases stops with
        | pair fine refused =>
            rw [tiles, if_pos even, fine.putTiles, putTiles_of_isTileRefused refused]
  total := by
    by_cases even : tokens.length % 2 = 0
    · rcases pairsUp_or_stopsAt even with ⟨pairs, pairsUp⟩ | ⟨error, stops⟩
      · exact Or.inl ⟨_, pairs, pairsUp, Table.collects_ofList pairs⟩
      · exact Or.inr ⟨error, .stops even stops⟩
    · exact Or.inr ⟨_, .oddCount (by omega)⟩

theorem tiles_eq_ok_iff {tokens : List String} {table : Table Nat Box} :
    tiles tokens = .ok table ↔ ∃ pairs, PairsUp tokens pairs ∧ table.Collects pairs :=
  (isToldBy_tiles tokens).eq_ok_iff

theorem tiles_eq_error_iff {tokens : List String} {error : Error} :
    tiles tokens = .error error ↔ AreRefused tokens error :=
  (isToldBy_tiles tokens).eq_error_iff

/-- Tokens pair up exactly if they are even in number, with addresses at the even places and boxes at
the odd ones. -/
theorem exists_pairsUp_iff {tokens : List String} :
    (∃ pairs, PairsUp tokens pairs) ↔
      tokens.length % 2 = 0 ∧
        (∀ (index : Nat) (token : String), tokens[2 * index]? = some token →
          IsAddress (Text.trim token.toList)) ∧
        ∀ (index : Nat) (token : String), tokens[2 * index + 1]? = some token →
          ∃ box, Denotes (Text.trim token.toList) box := by
  induction tokens using List.twoStepInduction with
  | nil => simpa using ⟨[], PairsUp.nil⟩
  | singleton token =>
      constructor
      · rintro ⟨pairs, pairsUp⟩
        cases pairsUp.even
      · rintro ⟨even, -⟩
        cases even
  | cons_cons addressToken boxToken rest inductionHypothesis _ =>
      constructor
      · rintro ⟨_, _ | ⟨⟨address, denotes⟩, others⟩⟩
        obtain ⟨even, addresses, boxes⟩ := inductionHypothesis.mp ⟨_, others⟩
        refine ⟨by rw [List.length_cons, List.length_cons]; omega, ?_, ?_⟩
        · intro index token here
          cases index with
          | zero => rwa [← Option.some.inj here]
          | succ index => exact addresses index token here
        · intro index token here
          cases index with
          | zero =>
              rw [← Option.some.inj here]
              exact ⟨_, denotes⟩
          | succ index => exact boxes index token here
      · rintro ⟨even, addresses, boxes⟩
        rw [List.length_cons, List.length_cons] at even
        obtain ⟨box, denotes⟩ := boxes 0 boxToken rfl
        obtain ⟨pairs, others⟩ := inductionHypothesis.mpr ⟨by omega,
          fun index => addresses (index + 1), fun index => boxes (index + 1)⟩
        exact ⟨_, .cons ⟨addresses 0 addressToken rfl, denotes⟩ others⟩

/-- Tokens are read exactly by the grammar of boxes, and the inbox by its tokens. An accepted token
respells the text of its box, and a stray one is not recognised. -/
theorem tokens_are_read_exactly :
    (∀ token box, Box.ofToken token = .ok box ↔ Denotes (Text.trim token.toList) box) ∧
    (∀ token error, Box.ofToken token = .error error ↔
      IsRefused (Text.trim token.toList) error) ∧
    (∀ token box, Box.ofToken token = .ok box →
      Respells box.text.toList (Text.trim token.toList)) ∧
    (∀ token, IsStray (Text.trim token.toList) →
      Box.ofToken token = .error (.unrecognised (String.ofList (Text.trim token.toList)))) ∧
    (∀ tokens boxes, inbox tokens = .ok boxes ↔
      List.Forall₂ (fun token box => Denotes (Text.trim token.toList) box) tokens boxes) ∧
    ∀ tokens error, inbox tokens = .error error ↔
      ∃ (index : Nat) (token : String) (reason : TokenError), tokens[index]? = some token ∧
        IsRefused (Text.trim token.toList) reason ∧ error = .badInput reason ∧
        ∀ earlier ∈ tokens.take index, ∃ box, Denotes (Text.trim earlier.toList) box := by
  refine ⟨fun _ _ => Box.ofToken_eq_ok_iff, fun _ _ => Box.ofToken_eq_error_iff, ?_, ?_,
    fun _ _ => inbox_eq_ok_iff, fun _ _ => inbox_eq_error_iff⟩
  · intro token box read
    exact (Box.ofToken_eq_ok_iff.mp read).respells
  · intro token stray
    exact Box.ofToken_eq_error_iff.mpr stray.isRefused

/-- A padded token is read as its number, and a token with an underscore is not. -/
theorem tokens_are_read_exactly_padded :
    Box.ofToken " +007\n" = .ok (.number ⟨7, by decide, by decide⟩) ∧
      Respells ['7'] ['+', '0', '0', '7'] ∧ IsStray ['4', '_', '2'] ∧
      Box.ofToken "4_2" = .error (.unrecognised "4_2") := by
  obtain ⟨-, -, respells, unrecognised, -⟩ := tokens_are_read_exactly
  have read : Box.ofToken " +007\n" = .ok (.number ⟨7, by decide, by decide⟩) := by
    decide +kernel
  have stray : IsStray (Text.trim "4_2".toList) :=
    .oddCharacter (show '_' ∈ _ by decide) (by decide) (by decide) (by decide)
  exact ⟨read, respells _ _ read, stray, unrecognised "4_2" stray⟩

end OfficeMachine.Preset
