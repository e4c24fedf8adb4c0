/-
This file reads a command line that was put together from a script and orders. The switches are
recognised by their spellings, and everything behind them up to the next switch belongs to them.
-/

import OfficeMachine.Box
import OfficeMachine.CommandLine.Settings
import OfficeMachine.Proofs.Numeral
import OfficeMachine.Proofs.Outcome

namespace OfficeMachine.CommandLine

/-- The spelling of a switch is its first one. -/
def Switch.spelling (switch : Switch) : String := switch.spellings.headD ""

def Switch.isShort (switch : Switch) : Bool := !(['-', '-'].isPrefixOf switch.spelling.toList)

/-- The texts of an order are the spelling of its switch and its arguments. -/
def Order.texts (order : Order) : List String := order.switch.spelling :: order.arguments

def Order.words (order : Order) : List Word :=
  .use order.switch order.switch.isShort none :: order.arguments.map .value

/-- A text is for a word if it is not the separator and is sorted as the word. -/
structure IsFor (text : String) (word : Word) : Prop where
  noSeparator : text ≠ "--"
  sorted : Word.ofText text = .ok word

/-- A text is a value if it is sorted as itself. -/
def IsValue (text : String) : Prop := IsFor text (.value text)

/-- An order is complete if its arguments are values and as many as the switch takes. -/
structure Order.IsComplete (order : Order) : Prop where
  values : ∀ text ∈ order.arguments, IsValue text
  arity : match order.switch.arity with
    | .none => order.arguments = []
    | .one => ∃ text, order.arguments = [text]
    | .several => order.arguments ≠ []

section Words

/-- The spelling of a switch is the word that uses it. -/
theorem isFor_spelling (switch : Switch) :
    IsFor switch.spelling (.use switch switch.isShort none) := by
  cases switch <;> exact ⟨by decide, by decide⟩

theorem isValue_of_noHyphen {text : String} (plain : text.toList.head? ≠ some '-') :
    IsValue text := by
  constructor
  · rintro rfl
    exact plain rfl
  · unfold Word.ofText
    split
    · rename_i shape
      rw [shape] at plain
      exact absurd rfl plain
    · rfl

/-- No switch is spelled with a digit behind the hyphen. -/
theorem ofSpelling?_of_isDigit {text : String} {digit : Char} {rest : List Char}
    (isDigit : digit.isDigit = true) (shape : text.toList = '-' :: digit :: rest) :
    Switch.ofSpelling? text = none := by
  have letters : ∀ row ∈ Switch.table, row.1.toList[1]?.any Char.isDigit = false := by
    decide
  rw [Switch.ofSpelling?, Option.map_eq_none_iff, List.find?_eq_none]
  intro row member same
  have second := letters row member
  rw [of_decide_eq_true same, shape] at second
  simp [isDigit] at second

theorem isNegativeNumber_of_isDigits {digits : List Char}
    (isNumber : Numeral.isDigits digits = true) : isNegativeNumber ('-' :: digits) = true := by
  obtain ⟨nonempty, decimal⟩ := Numeral.isDigits_iff.mp isNumber
  have unbroken : digits.getLast? ≠ some '\n' := by
    intro last
    exact absurd (decimal '\n' (List.mem_of_getLast? last)) (by decide)
  have consumed :
      digits.dropWhile (fun character => (Numeral.digitValue? character).isSome) = [] := by
    rw [List.dropWhile_eq_nil_iff]
    intro digit member
    rw [Numeral.digitValue?_of_isDigit (decimal digit member)]
    rfl
  simp [isNegativeNumber, unbroken, consumed, nonempty]

/-- A negative number is sorted as itself because no switch looks like it. -/
theorem switchWord_of_negative {text : String} {digit : Char} {rest : List Char}
    (isNumber : Numeral.isDigits (digit :: rest) = true)
    (shape : text.toList = '-' :: digit :: rest) : switchWord text = .ok (.value text) := by
  obtain ⟨-, decimal⟩ := Numeral.isDigits_iff.mp isNumber
  have isDigit : digit.isDigit = true := decimal digit List.mem_cons_self
  have noHyphen : digit ≠ '-' := Numeral.ne_of_isDigit isDigit (by decide)
  have noEquals : ∀ character ∈ '-' :: digit :: rest, character ≠ '=' := by
    refine List.forall_mem_cons.mpr ⟨by decide, ?_⟩
    intro character member
    exact Numeral.ne_of_isDigit (decimal character member) (by decide)
  have undivided : splitEquals text.toList = (text.toList, none) := by
    have consumed : text.toList.dropWhile (· ≠ '=') = [] := by
      rw [List.dropWhile_eq_nil_iff, shape]
      intro character member
      exact decide_eq_true (noEquals character member)
    rw [splitEquals, consumed]
  have noLetter : Switch.ofLetter? digit = none :=
    ofSpelling?_of_isDigit isDigit (String.toList_ofList)
  have short : shortWord text = .value text := by
    rw [shortWord, shape]
    simp only [noLetter]
    rw [plainWord, shape, isNegativeNumber_of_isDigits isNumber]
    rfl
  have isLong : ['-', '-'].isPrefixOf text.toList = false := by
    rw [shape]
    simp [List.isPrefixOf, noHyphen.symm]
  unfold switchWord
  rw [undivided]
  simp only [String.ofList_toList, ofSpelling?_of_isDigit isDigit shape, isLong, short]
  rfl

/-- A negative number is a value. -/
theorem isValue_of_negative {text : String} {digits : List Char}
    (isNumber : Numeral.isDigits digits = true) (shape : text.toList = '-' :: digits) :
    IsValue text := by
  obtain ⟨nonempty, decimal⟩ := Numeral.isDigits_iff.mp isNumber
  obtain ⟨digit, rest, rfl⟩ := List.exists_cons_of_ne_nil nonempty
  constructor
  · rintro rfl
    have hyphen : '-' = digit := (List.cons.inj (List.cons.inj shape).2).1
    exact absurd (decimal digit List.mem_cons_self) (by rw [← hyphen]; decide)
  · rw [Word.ofText, shape]
    exact switchWord_of_negative isNumber shape

/-- An integer is a value, whatever its sign. -/
theorem isValue_toString (value : Int) : IsValue (toString value) := by
  obtain ⟨magnitude, ⟨-, text⟩ | ⟨-, text⟩⟩ := Numeral.exists_magnitude value
  · apply isValue_of_noHyphen
    rw [text]
    intro first
    obtain ⟨-, decimal⟩ := Numeral.isDigits_iff.mp (Numeral.isDigits_toDigits magnitude)
    exact absurd (decimal '-' (List.mem_of_head? first)) (by decide)
  · exact isValue_of_negative (Numeral.isDigits_toDigits magnitude) text

theorem isValue_text (box : Box) : IsValue box.text := by
  cases box with
  | number content => exact isValue_toString content.value
  | letter content =>
      apply isValue_of_noHyphen
      change (String.singleton content.character).toList.head? ≠ _
      rw [String.toList_singleton]
      intro first
      have atLeast := content.atLeast
      rw [Option.some.inj first] at atLeast
      exact absurd atLeast (by decide)

theorem readWords_eq_ok {texts : List String} {words : List Word}
    (sorted : List.Forall₂ IsFor texts words) : readWords texts = .ok words := by
  induction sorted with
  | nil => rfl
  | cons first _ inductionHypothesis =>
      rw [readWords, first.sorted, inductionHypothesis]
      · rfl
      · exact first.noSeparator

theorem forall₂_words {orders : List Order} (complete : ∀ order ∈ orders, order.IsComplete) :
    List.Forall₂ IsFor (orders.flatMap Order.texts) (orders.flatMap Order.words) := by
  induction orders with
  | nil => exact .nil
  | cons order rest inductionHypothesis =>
      obtain ⟨first, others⟩ := List.forall_mem_cons.mp complete
      refine .cons (isFor_spelling order.switch) (List.rel_append ?_ (inductionHypothesis others))
      rw [List.forall₂_map_right_iff, List.forall₂_same]
      exact first.values

end Words

section Scan

theorem leadingValues_append (values : List String) {rest : List Word}
    (stops : ∀ text, rest.head? ≠ some (.value text)) :
    leadingValues (values.map .value ++ rest) = (values, rest) := by
  induction values with
  | nil =>
      cases rest with
      | nil => rfl
      | cons word others =>
          cases word with
          | value text => exact absurd rfl (stops text)
          | separator => rfl
          | use switch isShort attached => rfl
          | unknown text => rfl
  | cons value others inductionHypothesis =>
      rw [List.map_cons, List.cons_append, leadingValues, inductionHypothesis]

/-- An order begins with its switch. -/
theorem stops_orders (orders : List Order) (text : String) :
    (orders.flatMap Order.words).head? ≠ some (.value text) := by
  cases orders <;> simp [Order.words]

/-- A complete order takes its arguments and leaves the next order alone. -/
theorem ordersFrom_of_isComplete {order : Order} (complete : order.IsComplete) {rest : List Word}
    (stops : ∀ text, rest.head? ≠ some (.value text)) :
    ordersFrom order.switch (order.arguments.map .value ++ rest) = .ok ⟨[order], rest⟩ := by
  have arity := complete.arity
  obtain ⟨switch, arguments⟩ := order
  cases takes : switch.arity with
  | none =>
      have empty : arguments = [] := by simpa only [takes] using arity
      simp only [ordersFrom, takes, empty, List.map_nil, List.nil_append]
  | one =>
      have single : ∃ text, arguments = [text] := by simpa only [takes] using arity
      obtain ⟨text, shape⟩ := single
      simp only [ordersFrom, takes, shape, List.map_cons, List.map_nil, List.cons_append,
        List.nil_append]
  | several =>
      have nonempty : arguments ≠ [] := by simpa only [takes] using arity
      obtain ⟨text, others, shape⟩ := List.exists_cons_of_ne_nil nonempty
      have taken := leadingValues_append arguments stops
      rw [shape] at taken ⊢
      simp only [ordersFrom, takes, taken]

/-- There are at least as many words as orders. -/
theorem length_le_words (orders : List Order) :
    orders.length ≤ (orders.flatMap Order.words).length := by
  induction orders with
  | nil => exact Nat.le_refl 0
  | cons order rest inductionHypothesis =>
      rw [List.flatMap_cons, List.length_append, Order.words, List.length_cons, List.length_cons]
      omega

/-- Each round of a scan obeys one order. -/
theorem run_orders {orders : List Order} (complete : ∀ order ∈ orders, order.IsComplete)
    {settings final : Settings} (obeyed : orders.foldlM Settings.obey settings = .ok final)
    (extras : List String) {rounds : Nat} (enough : orders.length ≤ rounds) :
    (Scan.mk settings extras).run (orders.flatMap Order.words) rounds = .ok ⟨final, extras⟩ := by
  induction orders generalizing settings rounds with
  | nil =>
      rw [← Except.ok.inj obeyed]
      cases rounds <;> rfl
  | cons order rest inductionHypothesis =>
      obtain ⟨first, others⟩ := List.forall_mem_cons.mp complete
      rw [List.foldlM_cons, bind_eq_ok_iff] at obeyed
      obtain ⟨middle, once, further⟩ := obeyed
      obtain ⟨spare, count⟩ := Nat.exists_eq_add_of_le' enough
      rw [List.length_cons, ← Nat.add_assoc] at count
      have ordered := ordersFrom_of_isComplete first (stops_orders rest)
      have used : (Scan.mk settings extras).use ⟨[order], rest.flatMap Order.words⟩ =
          .ok ⟨middle, extras⟩ := by
        rw [Scan.use, List.foldlM_cons, once]
        rfl
      have scanned : (Scan.mk settings extras).next
          (.use order.switch order.switch.isShort none)
          (order.arguments.map .value ++ rest.flatMap Order.words) =
            .ok (⟨middle, extras⟩, rest.flatMap Order.words) := by
        change (ordersFrom order.switch _ >>= _) = _
        rw [ordered]
        change (Scan.use _ _ >>= _) = _
        rw [used]
        rfl
      rw [count, List.flatMap_cons, Order.words, List.cons_append, Scan.run, scanned]
      exact inductionHypothesis others further (by omega)

/-- A command line of a script and complete orders gives the settings that the orders make. -/
theorem read_orders {script : String} (isValue : IsValue script) {orders : List Order}
    (complete : ∀ order ∈ orders, order.IsComplete) {final : Settings}
    (obeyed : orders.foldlM Settings.obey { Settings.initial with script := some script } =
      .ok final)
    (named : final.script = some script) :
    Settings.read (script :: orders.flatMap Order.texts) = .ok final := by
  have words : readWords (script :: orders.flatMap Order.texts) =
      .ok (.value script :: orders.flatMap Order.words) :=
    readWords_eq_ok (.cons isValue (forall₂_words complete))
  have first : (Scan.mk Settings.initial []).next (.value script) (orders.flatMap Order.words) =
      .ok (⟨{ Settings.initial with script := some script }, []⟩, orders.flatMap Order.words) := by
    have taken : (Scan.mk Settings.initial []).value script (orders.flatMap Order.words) =
        (⟨{ Settings.initial with script := some script }, []⟩, orders.flatMap Order.words) := by
      cases orders <;> rfl
    rw [Scan.next, taken]
  rw [Settings.read, words]
  change ((Scan.mk Settings.initial []).run _ _ >>= _) = _
  rw [List.length_cons, Scan.run, first]
  change ((Scan.mk _ []).run _ _ >>= _) = _
  rw [run_orders complete obeyed [] (length_le_words orders)]
  change Scan.conclude ⟨final, []⟩ = _
  simp [Scan.conclude, named]

end Scan

end OfficeMachine.CommandLine
