/-
This file shows that the layout of a script does not matter. Two scripts whose obeyed lines have the
same tokens are read alike, and the usual changes of a layout keep these tokens.
-/

import Mathlib.Logic.Relation
import OfficeMachine.Proofs.Script.Rejection
import OfficeMachine.Proofs.Text.Rows
import OfficeMachine.Storage.Loading

namespace OfficeMachine.Script

/-- A tile index with too many digits is not a complaint and has no kind. -/
def Refusal.kind? : Refusal → Option ComplaintKind
  | .complaint reason => some reason.kind
  | .overlong _ => none

/-- Two scripts are read alike if they have the same actions and labels, or if they are rejected for
the same kind of mistake at the same place among their obeyed lines. -/
inductive ReadAlike (first second : String) : Prop
  | accepted {program other : Program} (accepted : read first = .ok program)
      (acceptedToo : read second = .ok other) (agrees : program.Agrees other)
      (labels : program.labels = other.labels) : ReadAlike first second
  | rejected {index : Nat} {line other : Line} {refusal counterpart : Refusal}
      (blames : Blames (obeyedLines first) index line refusal)
      (blamesToo : Blames (obeyedLines second) index other counterpart)
      (kinds : refusal.kind? = counterpart.kind?)
      (rejected : read first = .error (refusal.on line))
      (rejectedToo : read second = .error (counterpart.on other)) : ReadAlike first second

/-- Two lines that are cut from texts are alike if they have the same tokens. -/
structure Line.Alike (first second : Line) : Prop where
  cut : first.IsCut
  cutToo : second.IsCut
  inked : first.tokens ≠ []
  tokens : first.tokens = second.tokens

namespace Line.Alike

variable {first second : Line}

theorem symm (alike : first.Alike second) : second.Alike first :=
  ⟨alike.cutToo, alike.cut, alike.tokens ▸ alike.inked, alike.tokens.symm⟩

theorem means (alike : first.Alike second) {statement : Statement}
    (meaning : first.Means statement) : second.Means statement := by
  rw [← Statement.read_eq_ok_iff alike.cut, alike.tokens] at meaning
  exact (Statement.read_eq_ok_iff alike.cutToo).mp meaning

theorem misspells (alike : first.Alike second) {refusal : Refusal}
    (misspells : first.Misspells refusal) : second.Misspells refusal := by
  rw [← Statement.read_eq_error_iff alike.cut alike.inked, alike.tokens] at misspells
  exact (Statement.read_eq_error_iff alike.cutToo alike.symm.inked).mp misspells

end Line.Alike

section Alike

variable {lines others earlier before : List Line}

theorem exists_alike_of_getElem? (alike : List.Forall₂ Line.Alike lines others) {index : Nat}
    {line : Line} (here : lines[index]? = some line) :
    ∃ other, others[index]? = some other ∧ line.Alike other := by
  induction alike generalizing index with
  | nil => cases here
  | cons first _ inductionHypothesis =>
      cases index with
      | zero =>
          cases here
          exact ⟨_, rfl, first⟩
      | succ index => exact inductionHypothesis here

theorem exists_alike_of_mem (alike : List.Forall₂ Line.Alike lines others) {line : Line}
    (member : line ∈ lines) : ∃ other ∈ others, line.Alike other := by
  obtain ⟨index, here⟩ := List.mem_iff_getElem?.mp member
  obtain ⟨other, there, same⟩ := exists_alike_of_getElem? alike here
  exact ⟨other, List.mem_of_getElem? there, same⟩

/-- Like lines break the same rules. Only the number of a repeated declaration may differ. -/
theorem Line.Alike.breaks {line other : Line} (same : line.Alike other)
    (alike : List.Forall₂ Line.Alike earlier before) {refusal : Refusal}
    (breaks : line.Breaks earlier refusal) :
    ∃ counterpart, other.Breaks before counterpart ∧ refusal.kind? = counterpart.kind? := by
  cases breaks with
  | misspelt misspells => exact ⟨refusal, .misspelt (same.misspells misspells), rfl⟩
  | repeated member declared declares =>
      obtain ⟨first, memberToo, sameFirst⟩ := exists_alike_of_mem alike member
      exact ⟨_, .repeated memberToo (sameFirst.means declared) (same.means declares), rfl⟩

theorem symm_alike (alike : List.Forall₂ Line.Alike lines others) :
    List.Forall₂ Line.Alike others lines :=
  alike.flip.imp fun _ _ same => same.symm

theorem Pass.alike (passed : Pass [] lines) (alike : List.Forall₂ Line.Alike lines others) :
    Pass [] others := by
  intro index other there refusal breaks
  obtain ⟨line, here, same⟩ := exists_alike_of_getElem? (symm_alike alike) there
  obtain ⟨counterpart, breaksToo, -⟩ :=
    same.breaks (List.forall₂_take index (symm_alike alike)) breaks
  exact passed index line here counterpart breaksToo

theorem Declares.alike {name : String} (declares : Declares lines name)
    (alike : List.Forall₂ Line.Alike lines others) : Declares others name := by
  obtain ⟨line, member, meaning⟩ := declares
  obtain ⟨other, memberToo, same⟩ := exists_alike_of_mem alike member
  exact ⟨other, memberToo, same.means meaning⟩

/-- Like lines are blamed at the same place and for the same kind of mistake. -/
theorem Blames.alike {index : Nat} {line : Line} {refusal : Refusal}
    (blames : Blames lines index line refusal) (alike : List.Forall₂ Line.Alike lines others) :
    ∃ other counterpart, Blames others index other counterpart ∧
      refusal.kind? = counterpart.kind? := by
  have front : List.Forall₂ Line.Alike (lines.take index) (others.take index) :=
    List.forall₂_take index alike
  cases blames with
  | breaks here passed breaks =>
      obtain ⟨other, there, same⟩ := exists_alike_of_getElem? alike here
      obtain ⟨counterpart, breaksToo, kinds⟩ := same.breaks front breaks
      exact ⟨other, counterpart, .breaks there (passed.alike front) breaksToo, kinds⟩
  | undeclared here passed declared jumps missing =>
      obtain ⟨other, there, same⟩ := exists_alike_of_getElem? alike here
      refine ⟨other, _, .undeclared there (passed.alike alike) ?_ (same.means jumps) ?_, rfl⟩
      · intro earlier member opcode name meaning
        obtain ⟨counterpart, memberToo, sameEarlier⟩ :=
          exists_alike_of_mem (symm_alike front) member
        exact (declared counterpart memberToo opcode name (sameEarlier.means meaning)).alike alike
      · intro declares
        exact missing (declares.alike (symm_alike alike))

theorem means_alike {statements : List Statement}
    (alike : List.Forall₂ Line.Alike lines others)
    (meanings : List.Forall₂ Line.Means lines statements) :
    List.Forall₂ Line.Means others statements := by
  induction alike generalizing statements with
  | nil =>
      cases meanings
      exact .nil
  | cons first _ inductionHypothesis =>
      cases meanings with
      | cons meaning rest => exact .cons (first.means meaning) (inductionHypothesis rest)

theorem alike_of_map_tokens (cut : ∀ line ∈ lines, line.IsCut)
    (inked : ∀ line ∈ lines, line.tokens ≠ []) (cutToo : ∀ line ∈ others, line.IsCut)
    (same : lines.map Line.tokens = others.map Line.tokens) :
    List.Forall₂ Line.Alike lines others := by
  induction lines generalizing others with
  | nil =>
      rw [List.map_nil, eq_comm, List.map_eq_nil_iff] at same
      rw [same]
      exact .nil
  | cons line rest inductionHypothesis =>
      cases others with
      | nil => cases same
      | cons other remaining =>
          rw [List.forall_mem_cons] at cut inked cutToo
          obtain ⟨tokens, remains⟩ := List.cons.inj same
          exact .cons ⟨cut.1, cutToo.1, inked.1, tokens⟩
            (inductionHypothesis cut.2 inked.2 cutToo.2 remains)

end Alike

/-- Scripts with the same tokens on their obeyed lines are read alike. -/
theorem readAlike_of_tokens {first second : String}
    (same : (obeyedLines first).map Line.tokens = (obeyedLines second).map Line.tokens) :
    ReadAlike first second := by
  have alike : List.Forall₂ Line.Alike (obeyedLines first) (obeyedLines second) := by
    rw [← retainedLines_eq_obeyedLines, ← retainedLines_eq_obeyedLines] at same ⊢
    exact alike_of_map_tokens (fun _ => isCut_of_mem_retainedLines)
      (fun _ => inked_of_mem_retainedLines) (fun _ => isCut_of_mem_retainedLines) same
  cases outcome : read first with
  | ok program =>
      obtain ⟨statements, meanings, consistent, renders⟩ := read_eq_ok_iff.mp outcome
      rw [retainedLines_eq_obeyedLines] at meanings renders
      have meaningsToo := means_alike alike meanings
      obtain ⟨other, rendersToo⟩ := exists_renders (obeyedLines second) consistent
      have outcomeToo : read second = .ok other := by
        rw [read_eq_ok_iff, retainedLines_eq_obeyedLines]
        exact ⟨statements, meaningsToo, consistent, rendersToo⟩
      refine .accepted outcome outcomeToo ?_ ?_
      · rw [Program.Agrees, renders.actions_eq meanings, rendersToo.actions_eq meaningsToo]
      · exact Table.ext (renders.labels.trans rendersToo.labels.symm)
  | error failure =>
      obtain ⟨index, line, refusal, blames, told⟩ := read_eq_error_iff.mp outcome
      rw [retainedLines_eq_obeyedLines] at blames
      obtain ⟨other, counterpart, blamesToo, kinds⟩ := blames.alike alike
      refine .rejected blames blamesToo kinds (outcome.trans (congrArg Except.error told)) ?_
      rw [read_eq_error_iff, retainedLines_eq_obeyedLines]
      exact ⟨index, other, counterpart, blamesToo, rfl⟩

/-- The kept rows are the rows in front of the first drawings that are not idle. -/
def keptRows (rows : List (List String)) : List (List String) :=
  (rows.takeWhile fun row => !Line.isClosing ⟨0, "", row⟩).filter
    fun row => !Line.isIdle ⟨0, "", row⟩

theorem keptRows_cons (row : List String) (rest : List (List String)) :
    keptRows (row :: rest) =
      if Line.isClosing ⟨0, "", row⟩ then []
      else if Line.isIdle ⟨0, "", row⟩ then keptRows rest else row :: keptRows rest := by
  unfold keptRows
  rw [List.takeWhile_cons]
  cases Line.isClosing ⟨0, "", row⟩ with
  | true => rfl
  | false =>
      simp only [Bool.not_false, if_true, List.filter_cons]
      cases Line.isIdle ⟨0, "", row⟩ <;> rfl

/-- A blank row is not kept, and it closes nothing. -/
theorem keptRows_filter (rows : List (List String)) :
    keptRows (rows.filter fun row => !row.isEmpty) = keptRows rows := by
  induction rows with
  | nil => rfl
  | cons row rest inductionHypothesis =>
      cases row with
      | nil => exact inductionHypothesis
      | cons token tokens =>
          change keptRows ((token :: tokens) :: rest.filter fun row => !row.isEmpty) = _
          rw [keptRows_cons, keptRows_cons, inductionHypothesis]

/-- An idle row opens no drawings. -/
theorem isClosing_of_isIdle {row : List String} (idle : Line.isIdle ⟨0, "", row⟩ = true) :
    Line.isClosing ⟨0, "", row⟩ = false := by
  cases row with
  | nil => rfl
  | cons token tokens =>
      have different : token ≠ "DEFINE" := by
        rintro rfl
        exact absurd idle (by simp [Line.isIdle])
      simp [Line.isClosing, different]

theorem keptRows_append_idle (front : List (List String)) {row : List String}
    (idle : Line.isIdle ⟨0, "", row⟩ = true) (rest : List (List String)) :
    keptRows (front ++ row :: rest) = keptRows (front ++ rest) := by
  induction front with
  | nil =>
      rw [List.nil_append, List.nil_append, keptRows_cons, isClosing_of_isIdle idle, idle]
      rfl
  | cons first front inductionHypothesis =>
      rw [List.cons_append, List.cons_append, keptRows_cons, keptRows_cons, inductionHypothesis]

theorem keptRows_append_closing (front : List (List String)) {row : List String}
    (closing : Line.isClosing ⟨0, "", row⟩ = true) (rest : List (List String)) :
    keptRows (front ++ row :: rest) = keptRows front := by
  induction front with
  | nil =>
      rw [List.nil_append, keptRows_cons, closing]
      rfl
  | cons first front inductionHypothesis =>
      rw [List.cons_append, keptRows_cons, keptRows_cons, inductionHypothesis]

/-- The rows of a source are its lines as lists of tokens. -/
def tokenRows (source : List Char) : List (List String) :=
  (Text.rows source).map fun row => row.map String.ofList

theorem map_tokens_physicalLines (source : String) :
    (physicalLines source).map Line.tokens =
      (Text.lines source.toList).map fun raw => (Text.words raw).map String.ofList := by
  conv_rhs => rw [← List.zipIdx_map_fst 1 (Text.lines source.toList)]
  rw [physicalLines, List.map_map, List.map_map]
  rfl

theorem map_tokens_retainedLines (source : String) :
    (retainedLines source).map Line.tokens = keptRows (tokenRows source.toList) := by
  have kept : (retainedLines source).map Line.tokens =
      keptRows ((physicalLines source).map Line.tokens) := by
    rw [keptRows, List.takeWhile_map, List.filter_map]
    rfl
  rw [kept, ← keptRows_filter, map_tokens_physicalLines, tokenRows, ← Text.filter_words_lines,
    List.filter_map, List.filter_map, List.map_map]
  congr 2
  apply List.filter_congr
  intro raw _
  simp

theorem tokenRows_append {first second whole : List Char}
    (split : Text.rows whole = Text.rows first ++ Text.rows second) :
    tokenRows whole = tokenRows first ++ tokenRows second := by
  rw [tokenRows, split, List.map_append]
  rfl

theorem tokenRows_of_isRow {row : List Char} (clean : Text.IsRow row) :
    tokenRows row = [(Line.ofRaw 0 row).tokens].filter fun tokens => !tokens.isEmpty := by
  rw [tokenRows, Text.rows_of_isRow clean]
  cases words : Text.words row <;> simp [Line.ofRaw, words]

/-- A change of the layout replaces a gap or a line end by another one, adds a line that is dropped
or adds the line of the first drawings with whatever follows it. -/
inductive Relays : List Char → List Char → Prop
  | gap {before gap other after : List Char} (isGap : Text.IsGap gap) (isGapToo : Text.IsGap other)
      (keeps : (gap = [] ↔ other = []) ∨ Text.Apart before after) :
      Relays (before ++ gap ++ after) (before ++ other ++ after)
  | terminator {before terminator other after : List Char}
      (terminates : Text.IsTerminator terminator) (terminatesToo : Text.IsTerminator other) :
      Relays (before ++ terminator ++ after) (before ++ other ++ after)
  | droppedLine {before row terminator after : List Char} (opens : Text.OpensLine before)
      (clean : Text.IsRow row) (dropped : (Line.ofRaw 0 row).IsDropped)
      (terminates : Text.IsTerminator terminator) :
      Relays (before ++ after) (before ++ row ++ terminator ++ after)
  | droppedLastLine {before terminator row : List Char}
      (terminates : Text.IsTerminator terminator) (clean : Text.IsRow row)
      (dropped : (Line.ofRaw 0 row).IsDropped) : Relays before (before ++ terminator ++ row)
  | drawings {before row after : List Char} (opens : Text.OpensLine before)
      (clean : Text.IsRow row) (closing : (Line.ofRaw 0 row).tokens.head? = some "DEFINE")
      (closes : Text.ClosesLine after) : Relays before (before ++ row ++ after)

theorem keptRows_append_dropped {row : List Char} (clean : Text.IsRow row)
    (dropped : (Line.ofRaw 0 row).IsDropped) (front rest : List (List String)) :
    keptRows (front ++ tokenRows row ++ rest) = keptRows (front ++ rest) := by
  have idle : (Line.ofRaw 0 row).isIdle = true :=
    (Line.isIdle_iff (Line.isCut_ofRaw 0 row)).mpr dropped
  rw [tokenRows_of_isRow clean]
  cases blank : (Line.ofRaw 0 row).tokens.isEmpty with
  | true => simp [blank]
  | false =>
      rw [List.filter_cons, blank, List.append_assoc]
      exact keptRows_append_idle front idle rest

theorem tokenRows_of_closing {row : List Char} (clean : Text.IsRow row)
    (closing : (Line.ofRaw 0 row).tokens.head? = some "DEFINE") :
    tokenRows row = [(Line.ofRaw 0 row).tokens] := by
  rw [tokenRows_of_isRow clean]
  cases tokens : (Line.ofRaw 0 row).tokens with
  | nil =>
      rw [tokens] at closing
      cases closing
  | cons token others => rfl

/-- A change of the layout keeps the kept rows. -/
theorem Relays.keptRows_eq {first second : List Char} (relays : Relays first second) :
    keptRows (tokenRows first) = keptRows (tokenRows second) := by
  cases relays with
  | gap isGap isGapToo keeps =>
      rw [tokenRows, tokenRows, Text.rows_gap _ _ isGap isGapToo keeps]
  | terminator terminates terminatesToo =>
      rw [tokenRows, tokenRows, terminates.rows_append, terminatesToo.rows_append]
  | droppedLine opens clean dropped terminates =>
      rw [tokenRows_append (opens.rows_append _), tokenRows_append (terminates.rows_append _ _),
        tokenRows_append (opens.rows_append _), keptRows_append_dropped clean dropped]
  | droppedLastLine terminates clean dropped =>
      have last := keptRows_append_dropped clean dropped (tokenRows first) []
      rw [List.append_nil, List.append_nil] at last
      rw [tokenRows_append (terminates.rows_append _ _), last]
  | drawings opens clean closing closes =>
      have tokens := tokenRows_of_closing clean closing
      rw [tokenRows_append (closes.rows_append _), tokenRows_append (opens.rows_append _), tokens,
        List.append_assoc]
      exact (keptRows_append_closing _ (decide_eq_true closing) _).symm

/-- Changes of the layout, also backwards and one after another, keep the tokens of the obeyed
lines. -/
theorem map_tokens_obeyedLines_of_relays {first second : String}
    (relays : Relation.EqvGen Relays first.toList second.toList) :
    (obeyedLines first).map Line.tokens = (obeyedLines second).map Line.tokens := by
  have same {source other : List Char} (relays : Relation.EqvGen Relays source other) :
      keptRows (tokenRows source) = keptRows (tokenRows other) := by
    induction relays with
    | rel _ _ relays => exact relays.keptRows_eq
    | refl _ => rfl
    | symm _ _ _ inductionHypothesis => exact inductionHypothesis.symm
    | trans _ _ _ _ _ first second => exact first.trans second
  rw [← retainedLines_eq_obeyedLines, ← retainedLines_eq_obeyedLines, map_tokens_retainedLines,
    map_tokens_retainedLines, same relays]

/-- A reader sees no difference between a source and the source with unified line ends. -/
theorem read_unifyLineEnds (reader : Reader) (source : String) :
    reader.read (String.ofList (Text.unifyLineEnds source.toList)) = reader.read source := by
  have lines : physicalLines (String.ofList (Text.unifyLineEnds source.toList)) =
      physicalLines source := by
    rw [physicalLines, physicalLines, String.toList_ofList, Text.lines_unifyLineEnds]
  simp only [Reader.read, retainedLines, closingLine?, lines]

/-- A script that was loaded is the decoded text of its file with unified line ends. -/
theorem exists_decoded_of_loadScript {files : Storage.Files} {given text : String}
    (loaded : Storage.loadScript files given = .ok text) :
    ∃ bytes decoded, files (Storage.Path.ofText given) = .ok bytes ∧
      Text.decode bytes = .ok decoded ∧ text = String.ofList (Text.unifyLineEnds decoded) := by
  have found : Storage.readText files (Storage.Path.ofText given) = .ok text := by
    unfold Storage.loadScript at loaded
    cases result : Storage.readText files (Storage.Path.ofText given) with
    | error error =>
        rw [result] at loaded
        cases loaded
    | ok other =>
        rw [result] at loaded
        exact congrArg Except.ok (Except.ok.inj loaded)
  unfold Storage.readText at found
  split at found
  · cases found
  · split at found
    · cases found
    · rename_i bytes read
      split at found
      · cases found
      · rename_i decoded encoded
        exact ⟨bytes, decoded, read, encoded, (Except.ok.inj found).symm⟩

/-- The layout of a script does not matter. Scripts whose obeyed lines have the same tokens are read
alike, and changes of the layout keep these tokens. Unified line ends, which every script from a
file has, do not even change the numbers and the texts of the lines. -/
theorem layout_does_not_matter :
    (∀ first second : String,
      (obeyedLines first).map Line.tokens = (obeyedLines second).map Line.tokens →
        ReadAlike first second) ∧
    (∀ first second : String, Relation.EqvGen Relays first.toList second.toList →
      (obeyedLines first).map Line.tokens = (obeyedLines second).map Line.tokens ∧
        ReadAlike first second) ∧
    (∀ (reader : Reader) (source : String),
      reader.read (String.ofList (Text.unifyLineEnds source.toList)) = reader.read source) ∧
    ∀ (files : Storage.Files) (given text : String),
      Storage.loadScript files given = .ok text →
        ∃ bytes decoded, files (Storage.Path.ofText given) = .ok bytes ∧
          Text.decode bytes = .ok decoded ∧
          ∀ reader : Reader, reader.read text = reader.read (String.ofList decoded) := by
  refine ⟨fun first second => readAlike_of_tokens, ?_, read_unifyLineEnds, ?_⟩
  · intro first second relays
    have same := map_tokens_obeyedLines_of_relays relays
    exact ⟨same, readAlike_of_tokens same⟩
  · intro files given text loaded
    obtain ⟨bytes, decoded, found, encoded, same⟩ := exists_decoded_of_loadScript loaded
    refine ⟨bytes, decoded, found, encoded, ?_⟩
    intro reader
    rw [← read_unifyLineEnds reader (String.ofList decoded), String.toList_ofList, same]

/-- These scripts differ in their blanks, line ends, idle lines and drawings. -/
theorem layout_does_not_matter_loop :
    ReadAlike "a:\nINBOX\nJUMP a"
      "-- loop\r\n  a:\r\n\r\nINBOX\t\n COMMENT 0\rJUMP  a\nDEFINE COMMENT 0" :=
  layout_does_not_matter.1 _ _ (by decide +kernel)

end OfficeMachine.Script
