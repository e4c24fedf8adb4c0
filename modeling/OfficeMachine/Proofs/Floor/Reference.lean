/-
This file compares the floor with a plain one that is nothing but a function from addresses to boxes
and a bound. No sequence of requests tells the two apart.
-/

import Mathlib.Data.List.Sort
import OfficeMachine.Proofs.Floor.Content
import OfficeMachine.Proofs.Machine.Failures

namespace OfficeMachine

/-- A plain floor tells of every whole number which box lies there. -/
structure PlainFloor where
  content : Int → Option Box
  bound : Option Nat

namespace Floor

def plain (floor : Floor) : PlainFloor := ⟨floor.content, floor.bound⟩

inductive Request where
  | get (address : Int)
  | read (address : Int)
  | write (address : Int) (box : Box)
  | resolve (address : Address)
  | size
  | snapshot

/-- The tile that a request names. -/
def Request.address? : Request → Option Int
  | .get address | .read address | .write address _ => some address
  | .resolve address => some address.index
  | .size | .snapshot => none

/-- The box that a request brings to an address. -/
def Request.brings? (address : Int) : Request → Option Box
  | .write place box => if place = address then some box else none
  | .get _ | .read _ | .resolve _ | .size | .snapshot => none

/-- The last box that the requests bring to an address. -/
def lastBrought? (address : Int) : List Request → Option Box
  | [] => none
  | request :: rest => (lastBrought? address rest).or (request.brings? address)

/-- A request is short if the address that it names can be written. -/
def Request.IsShort (request : Request) : Prop :=
  ∀ address, request.address? = some address → Numeral.isWritable address = true

/-- A refused request tells why. Only a size can be too large to tell. -/
inductive Reply where
  | content (found : Option Box)
  | box (found : Box)
  | written
  | address (tile : Int)
  | size (count : Nat)
  | oversized
  | tiles (entries : List (Int × Box))
  | refused (error : TileError)

/-- A question leaves the floor alone. -/
def told {Found : Type} (floor : Floor) (reply : Found → Reply)
    (found : Except TileError Found) : Reply × Floor :=
  match found with
  | .ok result => (reply result, floor)
  | .error error => (.refused error, floor)

def answer (floor : Floor) : Request → Reply × Floor
  | .get address => floor.told .content (floor.get address)
  | .read address => floor.told .box (floor.read address)
  | .write address box =>
      match floor.write address box with
      | .ok changed => (.written, changed)
      | .error error => (.refused error, floor)
  | .resolve address => floor.told (fun tile => .address tile) (floor.resolve address)
  | .size =>
      match floor.size? with
      | some count => (.size count, floor)
      | none => (.oversized, floor)
  | .snapshot => (.tiles (floor.snapshot.map fun entry => ((entry.1 : Int), entry.2)), floor)

/-- The requests are answered one after another. -/
def answerAll (floor : Floor) : List Request → List Reply × Floor
  | [] => ([], floor)
  | request :: rest =>
      let answered := floor.answer request
      let others := answered.2.answerAll rest
      (answered.1 :: others.1, others.2)

end Floor

namespace PlainFloor

/-- A floor with a bound spans the tiles up to the bound, and a floor without one spans the tiles up
to the highest box. -/
inductive Spans (plain : PlainFloor) : Nat → Prop
  | bounded {last : Nat} (bound : plain.bound = some last) : plain.Spans (last + 1)
  | highest {tile : Nat} (unbounded : plain.bound = none)
      (occupied : plain.content (tile : Int) ≠ none)
      (top : ∀ address, plain.content address ≠ none → address ≤ tile) : plain.Spans (tile + 1)
  | bare (unbounded : plain.bound = none) (empty : ∀ address, plain.content address = none) :
      plain.Spans 0

/-- The entries are the occupied tiles in the order of their addresses. -/
structure Lists (plain : PlainFloor) (entries : List (Int × Box)) : Prop where
  ordered : entries.Pairwise fun first second => first.1 < second.1
  entry : ∀ address box, (address, box) ∈ entries ↔ plain.content address = some box

/-- A plain floor answers a request and becomes the next plain floor. -/
inductive Answers (plain : PlainFloor) : Floor.Request → Floor.Reply → PlainFloor → Prop
  | outside {request : Floor.Request} {address : Int} (named : request.address? = some address)
      (outside : ¬IsWithin plain.bound address) :
      plain.Answers request (.refused (.outside address plain.bound)) plain
  | got {address : Int} (within : IsWithin plain.bound address) :
      plain.Answers (.get address) (.content (plain.content address)) plain
  | readBox {address : Int} {box : Box} (within : IsWithin plain.bound address)
      (occupied : plain.content address = some box) :
      plain.Answers (.read address) (.box box) plain
  | readEmpty {address : Int} (within : IsWithin plain.bound address)
      (empty : plain.content address = none) :
      plain.Answers (.read address) (.refused (.empty address)) plain
  | wrote {address : Int} {box : Box} (within : IsWithin plain.bound address) :
      plain.Answers (.write address box) .written
        { plain with content := Function.update plain.content address (some box) }
  | direct {index : Int} (within : IsWithin plain.bound index) :
      plain.Answers (.resolve ⟨index, false⟩) (.address index) plain
  | indirect {index : Int} {number : Number} (within : IsWithin plain.bound index)
      (pointer : plain.content index = some (.number number))
      (goal : IsWithin plain.bound number.value) :
      plain.Answers (.resolve ⟨index, true⟩) (.address number.value) plain
  | emptyPointer {index : Int} (within : IsWithin plain.bound index)
      (empty : plain.content index = none) :
      plain.Answers (.resolve ⟨index, true⟩) (.refused (.emptyPointer index)) plain
  | letterPointer {index : Int} {letter : Letter} (within : IsWithin plain.bound index)
      (pointer : plain.content index = some (.letter letter)) :
      plain.Answers (.resolve ⟨index, true⟩) (.refused (.letterPointer index letter)) plain
  | pointerOutside {index : Int} {number : Number} (within : IsWithin plain.bound index)
      (pointer : plain.content index = some (.number number))
      (outside : ¬IsWithin plain.bound number.value) :
      plain.Answers (.resolve ⟨index, true⟩)
        (.refused (.outside number.value plain.bound)) plain
  | sized {count : Nat} (spans : plain.Spans count) (fits : count < Nat.pow 2 63) :
      plain.Answers .size (.size count) plain
  | oversized {count : Nat} (spans : plain.Spans count) (large : Nat.pow 2 63 ≤ count) :
      plain.Answers .size .oversized plain
  | listed {entries : List (Int × Box)} (lists : plain.Lists entries) :
      plain.Answers .snapshot (.tiles entries) plain

/-- A plain floor runs through requests if it answers them one after another. -/
inductive Runs : PlainFloor → List Floor.Request → List Floor.Reply → PlainFloor → Prop
  | nil (plain : PlainFloor) : Runs plain [] [] plain
  | cons {plain next final : PlainFloor} {request : Floor.Request} {reply : Floor.Reply}
      {requests : List Floor.Request} {replies : List Floor.Reply}
      (answers : plain.Answers request reply next) (runs : Runs next requests replies final) :
      Runs plain (request :: requests) (reply :: replies) final

variable {plain next final : PlainFloor} {request : Floor.Request} {reply : Floor.Reply}

section Answers

theorem Answers.bound_eq (answers : plain.Answers request reply next) :
    next.bound = plain.bound := by
  cases answers <;> rfl

/-- A refused request changes nothing. -/
theorem Answers.eq_of_refused {error : TileError}
    (answers : plain.Answers request (.refused error) next) : next = plain := by
  cases answers <;> rfl

/-- An address on the floor gets the box that a request brings there, or it keeps its own. -/
theorem Answers.content_eq (answers : plain.Answers request reply next) {address : Int}
    (within : IsWithin plain.bound address) :
    next.content address = (request.brings? address).or (plain.content address) := by
  cases answers with
  | outside named outside =>
      cases request with
      | write place box =>
          have elsewhere : place ≠ address := by
            intro same
            rw [← same, Option.some.inj named] at within
            exact outside within
          rw [Floor.Request.brings?, if_neg elsewhere, Option.none_or]
      | get _ | read _ | resolve _ | size | snapshot => rfl
  | @wrote place box _ =>
      change Function.update plain.content place (some box) address = _
      by_cases same : place = address
      · rw [Floor.Request.brings?, if_pos same, same, Function.update_self]
        rfl
      · rw [Floor.Request.brings?, if_neg same, Function.update_of_ne (Ne.symm same)]
        rfl
  | _ => rfl

theorem Answers.isWritable (writable : boundIsWritable plain.bound) (short : request.IsShort)
    {error : TileError} (answers : plain.Answers request (.refused error) next) :
    error.IsWritable := by
  cases answers with
  | outside named _ => exact ⟨short _ named, writable⟩
  | readEmpty _ _ => exact short _ rfl
  | emptyPointer _ _ => exact short _ rfl
  | letterPointer _ _ => exact short _ rfl
  | @pointerOutside index number _ _ _ => exact ⟨number.isWritable_value, writable⟩

end Answers

section Runs

variable {requests : List Floor.Request} {replies : List Floor.Reply}

theorem Runs.bound_eq (runs : plain.Runs requests replies final) : final.bound = plain.bound := by
  induction runs with
  | nil plain => rfl
  | cons answers _ inductionHypothesis => exact inductionHypothesis.trans answers.bound_eq

/-- An address on the floor has the last box that was brought there, or else its first one. -/
theorem Runs.content_eq (runs : plain.Runs requests replies final) {address : Int}
    (within : IsWithin plain.bound address) :
    final.content address =
      (Floor.lastBrought? address requests).or (plain.content address) := by
  induction runs with
  | nil plain => rfl
  | cons answers _ inductionHypothesis =>
      rw [← answers.bound_eq] at within
      rw [inductionHypothesis within]
      rw [answers.bound_eq] at within
      rw [answers.content_eq within, ← Option.or_assoc]
      rfl

theorem Runs.isWritable (runs : plain.Runs requests replies final)
    (writable : boundIsWritable plain.bound) (short : ∀ request ∈ requests, request.IsShort)
    {error : TileError} (refused : .refused error ∈ replies) : error.IsWritable := by
  induction runs with
  | nil plain => cases refused
  | cons answers _ inductionHypothesis =>
      rw [List.forall_mem_cons] at short
      rcases List.mem_cons.mp refused with first | later
      · rw [← first] at answers
        exact answers.isWritable writable short.1
      · rw [← answers.bound_eq] at writable
        exact inductionHypothesis writable short.2 later

end Runs

theorem Spans.unique {first second : Nat} (spans : plain.Spans first)
    (too : plain.Spans second) : first = second := by
  cases spans with
  | bounded bound =>
      cases too with
      | bounded same => rw [Option.some.inj (bound.symm.trans same)]
      | highest unbounded _ _ => cases bound.symm.trans unbounded
      | bare unbounded _ => cases bound.symm.trans unbounded
  | highest unbounded occupied top =>
      cases too with
      | bounded bound => cases bound.symm.trans unbounded
      | highest _ occupiedToo topToo =>
          have atMost := top _ occupiedToo
          have atLeast := topToo _ occupied
          omega
      | bare _ empty => exact absurd (empty _) occupied
  | bare unbounded empty =>
      cases too with
      | bounded bound => cases bound.symm.trans unbounded
      | highest _ occupied _ => exact absurd (empty _) occupied
      | bare _ _ => rfl

theorem Lists.unique {first second : List (Int × Box)} (lists : plain.Lists first)
    (too : plain.Lists second) : first = second := by
  let Before (first second : Int × Box) : Prop := first.1 < second.1
  have antisymmetric : Std.Antisymm Before :=
    ⟨fun _ _ less greater => absurd less (Int.lt_asymm greater)⟩
  have irreflexive : Std.Irrefl Before := ⟨fun _ => Int.lt_irrefl _⟩
  apply List.Pairwise.eq_of_mem_iff lists.ordered too.ordered
  intro entry
  exact (lists.entry entry.1 entry.2).trans (too.entry entry.1 entry.2).symm

end PlainFloor

namespace Floor

variable {floor : Floor}

/-- The occupied addresses are the keys of the tiles. -/
theorem content_ne_none_iff {address : Int} :
    floor.content address ≠ none ↔ ∃ tile : Nat, address = tile ∧ tile ∈ floor.tiles := by
  cases address with
  | negSucc number => simp [content]
  | ofNat number =>
      change floor.tiles[number]? ≠ none ↔ _
      rw [Option.ne_none_iff_isSome, ← Std.ExtTreeMap.mem_iff_isSome_getElem?]
      constructor
      · intro member
        exact ⟨number, rfl, member⟩
      · rintro ⟨tile, same, member⟩
        rw [Int.ofNat_inj.mp same]
        exact member

theorem spans_extent (floor : Floor) : floor.plain.Spans floor.extent := by
  unfold extent
  cases bound : floor.bound with
  | some last => exact .bounded bound
  | none =>
      cases top : floor.tiles.maxKey? with
      | none =>
          rw [Std.ExtTreeMap.maxKey?_eq_none_iff] at top
          refine .bare bound fun address => ?_
          by_contra occupied
          obtain ⟨tile, -, member⟩ := content_ne_none_iff.mp occupied
          rw [top] at member
          exact Std.ExtTreeMap.not_mem_empty member
      | some last =>
          obtain ⟨member, others⟩ := Std.ExtTreeMap.maxKey?_eq_some_iff_mem_and_forall.mp top
          refine .highest bound (content_ne_none_iff.mpr ⟨last, rfl, member⟩) ?_
          intro address occupied
          obtain ⟨tile, same, key⟩ := content_ne_none_iff.mp occupied
          have atMost : tile ≤ last := Nat.isLE_compare.mp (others tile key)
          omega

theorem lists_snapshot (floor : Floor) :
    floor.plain.Lists (floor.snapshot.map fun entry => ((entry.1 : Int), entry.2)) where
  ordered := by
    rw [List.pairwise_map]
    apply Std.ExtTreeMap.ordered_keys_toList.imp
    intro first second before
    exact Int.ofNat_lt.mpr (Nat.compare_eq_lt.mp before)
  entry := by
    intro address box
    change _ ↔ floor.content address = some box
    rw [List.mem_map]
    constructor
    · rintro ⟨⟨tile, other⟩, member, same⟩
      cases same
      exact Std.ExtTreeMap.mem_toList_iff_getElem?_eq_some.mp member
    · intro occupied
      cases address with
      | negSucc number => cases occupied
      | ofNat tile =>
          exact ⟨(tile, box), Std.ExtTreeMap.mem_toList_iff_getElem?_eq_some.mpr occupied, rfl⟩

theorem size?_of_lt (fits : floor.extent < Nat.pow 2 63) : floor.size? = some floor.extent :=
  if_pos fits

theorem size?_of_le (large : Nat.pow 2 63 ≤ floor.extent) : floor.size? = none :=
  if_neg (Nat.not_lt.mpr large)

section Answer

variable {request : Request} {reply : Reply} {next : PlainFloor}

/-- The floor gives every answer that the plain floor allows. -/
theorem answer_of_answers (answers : floor.plain.Answers request reply next) :
    reply = (floor.answer request).1 ∧ next = (floor.answer request).2.plain := by
  cases answers with
  | outside named outside =>
      cases request with
      | get address =>
          cases named
          rw [answer, get_of_not_isWithin outside]
          exact ⟨rfl, rfl⟩
      | read address =>
          cases named
          rw [answer, read_of_not_isWithin outside]
          exact ⟨rfl, rfl⟩
      | write address box =>
          cases named
          rw [answer, write_of_not_isWithin outside]
          exact ⟨rfl, rfl⟩
      | resolve address =>
          cases named
          rw [answer, resolve_of_not_isWithin outside]
          exact ⟨rfl, rfl⟩
      | size => cases named
      | snapshot => cases named
  | got within =>
      rw [answer, get_of_isWithin within]
      exact ⟨rfl, rfl⟩
  | readBox within occupied =>
      rw [answer, read_of_content occupied]
      exact ⟨rfl, rfl⟩
  | readEmpty within empty =>
      rw [answer, read_of_empty within empty]
      exact ⟨rfl, rfl⟩
  | @wrote address box within =>
      obtain ⟨changed, written, updated⟩ := write_of_isWithin within box
      rw [answer, written]
      refine ⟨rfl, ?_⟩
      rw [plain, plain, updated.content, updated.bound]
  | direct within =>
      obtain ⟨tile, resolved, same⟩ := (Locates.direct within).resolve
      rw [answer, resolved, ← same]
      exact ⟨rfl, rfl⟩
  | indirect within pointer goal =>
      obtain ⟨tile, resolved, same⟩ := (Locates.indirect pointer goal).resolve
      rw [answer, resolved, ← same]
      exact ⟨rfl, rfl⟩
  | emptyPointer within empty =>
      rw [answer, resolve_of_empty within empty]
      exact ⟨rfl, rfl⟩
  | letterPointer within pointer =>
      rw [answer, resolve_of_letter pointer]
      exact ⟨rfl, rfl⟩
  | pointerOutside within pointer outside =>
      rw [answer, resolve_of_pointer pointer, place_of_not_isWithin outside]
      exact ⟨rfl, rfl⟩
  | sized spans fits =>
      rw [spans.unique floor.spans_extent] at fits ⊢
      rw [answer, size?_of_lt fits]
      exact ⟨rfl, rfl⟩
  | oversized spans large =>
      rw [spans.unique floor.spans_extent] at large
      rw [answer, size?_of_le large]
      exact ⟨rfl, rfl⟩
  | listed lists =>
      rw [lists.unique floor.lists_snapshot]
      exact ⟨rfl, rfl⟩

/-- The plain floor allows an answer to every request. -/
theorem exists_answers (floor : Floor) (request : Request) :
    ∃ reply next, floor.plain.Answers request reply next := by
  cases request with
  | get address =>
      by_cases within : IsWithin floor.bound address
      · exact ⟨_, _, .got within⟩
      · exact ⟨_, _, .outside rfl within⟩
  | read address =>
      by_cases within : IsWithin floor.bound address
      · cases content : floor.content address with
        | none => exact ⟨_, _, .readEmpty within content⟩
        | some box => exact ⟨_, _, .readBox within content⟩
      · exact ⟨_, _, .outside rfl within⟩
  | write address box =>
      by_cases within : IsWithin floor.bound address
      · exact ⟨_, _, .wrote within⟩
      · exact ⟨_, _, .outside rfl within⟩
  | resolve address =>
      obtain ⟨index, indirect⟩ := address
      by_cases within : IsWithin floor.bound index
      · cases indirect with
        | false => exact ⟨_, _, .direct within⟩
        | true =>
            match content : floor.content index with
            | none => exact ⟨_, _, .emptyPointer within content⟩
            | some (.letter letter) => exact ⟨_, _, .letterPointer within content⟩
            | some (.number number) =>
                by_cases goal : IsWithin floor.bound number.value
                · exact ⟨_, _, .indirect within content goal⟩
                · exact ⟨_, _, .pointerOutside within content goal⟩
      · exact ⟨_, _, .outside rfl within⟩
  | size =>
      by_cases fits : floor.extent < Nat.pow 2 63
      · exact ⟨_, _, .sized floor.spans_extent fits⟩
      · exact ⟨_, _, .oversized floor.spans_extent (Nat.not_lt.mp fits)⟩
  | snapshot => exact ⟨_, _, .listed floor.lists_snapshot⟩

/-- The floor and the plain floor answer alike. -/
theorem answers_iff :
    floor.plain.Answers request reply next ↔
      reply = (floor.answer request).1 ∧ next = (floor.answer request).2.plain := by
  constructor
  · exact answer_of_answers
  · rintro ⟨rfl, rfl⟩
    obtain ⟨reply, next, answers⟩ := floor.exists_answers request
    obtain ⟨sameReply, sameNext⟩ := answer_of_answers answers
    rwa [sameReply, sameNext] at answers

end Answer

theorem runs_iff {requests : List Request} {replies : List Reply} {final : PlainFloor} :
    floor.plain.Runs requests replies final ↔
      replies = (floor.answerAll requests).1 ∧ final = (floor.answerAll requests).2.plain := by
  induction requests generalizing floor replies with
  | nil =>
      constructor
      · intro runs
        cases runs
        exact ⟨rfl, rfl⟩
      · rintro ⟨rfl, rfl⟩
        exact .nil floor.plain
  | cons request rest inductionHypothesis =>
      constructor
      · intro runs
        cases runs with
        | cons answers runs =>
            obtain ⟨sameReply, sameNext⟩ := answers_iff.mp answers
            rw [sameNext] at runs
            obtain ⟨sameReplies, sameFinal⟩ := inductionHypothesis.mp runs
            rw [sameReply, sameReplies]
            exact ⟨rfl, sameFinal⟩
      · rintro ⟨rfl, rfl⟩
        exact .cons (answers_iff.mpr ⟨rfl, rfl⟩) (inductionHypothesis.mpr ⟨rfl, rfl⟩)

section AnswerAll

variable {requests : List Request}

theorem runs_answerAll (floor : Floor) (requests : List Request) :
    floor.plain.Runs requests (floor.answerAll requests).1 (floor.answerAll requests).2.plain :=
  runs_iff.mpr ⟨rfl, rfl⟩

theorem bound_answerAll (floor : Floor) (requests : List Request) :
    (floor.answerAll requests).2.bound = floor.bound :=
  (runs_answerAll floor requests).bound_eq

theorem content_answerAll {address : Int} (within : IsWithin floor.bound address)
    (requests : List Request) :
    (floor.answerAll requests).2.content address =
      (lastBrought? address requests).or (floor.content address) :=
  (runs_answerAll floor requests).content_eq within

/-- A request that is refused leaves the floor as it was. -/
theorem answer_of_refused {request : Request} {error : TileError}
    (refused : (floor.answer request).1 = .refused error) : (floor.answer request).2 = floor := by
  have answers : floor.plain.Answers request (.refused error) (floor.answer request).2.plain :=
    answers_iff.mpr ⟨refused.symm, rfl⟩
  have same := answers.eq_of_refused
  exact ext_content (congrArg PlainFloor.bound same) (congrArg PlainFloor.content same)

theorem isWithin_of_resolve {given : Address} {tile : Nat}
    (found : floor.resolve given = .ok tile) : IsWithin floor.bound (tile : Int) :=
  isWithin_natCast_iff.mpr (resolve_eq_ok found).1

theorem Holds.content_eq {initial : Table Int Box} (holds : floor.Holds initial) (address : Int) :
    floor.content address = initial.find? address := by
  cases address with
  | ofNat tile => exact holds.tiles tile
  | negSucc number =>
      symm
      change initial.find? (.negSucc number) = none
      rw [Table.find?_eq_none_iff]
      intro listed
      obtain ⟨entry, member, same⟩ := List.mem_map.mp listed
      obtain ⟨tile, natural, -⟩ := holds.placed entry member
      rw [same] at natural
      cases natural

end AnswerAll

/-- A floor that was laid out answers every sequence of requests like the plain floor with the same
boxes and the same bound. -/
theorem answers_like_plain {initial : Table Int Box} {bound : Option Int}
    (laid : lay initial bound = .ok floor) (requests : List Request) :
    (floor.plain.bound.map Int.ofNat = bound ∧
      ∀ address, floor.plain.content address = initial.find? address) ∧
    (∀ replies final, floor.plain.Runs requests replies final ↔
      replies = (floor.answerAll requests).1 ∧ final = (floor.answerAll requests).2.plain) ∧
    (∀ address, IsWithin floor.bound address → (floor.answerAll requests).2.get address =
      .ok ((lastBrought? address requests).or (initial.find? address))) ∧
    (∀ given tile, (floor.answerAll requests).2.resolve given = .ok tile → ∀ later box,
      (∃ found, ((floor.answerAll requests).2.answerAll later).2.get tile = .ok found) ∧
      ∃ changed, ((floor.answerAll requests).2.answerAll later).2.write tile box = .ok changed) ∧
    (∀ request error, ((floor.answerAll requests).2.answer request).1 = .refused error →
      ((floor.answerAll requests).2.answer request).2 = (floor.answerAll requests).2) ∧
    ((∀ last, bound = some last → Numeral.isWritable last = true) →
      (∀ request ∈ requests, request.IsShort) →
      ∀ error, .refused error ∈ (floor.answerAll requests).1 → error.IsWritable) := by
  obtain ⟨sameBound, holds⟩ := lay_eq_ok_iff.mp laid
  refine ⟨⟨sameBound, holds.content_eq⟩, fun replies final => runs_iff, ?_, ?_, ?_, ?_⟩
  · intro address within
    have inside : IsWithin (floor.answerAll requests).2.bound address := by
      rw [bound_answerAll]
      exact within
    rw [get_of_isWithin inside, content_answerAll within, holds.content_eq]
  · intro given tile found later box
    have inside := isWithin_of_resolve found
    rw [← bound_answerAll _ later] at inside
    obtain ⟨changed, written, -⟩ := write_of_isWithin inside box
    exact ⟨⟨_, get_of_isWithin inside⟩, changed, written⟩
  · intro request error refused
    exact answer_of_refused refused
  · intro writable short error refused
    apply (runs_answerAll floor requests).isWritable _ short refused
    intro last given
    apply writable
    rw [← sameBound]
    exact congrArg (Option.map Int.ofNat) given

/-- The last tile of this floor holds a letter. -/
def letterFloor : Floor := (bare (some 3)).put ⟨3, by decide⟩ (.letter ⟨'K', by decide, by decide⟩)

theorem lay_letterFloor :
    lay ⟨[(3, .letter ⟨'K', by decide, by decide⟩)], by decide⟩ (some 3) = .ok letterFloor := rfl

theorem answers_like_plain_letter :
    (letterFloor.answerAll [.get 4, .resolve ⟨3, true⟩,
      .write 3 (.number ⟨7, by decide, by decide⟩), .read 3]).1 =
    [.refused (.outside 4 (some 3)), .refused (.letterPointer 3 ⟨'K', by decide, by decide⟩),
      .written, .box (.number ⟨7, by decide, by decide⟩)] := by
  obtain ⟨⟨-, content⟩, runs, -⟩ := answers_like_plain lay_letterFloor [.get 4, .resolve ⟨3, true⟩,
    .write 3 (.number ⟨7, by decide, by decide⟩), .read 3]
  have within : IsWithin (some 3) 3 := isWithin_natCast_iff.mpr rfl
  have beyond : ¬IsWithin (some 3) 4 := fun inside => absurd (inside.2 3 rfl) (by decide)
  have updated : Function.update letterFloor.plain.content 3
      (some (.number ⟨7, by decide, by decide⟩)) 3 =
        some (.number ⟨7, by decide, by decide⟩) := Function.update_self ..
  exact ((runs _ _).mp (.cons (.outside rfl beyond) (.cons (.letterPointer within (content 3))
    (.cons (.wrote within) (.cons (.readBox within updated) (.nil _)))))).1.symm

end Floor

end OfficeMachine
