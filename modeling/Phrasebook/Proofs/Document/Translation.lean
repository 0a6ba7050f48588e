import Phrasebook.Proofs.Document.Entry
import Phrasebook.Proofs.Document.Notes

/-!
# Documents and their forests

The recursion reads an item exactly if the format lets it translate, into the node that it translates
into, and it fails exactly with the fault that the format puts first. With the equality of the frames
and the recursion this is what the reading of a decoded document answers.
-/

namespace Phrasebook.Document

open Format Outcome

variable {codes : List Text} {frame : Frame} {item : Datum} {notes after : List Note}

/-! ### One item without its children -/

theorem readKeyed_record {parent : Option Text} {index : Nat} {object : Fields} :
    readKeyed parent index (.record object) notes =
      match readKey parent index object with
      | .error fault => (.error fault, notes)
      | .ok key => (.ok ⟨key, KeyPath.join parent key, object⟩, (keyNotes parent key).reverse ++ notes) := by
  simp only [readKeyed, keyNotes]
  cases readKey parent index object with
  | error fault => rfl
  | ok key => dsimp only; split <;> rfl

theorem readItem_notObject (other : ∀ object, item ≠ .record object) :
    readItem codes frame item notes =
      (.error (.problem (.malformedSource (.notAnObject frame.index item.kindName) frame.parent)), notes) := by
  unfold readItem readKeyed
  cases item with
  | record object => exact absurd rfl (other object)
  | _ => rfl

theorem readItem_record {object : Fields} :
    readItem codes frame (.record object) notes =
      match readKey frame.parent frame.index object with
      | .error fault => (.error fault, notes)
      | .ok key =>
        ((readEntry codes key (KeyPath.join frame.parent key) object).mapError .problem,
          (keyNotes frame.parent key).reverse ++ notes) := by
  rw [readItem, readKeyed_record]
  cases readKey frame.parent frame.index object <;> rfl

/-- The entry of an object that says something. -/
def entryOf (parent : Option Text) (object : Fields) (key : Text) (texts : LocalTexts) : Entry :=
  ⟨key, KeyPath.join parent key, texts, given? object childrenField⟩

theorem readItem_of_head (frame : Frame) (notes : List Note) {object : Fields} {key : Text}
    {texts : LocalTexts} (distinct : codes.Nodup) (head : Head codes object key texts) :
    readItem codes frame (.record object) notes =
      (.ok (entryOf frame.parent object key texts), (keyNotes frame.parent key).reverse ++ notes) := by
  rw [readItem_record, readKey_eq_ok.mpr head.keyed]
  simp only [(readEntry_eq_ok distinct head.keyed).mpr ⟨texts, head, rfl⟩, entryOf, Except.mapError]

theorem head_of_readItem {entry : Entry} (distinct : codes.Nodup)
    (read : readItem codes frame item notes = (.ok entry, after)) :
    ∃ object key texts, item = .record object ∧ Head codes object key texts ∧
      entry = entryOf frame.parent object key texts ∧
        after = (keyNotes frame.parent key).reverse ++ notes := by
  cases item with
  | record object =>
    rw [readItem_record] at read
    split at read
    · cases read
    · rename_i key keyRead
      have hasKey := readKey_eq_ok.mp keyRead
      simp only [Prod.mk.injEq, mapError_eq_ok] at read
      rcases (readEntry_eq_ok distinct hasKey).mp read.1 with ⟨texts, head, entryEq⟩
      exact ⟨object, key, texts, rfl, head, entryEq, read.2.symm⟩
  | _ => rw [readItem_notObject (by simp)] at read; cases read

/-- The key of an object is at fault exactly if the format puts a fault of its key first. -/
theorem headFault_of_readKey {parent : Option Text} {index : Nat} {object : Fields}
    {first fault : Fault} (failed : readKey parent index object = .error first) :
    HeadFault codes parent index object fault ↔ first = fault := by
  have noKey : ∀ {key : Text}, ¬HasKey object key := by
    intro key hasKey
    rw [readKey_eq_ok.mpr hasKey] at failed
    cases failed
  constructor
  · intro wrong
    have failed' : readKey parent index object = .error fault := by
      apply readKey_eq_error.mpr
      cases wrong with
      | noKey unset => exact Or.inl ⟨unset, rfl⟩
      | notKey given invalid => exact Or.inr ⟨_, given, invalid, rfl⟩
      | flag hasKey | text hasKey | incomplete _ hasKey | empty hasKey => exact absurd hasKey noKey
    simpa using failed.symm.trans failed'
  · rintro rfl
    rcases readKey_eq_error.mp failed with ⟨unset, rfl⟩ | ⟨value, given, invalid, rfl⟩
    · exact .noKey unset
    · exact .notKey given invalid

/-- A fault is met in an object apart from its key exactly if the format puts it first. -/
theorem mapError_readEntry {parent : Option Text} {index : Nat} {object : Fields} {key : Text} {fault : Fault}
    (distinct : codes.Nodup) (hasKey : HasKey object key) :
    (readEntry codes key (KeyPath.join parent key) object).mapError Fault.problem = .error fault ↔
      HeadFault codes parent index object fault := by
  rw [mapError_eq_error]
  constructor
  · rintro ⟨problem, failed, rfl⟩
    exact (readEntry_eq_error distinct hasKey).mp failed
  · intro wrong
    cases fault with
    | problem problem => exact ⟨problem, (readEntry_eq_error distinct hasKey).mpr wrong, rfl⟩
    | badKey value =>
      cases wrong with
      | notKey given invalid =>
        have isKey := given.1.symm.trans hasKey.given
        exact absurd hasKey.valid (invalid key (by simpa using isKey))

/-- The first fault in an item, that in its children apart. -/
theorem readItem_eq_error (frame : Frame) (item : Datum) (notes : List Note) (fault : Fault)
    (distinct : codes.Nodup) :
    (readItem codes frame item notes).1 = .error fault ↔
      ((∀ object, item ≠ .record object) ∧
          fault = .problem (.malformedSource (.notAnObject frame.index item.kindName) frame.parent)) ∨
        ∃ object, item = .record object ∧
          HeadFault codes frame.parent frame.index object fault := by
  cases item with
  | record object =>
    rw [readItem_record]
    simp only [Datum.record.injEq, ne_eq, forall_eq', false_and, false_or, exists_eq_left']
    cases keyRead : readKey frame.parent frame.index object with
    | error first => simp [headFault_of_readKey keyRead]
    | ok key => exact mapError_readEntry distinct (readKey_eq_ok.mp keyRead)
  | _ => rw [readItem_notObject (by simp)]; simp [eq_comm]

/-! ### Items with their children -/

/-- In a frame and after some notes, the recursion reads an item as the format says. -/
structure ReadsRight (codes : List Text) (item : Datum) (frame : Frame) (notes : List Note) :
    Prop where
  ok : ∀ node after,
    readNode codes frame item notes = (.ok node, after) ↔
      Translates codes item node ∧ after = (nodeNotes frame.parent node).reverse ++ notes
  error : ∀ fault,
    (readNode codes frame item notes).1 = .error fault ↔
      Faulty codes frame.parent frame.index item fault

theorem ReadsRight.not_translates {fault : Fault} (right : ReadsRight codes item frame notes)
    (read : readNode codes frame item notes = (.error fault, after)) (node : Node) :
    ¬Translates codes item node := by
  intro translates
  have read' := (right.ok node _).mpr ⟨translates, rfl⟩
  rw [read] at read'
  cases read'

theorem ReadsRight.not_faulty {node : Node} (right : ReadsRight codes item frame notes)
    (read : readNode codes frame item notes = (.ok node, after)) (fault : Fault) :
    ¬Faulty codes frame.parent frame.index item fault := by
  intro faulty
  have read' := (right.error fault).mpr faulty
  rw [read] at read'
  cases read'

theorem readRest_eq_ok (frame : Frame) {nodes : List Node}
    (right : ∀ item ∈ frame.items, ∀ frame notes, ReadsRight codes item frame notes) :
    readRest codes frame notes = (.ok nodes, after) ↔
      ∃ later, List.Forall₂ (Translates codes) frame.items later ∧
        nodes = frame.nodes.reverse ++ later ∧
          after = (siblingNotes frame.parent (frame.nodes.map Node.key) later).reverse ++ notes := by
  induction left : frame.items generalizing frame notes with
  | nil =>
    rw [readRest_nil left]
    simp [siblingNotes, eq_comm]
  | cons item rest ih =>
    have rightItem := right item (by simp [left])
    have rightRest : ∀ other ∈ rest, ∀ frame notes, ReadsRight codes other frame notes := by
      intro other member
      exact right other (by simp [left, member])
    simp only [List.forall₂_cons_left_iff]
    rcases read : readNode codes frame item notes with ⟨fault | node, middle⟩
    · rw [readRest_cons_error left read]
      simp only [Prod.mk.injEq, reduceCtorEq, false_and, false_iff, not_exists, not_and]
      rintro _ ⟨node, _, translates, _⟩
      exact absurd translates ((rightItem frame notes).not_translates read node)
    · rcases ((rightItem _ _).ok _ _).mp read with ⟨translates, rfl⟩
      rw [readRest_cons_ok left read, ih _ (by simpa [register_eq, Frame.afterFirst] using rightRest)
        (by simp [register_eq, Frame.afterFirst])]
      simp only [register_eq, Frame.afterFirst]
      constructor
      · rintro ⟨later, others, rfl, rfl⟩
        refine ⟨node :: later, ⟨node, later, translates, others, rfl⟩, by simp, ?_⟩
        simp [siblingNotes]
      · rintro ⟨_, ⟨other, later, otherTranslates, others, rfl⟩, rfl, rfl⟩
        have same := ((rightItem frame notes).ok other _).mpr ⟨otherTranslates, rfl⟩
        rw [read] at same
        cases same
        exact ⟨later, others, by simp, by simp [siblingNotes]⟩

theorem readRest_eq_error (frame : Frame) {fault : Fault}
    (right : ∀ item ∈ frame.items, ∀ frame notes, ReadsRight codes item frame notes) :
    (readRest codes frame notes).1 = .error fault ↔
      ∃ before item rest, frame.items = before ++ item :: rest ∧
        (∀ earlier ∈ before, ∃ node, Translates codes earlier node) ∧
          Faulty codes frame.parent (frame.index + before.length) item fault := by
  induction left : frame.items generalizing frame notes with
  | nil =>
    rw [readRest_nil left]
    simp
  | cons item rest ih =>
    have rightItem := right item (by simp [left])
    have rightRest : ∀ other ∈ rest, ∀ frame notes, ReadsRight codes other frame notes := by
      intro other member
      exact right other (by simp [left, member])
    rcases read : readNode codes frame item notes with ⟨first | node, middle⟩
    · rw [readRest_cons_error left read]
      have here := (rightItem frame notes).error fault
      simp only [read, Except.error.injEq] at here ⊢
      constructor
      · intro failed
        exact ⟨[], item, rest, rfl, by simp, here.mp failed⟩
      · rintro ⟨before, other, after, split, sound, faulty⟩
        cases before with
        | nil =>
          cases split
          exact here.mpr faulty
        | cons earlier before =>
          cases split
          rcases sound item (by simp) with ⟨node, translates⟩
          exact absurd translates ((rightItem frame notes).not_translates read node)
    · have translates := (((rightItem _ _).ok _ _).mp read).1
      rw [readRest_cons_ok left read, ih _ (by simpa [register_eq, Frame.afterFirst] using rightRest)
        (by simp [register_eq, Frame.afterFirst])]
      simp only [register_eq, Frame.afterFirst]
      constructor
      · rintro ⟨before, other, after, rfl, sound, faulty⟩
        refine ⟨item :: before, other, after, rfl, ?_, ?_⟩
        · simpa using ⟨⟨node, translates⟩, sound⟩
        · rw [List.length_cons, Nat.add_comm before.length 1, ← Nat.add_assoc]
          exact faulty
      · rintro ⟨before, other, after, split, sound, faulty⟩
        cases before with
        | nil =>
          cases split
          exact absurd faulty ((rightItem frame notes).not_faulty read fault)
        | cons earlier before =>
          cases split
          refine ⟨before, other, after, rfl, fun earlier member => sound earlier (by simp [member]), ?_⟩
          rw [List.length_cons, Nat.add_comm before.length 1, ← Nat.add_assoc] at faulty
          exact faulty

/-! ### Every item -/

theorem head_unique {object : Fields} {key other : Text} {texts otherTexts : LocalTexts}
    (distinct : codes.Nodup) (head : Head codes object key texts)
    (otherHead : Head codes object other otherTexts) : other = key ∧ otherTexts = texts := by
  have first := readItem_of_head (.ofItems [] none [] .empty) [] distinct head
  have second := readItem_of_head (.ofItems [] none [] .empty) [] distinct otherHead
  have same := first.symm.trans second
  simp only [entryOf, Prod.mk.injEq, Except.ok.injEq, Entry.mk.injEq] at same
  exact ⟨same.1.1.symm, same.1.2.2.1.symm⟩

theorem not_headFault_of_head {parent : Option Text} {index : Nat} {object : Fields} {key : Text}
    {texts : LocalTexts} {fault : Fault} (distinct : codes.Nodup)
    (head : Head codes object key texts) : ¬HeadFault codes parent index object fault := by
  intro wrong
  have failed := (readItem_eq_error ⟨[], index, parent, [], .empty, []⟩ _ [] _ distinct).mpr
    (Or.inr ⟨object, rfl, wrong⟩)
  rw [readItem_of_head _ _ distinct head] at failed
  cases failed

theorem arrayItems_notList {parent : Option Text} {value : Datum}
    (other : ∀ items, value ≠ .list items) :
    arrayItems parent value = .error (.malformedSource (.notAnArray parent.isSome) parent) := by
  cases value with
  | list items => exact absurd rfl (other items)
  | _ => rfl

theorem weight_le_of_mem {items : List Datum} (member : item ∈ items) :
    weight item ≤ weightItems items := by
  induction items with
  | nil => cases member
  | cons first rest ih =>
    simp only [weightItems]
    rcases List.mem_cons.mp member with rfl | later
    · omega
    · have := ih later
      omega

theorem close_eq_ok {entry : Entry} {read : Noted (List Node)} {node : Node} :
    entry.close read = (.ok node, after) ↔
      ∃ children, read = (.ok children, after) ∧ node = .branch entry.key entry.texts children := by
  rcases read with ⟨fault | children, last⟩
  · simp [Entry.close]
  · simp only [Entry.close, Prod.mk.injEq, Except.ok.injEq]
    constructor
    · rintro ⟨rfl, rfl⟩
      exact ⟨children, ⟨rfl, rfl⟩, rfl⟩
    · rintro ⟨_, ⟨rfl, rfl⟩, rfl⟩
      exact ⟨rfl, rfl⟩

theorem close_eq_error {entry : Entry} {read : Noted (List Node)} {fault : Fault} :
    (entry.close read).1 = .error fault ↔ read.1 = .error fault := by
  rcases read with ⟨first | children, last⟩ <;> simp [Entry.close]

/-- An item that is refused before its children are looked at. -/
theorem readsRight_of_error {first : Fault} (distinct : codes.Nodup)
    (read : readItem codes frame item notes = (.error first, after)) :
    ReadsRight codes item frame notes := by
  have noHead : ∀ {object key texts}, item = .record object → ¬Head codes object key texts := by
    rintro object key texts rfl head
    rw [readItem_of_head frame notes distinct head] at read
    cases read
  constructor
  · intro node last
    rw [readNode_of_error read]
    simp only [Prod.mk.injEq, reduceCtorEq, false_and, false_iff, not_and]
    intro translates
    cases translates with
    | leaf head | branch head => exact absurd head (noHead rfl)
  · intro fault
    have here := readItem_eq_error frame item notes fault distinct
    rw [read] at here
    rw [readNode_of_error read]
    simp only [Except.error.injEq] at here ⊢
    rw [here]
    constructor
    · rintro (⟨other, rfl⟩ | ⟨object, rfl, wrong⟩)
      · exact .notObject other
      · exact .head wrong
    · intro faulty
      cases faulty with
      | notObject other => exact Or.inl ⟨other, rfl⟩
      | head wrong => exact Or.inr ⟨_, rfl, wrong⟩
      | notArray head | child head => exact absurd head (noHead rfl)

section Objects

variable {object : Fields} {key : Text} {texts : LocalTexts}

theorem readsRight_of_leaf (distinct : codes.Nodup) (head : Head codes object key texts)
    (unset : Unset object childrenField) : ReadsRight codes (.record object) frame notes := by
  have read := readItem_of_head frame notes distinct head
  have node := readNode_of_leaf read (given?_eq_none.mpr unset)
  have notHeld : ∀ {value}, ¬Holds object childrenField value :=
    fun holds => not_unset_of_holds holds unset
  constructor
  · intro other last
    rw [node]
    simp only [Prod.mk.injEq, Except.ok.injEq]
    constructor
    · rintro ⟨rfl, rfl⟩
      exact ⟨.leaf head unset, rfl⟩
    · rintro ⟨translates, rfl⟩
      cases translates with
      | leaf otherHead =>
        rcases head_unique distinct head otherHead with ⟨rfl, rfl⟩
        exact ⟨rfl, rfl⟩
      | branch _ given => exact absurd (holds_of_given given (by simp)) notHeld
  · intro fault
    rw [node]
    simp only [reduceCtorEq, false_iff]
    intro faulty
    cases faulty with
    | notObject other => exact other object rfl
    | head wrong => exact not_headFault_of_head distinct head wrong
    | notArray _ holds => exact notHeld holds
    | child _ given => exact notHeld (holds_of_given given (by simp))

theorem readsRight_of_notArray {value : Datum} (distinct : codes.Nodup)
    (head : Head codes object key texts) (holds : Holds object childrenField value)
    (other : ∀ items, value ≠ .list items) : ReadsRight codes (.record object) frame notes := by
  have read := readItem_of_head frame notes distinct head
  have node := readNode_of_notArray read (given?_eq_some.mpr holds) (arrayItems_notList other)
  have notList : ∀ {items}, object.get? childrenField ≠ some (.list items) := by
    intro items given
    exact other items (by simpa using holds.1.symm.trans given)
  constructor
  · intro made last
    rw [node]
    simp only [Prod.mk.injEq, reduceCtorEq, false_and, false_iff, not_and]
    intro translates
    cases translates with
    | leaf _ unset => exact absurd unset (not_unset_of_holds holds)
    | branch _ given => exact absurd given notList
  · intro fault
    rw [node]
    simp only [Except.error.injEq]
    constructor
    · rintro rfl
      exact .notArray head holds other
    · intro faulty
      cases faulty with
      | notObject other => exact absurd rfl (other object)
      | head wrong => exact absurd wrong (not_headFault_of_head distinct head)
      | notArray otherHead =>
        rcases head_unique distinct head otherHead with ⟨rfl, rfl⟩
        rfl
      | child _ given => exact absurd given notList

/-- An object with an array of children that are read as the format says. -/
theorem readsRight_of_array {items : List Datum} (distinct : codes.Nodup)
    (head : Head codes object key texts)
    (given : object.get? childrenField = some (.list items))
    (right : ∀ child ∈ items, ∀ frame notes, ReadsRight codes child frame notes) :
    ReadsRight codes (.record object) frame notes := by
  have read := readItem_of_head frame notes distinct head
  have owned := given?_eq_some.mpr (holds_of_given given (by simp))
  have node := readNode_of_array read owned rfl
  have sameItems : ∀ {others}, object.get? childrenField = some (.list others) → others = items := by
    intro others otherGiven
    simpa using otherGiven.symm.trans given
  constructor
  · intro made last
    rw [node, close_eq_ok]
    simp only [readRest_eq_ok ((entryOf frame.parent object key texts).open items) right]
    constructor
    · rintro ⟨_, ⟨children, below, rfl, rfl⟩, rfl⟩
      refine ⟨.branch head given below, ?_⟩
      simp [Entry.open, Frame.ofItems, entryOf, nodeNotes]
    · rintro ⟨translates, rfl⟩
      cases translates with
      | leaf _ unset => exact absurd unset (not_unset_of_holds (holds_of_given given (by simp)))
      | branch otherHead otherGiven below =>
        rcases head_unique distinct head otherHead with ⟨rfl, rfl⟩
        cases sameItems otherGiven
        refine ⟨_, ⟨_, below, rfl, ?_⟩, rfl⟩
        simp [Entry.open, Frame.ofItems, entryOf, nodeNotes]
  · intro fault
    rw [node, close_eq_error,
      readRest_eq_error ((entryOf frame.parent object key texts).open items) right]
    simp only [Entry.open, Frame.ofItems, entryOf, Nat.zero_add]
    constructor
    · rintro ⟨before, child, rest, rfl, sound, faulty⟩
      exact .child head given sound faulty
    · intro faulty
      cases faulty with
      | notObject other => exact absurd rfl (other object)
      | head wrong => exact absurd wrong (not_headFault_of_head distinct head)
      | notArray _ holds other =>
        exact absurd (by simpa using holds.1.symm.trans given) (other items)
      | child otherHead otherGiven sound wrong =>
        rcases head_unique distinct head otherHead with ⟨rfl, rfl⟩
        cases sameItems otherGiven
        exact ⟨_, _, _, rfl, sound, wrong⟩

end Objects

/-- The recursion reads every item as the format says. -/
theorem readsRight (distinct : codes.Nodup) (item : Datum) (frame : Frame) (notes : List Note) :
    ReadsRight codes item frame notes := by
  induction size : weight item using Nat.strongRecOn generalizing item frame notes with
  | ind size ih =>
    subst size
    rcases read : readItem codes frame item notes with ⟨fault | entry, after⟩
    · exact readsRight_of_error distinct read
    · rcases head_of_readItem distinct read with ⟨object, key, texts, rfl, head, _⟩
      cases children : given? object childrenField with
      | none => exact readsRight_of_leaf distinct head (given?_eq_none.mp children)
      | some value =>
        have holds := given?_eq_some.mp children
        by_cases array : ∃ items, value = .list items
        · rcases array with ⟨items, rfl⟩
          apply readsRight_of_array distinct head holds.1
          intro child member frame notes
          refine ih _ ?_ child frame notes rfl
          have := weight_get?_le holds.1
          have := weight_le_of_mem member
          simp only [weight] at *
          omega
        · exact readsRight_of_notArray distinct head holds (not_exists.mp array)

/-! ### Documents -/

theorem readForest_eq_ok (data : Datum) (roots : List Node) (notes : List Note)
    (distinct : codes.Nodup) :
    readForest codes data = (.ok roots, notes) ↔
      TranslatesDocument codes data roots ∧ notes = forestNotes roots := by
  rw [readForest_eq_readRest]
  by_cases array : ∃ items, data = .list items
  · rcases array with ⟨items, rfl⟩
    have below : readRest codes (.ofItems items none [] .empty) [] = (.ok roots, notes.reverse) ↔ _ :=
      readRest_eq_ok _ fun child _ => readsRight distinct child
    simp only [Frame.ofItems, List.reverse_nil, List.nil_append, List.append_nil, List.map_nil,
      List.reverse_inj] at below
    simp only [arrayItems, Frame.ofItems, Prod.ext_iff, List.reverse_eq_iff] at below ⊢
    rw [below]
    constructor
    · rintro ⟨later, translated, rfl, rfl⟩
      exact ⟨⟨items, rfl, translated⟩, rfl⟩
    · rintro ⟨⟨_, same, translated⟩, rfl⟩
      cases same
      exact ⟨roots, translated, rfl, rfl⟩
  · have other := not_exists.mp array
    simp only [arrayItems_notList other, Prod.mk.injEq, reduceCtorEq, false_and, false_iff, not_and]
    rintro ⟨items, rfl, _⟩
    exact absurd rfl (other items)

theorem readForest_eq_error (data : Datum) (fault : Fault)
    (distinct : codes.Nodup) :
    (readForest codes data).1 = .error fault ↔ FaultyDocument codes data fault := by
  rw [readForest_eq_readRest]
  by_cases array : ∃ items, data = .list items
  · rcases array with ⟨items, rfl⟩
    have below : (readRest codes (.ofItems items none [] .empty) []).1 = .error fault ↔ _ :=
      readRest_eq_error _ fun child _ => readsRight distinct child
    simp only [Frame.ofItems, Nat.zero_add] at below
    simp only [arrayItems, Frame.ofItems, below]
    constructor
    · rintro ⟨before, item, rest, rfl, sound, faulty⟩
      exact .item sound faulty
    · intro faulty
      cases faulty with
      | notArray other => exact absurd rfl (other items)
      | item sound faulty => exact ⟨_, _, _, rfl, sound, faulty⟩
  · have other := not_exists.mp array
    simp only [arrayItems_notList other, Except.error.injEq, Option.isSome_none]
    constructor
    · rintro rfl
      exact .notArray other
    · intro faulty
      cases faulty with
      | notArray => rfl
      | item => exact absurd rfl (other _)

/-- What the reading of a document makes of its forest and of the notes on it. -/
theorem readData_result [Host] (registry : Registry) (data : Datum) (hash : Text) :
    (readData registry data hash).result =
      match readForest registry.codes data with
      | (.ok roots, notes) =>
        .ok (Tree.make roots registry.codes hash (notes.filterMap Note.warning?))
      | (.error fault, _) => .error fault.failure := by
  unfold readData
  rcases readForest registry.codes data with ⟨_ | _, _⟩ <;> rfl

theorem codes_nodup (registry : Registry) : registry.codes.Nodup := registry.codes_distinct

theorem readData_eq_ok [Host] {registry : Registry} {data : Datum} {hash : Text} {tree : Tree} :
    (readData registry data hash).result = .ok tree ↔
      ∃ roots, TranslatesDocument registry.codes data roots ∧
        tree = Tree.make roots registry.codes hash (forestWarnings roots) := by
  have reads := fun roots notes => readForest_eq_ok data roots notes (codes_nodup registry)
  rw [readData_result]
  rcases read : readForest registry.codes data with ⟨fault | forest, notes⟩
  · simp only [read, Prod.mk.injEq, reduceCtorEq, false_and, false_iff, not_and] at reads
    simp only [reduceCtorEq, false_iff, not_exists, not_and]
    intro roots translated
    exact absurd rfl (reads roots _ translated)
  · simp only [read, Prod.mk.injEq, Except.ok.injEq] at reads
    simp only [Except.ok.injEq]
    constructor
    · rintro rfl
      rcases (reads forest notes).mp ⟨rfl, rfl⟩ with ⟨translated, rfl⟩
      exact ⟨forest, translated, rfl⟩
    · rintro ⟨roots, translated, rfl⟩
      rcases (reads roots _).mpr ⟨translated, rfl⟩ with ⟨rfl, rfl⟩
      rfl

theorem readData_eq_error [Host] {registry : Registry} {data : Datum} {hash : Text} {failure : Failure} :
    (readData registry data hash).result = .error failure ↔
      ∃ fault, FaultyDocument registry.codes data fault ∧ failure = fault.failure := by
  have fails := fun fault => readForest_eq_error data fault (codes_nodup registry)
  rw [readData_result]
  rcases read : readForest registry.codes data with ⟨fault | forest, notes⟩
  · simp only [read, Except.error.injEq] at fails
    simp only [Except.error.injEq, ← fails, exists_eq_left', eq_comm]
  · simp only [read, reduceCtorEq, false_iff] at fails
    simp only [reduceCtorEq, false_iff, not_exists, not_and]
    intro fault faulty
    exact absurd faulty (fails fault)

/-- A document is read into a tree exactly if it is valid, and the tree holds the forest that the
document translates into, with the warnings about it; otherwise the reading fails with the fault of the
document that comes first. That is a problem, unless the fault is a key that cannot be shown. -/
theorem readData_agrees [Host] (registry : Registry) (data : Datum) (hash : Text) :
    (∀ tree, (readData registry data hash).result = .ok tree ↔
      ∃ roots, TranslatesDocument registry.codes data roots ∧
        tree = Tree.make roots registry.codes hash (forestWarnings roots)) ∧
    ∀ failure, (readData registry data hash).result = .error failure ↔
      ∃ fault, FaultyDocument registry.codes data fault ∧ EndsIn fault failure := by
  constructor
  · intro tree
    exact readData_eq_ok
  · intro failure
    simp only [endsIn_iff]
    exact readData_eq_error

section Example

open Host.Plain

/-- A document in which a list in a thousand lists stands in the place of a key. -/
def deepKeyDocument : Datum := .list [.record [(keyField, .nested 1000)]]

/-- The reading of a document ends without a problem when what stands in the place of a key is nested too deep
to be shown. -/
theorem deep_key_escapes :
    (readData .builtIn deepKeyDocument []).result = .error .nestedTooDeep := by
  have holds : Holds [(keyField, .nested 1000)] keyField (.nested 1000) := ⟨rfl, nofun⟩
  have before : ∀ earlier ∈ [], ∃ node, Translates Registry.builtIn.codes earlier node := nofun
  have first : FaultyDocument Registry.builtIn.codes deepKeyDocument (.badKey (.nested 1000) none) :=
    .item before (.head (.notKey holds nofun))
  exact readData_eq_error.mpr ⟨_, first, endsIn_iff.mp (.tooDeep (Datum.obstacle?_nested 1000))⟩

end Example

end Phrasebook.Document
