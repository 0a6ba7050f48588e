import Phrasebook.Proofs.Document.Recursion
import Phrasebook.Proofs.Document.Translation

/-!
# Documents that resemble each other

Two objects resemble each other if they agree on their keys and flags, and on the texts for the codes of a
registry in one piece and in lines, and if their children resemble each other. The order of their fields is
left open, and so is everything else that is written in them. Two readings of documents that resemble each
other go in step: what they have read differs in nothing but the children still to be read, and so they note
the same and end in the same way.
-/

namespace Phrasebook.Document

open Outcome

/-- The fields of an object that are consulted, that for its children apart. -/
def consultedFields (codes : List Text) : List Text :=
  keyField :: flagField :: (codes ++ codes.map linesField)

/-- Two values differ only in the order of the fields of objects and in fields that are not consulted. -/
inductive Resembles (codes : List Text) : Datum → Datum → Prop
  | same (value : Datum) : Resembles codes value value
  | object {first second : Fields}
      (agree : ∀ name ∈ consultedFields codes, first.get? name = second.get? name)
      (children : Option.Rel (Resembles codes) (first.get? childrenField) (second.get? childrenField)) :
      Resembles codes (.record first) (.record second)
  | array {items others : List Datum} (inOrder : List.Forall₂ (Resembles codes) items others) :
      Resembles codes (.list items) (.list others)

variable {codes : List Text}

instance : Std.Refl (Resembles codes) := ⟨.same⟩

theorem resembles_refl : ∀ value : Option Datum, Option.Rel (Resembles codes) value value
  | none => .none
  | some value => .some (.same value)

theorem isNone_eq_of_rel {value other : Option Datum} (alike : Option.Rel (Resembles codes) value other) :
    value.isNone = other.isNone := by
  cases alike <;> rfl

/-! ### Objects -/

section Objects

variable {first second : Fields}

/-- Objects agree on some fields if they have these fields in whatever order, among whatever others. -/
theorem agree_of_perm {names : List Text} (firstDistinct : (first.map Prod.fst).Nodup)
    (secondDistinct : (second.map Prod.fst).Nodup)
    (rearranged : (first.filter fun field => field.1 ∈ names).Perm
      (second.filter fun field => field.1 ∈ names)) :
    ∀ name ∈ names, first.get? name = second.get? name := by
  intro name listed
  apply Option.ext
  intro value
  have same := rearranged.mem_iff (a := (name, value))
  simp only [List.mem_filter, listed, decide_true, and_true] at same
  rw [Fields.get?, Fields.get?, lookup_eq_some_iff_mem firstDistinct, lookup_eq_some_iff_mem secondDistinct]
  exact same

theorem given?_congr {name : Text} (agree : first.get? name = second.get? name) :
    given? first name = given? second name := by
  rw [given?, given?, agree]

theorem given?_resembles {name : Text}
    (alike : Option.Rel (Resembles codes) (first.get? name) (second.get? name)) :
    Option.Rel (Resembles codes) (given? first name) (given? second name) := by
  rw [given?, given?]
  generalize first.get? name = value at alike ⊢
  generalize second.get? name = other at alike ⊢
  cases alike with
  | none => exact .none
  | some alike =>
    cases alike with
    | same value => exact resembles_refl _
    | object agree children => exact .some (.object agree children)
    | array inOrder => exact .some (.array inOrder)

theorem readCode_congr {keyPath joiner code : Text} (piece : first.get? code = second.get? code)
    (lines : first.get? (linesField code) = second.get? (linesField code)) :
    readCode keyPath joiner first code = readCode keyPath joiner second code := by
  rw [readCode, readCode, given?_congr piece, given?_congr lines]

variable (agree : ∀ name ∈ consultedFields codes, first.get? name = second.get? name)
include agree

theorem readKey_congr {parent : Option Text} {index : Nat} :
    readKey parent index first = readKey parent index second := by
  rw [readKey, readKey, given?_congr (agree keyField (by simp [consultedFields]))]

theorem readFlag_congr {keyPath : Text} : readFlag keyPath first = readFlag keyPath second := by
  rw [readFlag, readFlag, agree flagField (by simp [consultedFields])]

theorem readTexts_congr {keyPath joiner : Text} :
    readTexts keyPath joiner first codes = readTexts keyPath joiner second codes := by
  rw [readTexts, readTexts, List.foldlM_eq_foldl, List.foldlM_eq_foldl]
  apply List.foldl_ext
  intro texts code known
  have piece := agree code (by simp [consultedFields, known])
  have lines := agree (linesField code) (by simp [consultedFields, List.mem_map_of_mem known])
  rw [readCode_congr piece lines]

/-- Objects that agree are read into the same entry, but for the children that are owned by it. -/
theorem readEntry_congr {key keyPath : Text}
    (children : (given? first childrenField).isNone = (given? second childrenField).isNone) :
    readEntry codes key keyPath second =
      (fun entry => { entry with children := given? second childrenField }) <$>
        readEntry codes key keyPath first := by
  simp only [readEntry, readFlag_congr agree, readTexts_congr agree, children]
  cases readFlag keyPath second with
  | error problem => rfl
  | ok flag =>
    simp only [bind, Except.bind]
    cases readTexts keyPath (if flag then [] else "\n") second codes with
    | error problem => rfl
    | ok texts =>
      dsimp only
      cases checkComplete keyPath codes texts with
      | error problem => rfl
      | ok _ =>
        dsimp only
        split <;> rfl

end Objects

/-! ### Items -/

/-- Two entries differ only in their children, and these resemble each other. -/
structure Entry.Resembles (codes : List Text) (entry other : Entry) : Prop where
  key : entry.key = other.key
  keyPath : entry.keyPath = other.keyPath
  texts : entry.texts = other.texts
  children : Option.Rel (Document.Resembles codes) entry.children other.children

/-- Two readings of entries are in step: they have noted the same, and they stopped at the same fault or
have read entries that resemble each other. -/
inductive InStep (codes : List Text) : Noted Entry → Noted Entry → Prop
  | stopped (fault : Fault) (notes : List Note) :
      InStep codes (.error fault, notes) (.error fault, notes)
  | read {entry other : Entry} (alike : Entry.Resembles codes entry other) (notes : List Note) :
      InStep codes (.ok entry, notes) (.ok other, notes)

theorem inStep_refl : ∀ read : Noted Entry, InStep codes read read
  | (.error fault, notes) => .stopped fault notes
  | (.ok _, notes) => .read ⟨rfl, rfl, rfl, resembles_refl _⟩ notes

/-- Two frames stand at the same place of arrays with items that resemble each other. -/
structure Frame.Resembles (codes : List Text) (frame other : Frame) : Prop where
  items : List.Forall₂ (Document.Resembles codes) frame.items other.items
  index : frame.index = other.index
  parent : frame.parent = other.parent
  nodes : frame.nodes = other.nodes

variable {frame second : Frame} {item other : Datum} {notes : List Note}

theorem readItem_frame (index : frame.index = second.index) (parent : frame.parent = second.parent) :
    readItem codes frame item notes = readItem codes second item notes := by
  rw [readItem, readItem, index, parent]

theorem readItem_inStep (notes : List Note) (alike : Resembles codes item other)
    (index : frame.index = second.index) (parent : frame.parent = second.parent) :
    InStep codes (readItem codes frame item notes) (readItem codes second other notes) := by
  rw [readItem_frame index parent]
  cases alike with
  | same => exact inStep_refl _
  | array =>
    rw [readItem_notObject (by simp), readItem_notObject (by simp)]
    exact .stopped _ _
  | object agree children =>
    rename_i fields others
    have below := given?_resembles children
    have owned : (given? fields childrenField).isNone = (given? others childrenField).isNone :=
      isNone_eq_of_rel below
    rw [readItem_record, readItem_record, readKey_congr agree]
    cases readKey second.parent second.index others with
    | error fault => exact .stopped _ _
    | ok key =>
      dsimp only
      rw [readEntry_congr agree owned]
      cases read : readEntry codes key (KeyPath.join second.parent key) fields with
      | error problem => exact .stopped _ _
      | ok entry =>
        have ownedBy := readEntry_children read
        rw [← ownedBy] at below
        have alike : Entry.Resembles codes entry { entry with children := given? others childrenField } :=
          ⟨rfl, rfl, rfl, below⟩
        exact .read alike _

/-- Two values that resemble each other are both arrays, of items that do, or neither is one. -/
theorem arrayItems_resembles (parent : Option Text) {value other : Datum}
    (alike : Resembles codes value other) :
    (∃ problem, arrayItems parent value = .error problem ∧ arrayItems parent other = .error problem) ∨
      ∃ items others, arrayItems parent value = .ok items ∧ arrayItems parent other = .ok others ∧
        List.Forall₂ (Resembles codes) items others := by
  cases alike with
  | same =>
    cases array : arrayItems parent value with
    | error problem => exact Or.inl ⟨problem, rfl, rfl⟩
    | ok items => exact Or.inr ⟨items, items, rfl, rfl, List.forall₂_refl items⟩
  | object => exact Or.inl ⟨_, rfl, rfl⟩
  | array inOrder => exact Or.inr ⟨_, _, rfl, rfl, inOrder⟩

/-! ### Lockstep -/

/-- An item is read like every other that it resembles. -/
def ReadAlike (codes : List Text) (item : Datum) : Prop :=
  ∀ other, Resembles codes item other → ∀ (frame second : Frame) (notes : List Note),
    frame.index = second.index → frame.parent = second.parent →
      readNode codes frame item notes = readNode codes second other notes

theorem readRest_congr (each : ∀ item ∈ frame.items, ReadAlike codes item)
    (alike : Frame.Resembles codes frame second) :
    readRest codes frame notes = readRest codes second notes := by
  -- By the two lists of items in step: both frames go on with the same node and at the same index.
  rcases alike with ⟨items, index, parent, nodes⟩
  generalize left : frame.items = here at each items
  generalize otherLeft : second.items = there at items
  induction items generalizing frame second notes with
  | nil => rw [readRest_nil left, readRest_nil otherLeft, nodes]
  | cons first _ ih =>
    rw [List.forall_mem_cons] at each
    have same := each.1 _ first frame second notes index parent
    rcases read : readNode codes frame _ notes with ⟨fault | node, after⟩
    · rw [readRest_cons_error left read, readRest_cons_error otherLeft (same ▸ read)]
    · rw [readRest_cons_ok left read, readRest_cons_ok otherLeft (same ▸ read)]
      simp only [register_eq, Frame.afterFirst, index, parent, nodes]
      exact ih rfl rfl rfl rfl each.2 rfl

/-- Every item is read like all that it resembles, with everything that is below it. -/
theorem readAlike (item : Datum) : ReadAlike codes item := by
  -- The items of a child array weigh less than the item that owns it.
  induction size : weight item using Nat.strongRecOn generalizing item with
  | ind size ih =>
    subst size
    intro other alike frame second notes index parent
    have step := readItem_inStep notes alike index parent
    rcases read : readItem codes frame item notes with ⟨result, after⟩
    rcases otherRead : readItem codes second other notes with ⟨otherResult, otherAfter⟩
    rw [read, otherRead] at step
    cases step with
    | stopped => rw [readNode_of_error read, readNode_of_error otherRead]
    | @read entry otherEntry alike =>
      rcases alike with ⟨key, keyPath, texts, children⟩
      generalize owned : entry.children = value at children
      generalize otherOwned : otherEntry.children = otherValue at children
      cases children with
      | none => rw [readNode_of_leaf read owned, readNode_of_leaf otherRead otherOwned, key, texts]
      | some below =>
        rcases arrayItems_resembles (some entry.keyPath) below with
          ⟨problem, notArray, otherNotArray⟩ | ⟨items, otherItems, array, otherArray, inOrder⟩
        · rw [keyPath] at otherNotArray
          rw [readNode_of_notArray read owned notArray,
            readNode_of_notArray otherRead otherOwned otherNotArray]
        · rw [keyPath] at otherArray
          have each : ∀ child ∈ items, ReadAlike codes child := by
            intro child member
            refine ih _ ?_ child rfl
            have := readItem_children_weight read owned
            have := arrayItems_weight array
            have := weight_le_of_mem member
            omega
          have opened : Frame.Resembles codes (entry.open items) (otherEntry.open otherItems) :=
            ⟨inOrder, rfl, congrArg some keyPath, rfl⟩
          rw [readNode_of_array read owned array, readNode_of_array otherRead otherOwned otherArray,
            readRest_congr each opened]
          rcases readRest codes (otherEntry.open otherItems) after with ⟨fault | nodes, last⟩
          · rfl
          · simp only [Entry.close, key, texts]

/-! ### Documents -/

theorem readForest_congr {data other : Datum} (alike : Resembles codes data other) :
    readForest codes data = readForest codes other := by
  rw [readForest_eq_readRest, readForest_eq_readRest]
  rcases arrayItems_resembles none alike with
    ⟨problem, notArray, otherNotArray⟩ | ⟨items, otherItems, array, otherArray, inOrder⟩
  · rw [notArray, otherNotArray]
  · have opened : Frame.Resembles codes (.ofItems items none [] .empty) (.ofItems otherItems none [] .empty) :=
      ⟨inOrder, rfl, rfl, rfl⟩
    rw [array, otherArray]
    dsimp only
    rw [readRest_congr (fun item _ => readAlike item) opened]

/-- Documents that differ only in the order of the fields of their objects, and in fields that are not
consulted, are read alike: with the same events into the same tree, or up to the same failure. -/
theorem readData_of_resembling [Host] (registry : Registry) (hash : Text) {first second : Datum}
    (alike : Resembles registry.codes first second) :
    readData registry first hash = readData registry second hash := by
  rw [readData, readData, readForest_congr alike]

section Example

open Host.Plain

theorem readData_of_resembling_menu :
    let item : Fields := [("key", .text "open"), ("ja", .text "ひらく"), ("en", .text "Open")]
    let other : Fields :=
      [("en", .text "Open"), ("note", .text "?"), ("key", .text "open"), ("ja", .text "ひらく")]
    let menu : Datum := .list [.record [("key", .text "menu"), ("strings", .list [.record item])]]
    let annotated : Datum :=
      .list [.record [("strings", .list [.record other]), ("Key", .int 1), ("key", .text "menu")]]
    Resembles Registry.builtIn.codes menu annotated ∧
      readData .builtIn menu [] = readData .builtIn annotated [] := by
  intro item other menu annotated
  have inner : ∀ name ∈ consultedFields Registry.builtIn.codes, item.get? name = other.get? name :=
    agree_of_perm (by decide) (by decide)
      (@List.perm_append_comm (Text × Datum) [("key", .text "open"), ("ja", .text "ひらく")] [("en", .text "Open")])
  have child : Resembles Registry.builtIn.codes (.record item) (.record other) := .object inner .none
  have outer : Resembles Registry.builtIn.codes menu annotated :=
    .array (.cons (.object (agree_of_perm (by decide) (by decide) (.refl _))
      (.some (.array (.cons child .nil)))) .nil)
  exact ⟨outer, readData_of_resembling .builtIn [] outer⟩

end Example

end Phrasebook.Document
