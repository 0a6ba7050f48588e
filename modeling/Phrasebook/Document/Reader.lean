import Phrasebook.Document.Entry
import Phrasebook.Failure
import Phrasebook.Tree

/-!
# Reading documents

The arrays of a document are read with a list of frames, one for each array that has been begun, so
that nesting costs no stack. A branch is made when the last item of its array has been read. Nothing is
made of a document with a fault; what is merely discouraged is noted.
-/

namespace Phrasebook.Document

/-- Something noted while a document is read. -/
inductive Note where
  | warning (warning : Warning)
  /-- A node is complete. -/
  | node (keyPath : Text)
deriving DecidableEq, Repr

/-- The warning of a note. -/
def Note.warning? : Note → Option Warning
  | .warning found => some found
  | .node _ => none

/-- The event that reports a note. -/
def Note.event : Note → Event
  | .warning ⟨.titleCaseKey, _, keyPath⟩ => .titleCaseKey keyPath
  | .warning ⟨.duplicateKey, _, keyPath⟩ => .duplicateKey keyPath
  | .node keyPath => .nodeRead keyPath

/-- An array that is being read. -/
structure Frame where
  /-- The items still to be read. -/
  items : List Datum
  /-- The index of the first of them. -/
  index : Nat
  /-- The key path of the branch that owns the array. -/
  parent : Option Text
  /-- The key of that branch. -/
  key : Text
  /-- The texts of that branch. -/
  texts : LocalTexts
  /-- The nodes made from the items before, last one first. -/
  nodes : List Node

/-- The frame of an array that nothing has been read from. -/
def Frame.ofItems (items : List Datum) (parent : Option Text) (key : Text)
    (texts : LocalTexts) : Frame :=
  ⟨items, 0, parent, key, texts, []⟩

/-- Puts a complete node into a frame, and notes it. -/
def Frame.register (frame : Frame) (node : Node) (notes : List Note) : Frame × List Note :=
  let keyPath := KeyPath.join frame.parent node.key
  let notes :=
    if (frame.nodes.map Node.key).contains node.key then
      .warning (.duplicate node.key keyPath) :: notes
    else notes
  ({ frame with nodes := node :: frame.nodes }, .node keyPath :: notes)

/-- The items of an array, which belongs to a parent if it has one. -/
def arrayItems (parent : Option Text) : Datum → Except Problem (List Datum)
  | .list items => .ok items
  | _ => .error (.malformedSource (.notAnArray parent.isSome) parent)

/-- An object whose key has been read. -/
structure Keyed where
  key : Text
  keyPath : Text
  object : Fields

/-- Reads the key of an item, which stands at an index below a parent, and notes a discouraged one. -/
def readKeyed (parent : Option Text) (index : Nat) (item : Datum) (notes : List Note) :
    Except Fault Keyed × List Note :=
  match item with
  | .record object =>
    match readKey parent index object with
    | .error fault => (.error fault, notes)
    | .ok key =>
      let keyPath := KeyPath.join parent key
      let notes :=
        if Key.isTitleCase key then .warning (.titleCase key keyPath) :: notes else notes
      (.ok { key, keyPath, object }, notes)
  | value => (.error (.problem (.malformedSource (.notAnObject index value.kindName) parent)), notes)

/-- Reads an item without its children. -/
def readItem (codes : List Text) (frame : Frame) (item : Datum) (notes : List Note) :
    Except Fault Entry × List Note :=
  match readKeyed frame.parent frame.index item notes with
  | (.error fault, notes) => (.error fault, notes)
  | (.ok keyed, notes) =>
    ((readEntry codes keyed.key keyed.keyPath keyed.object).mapError .problem, notes)

/-! ### The work left -/

mutual

/-- How many values there are in a value. -/
def weight : Datum → Nat
  | .list items => weightItems items + 1
  | .record fields => weightFields fields + 1
  | _ => 1

/-- How many values there are in the items of a list. -/
def weightItems : List Datum → Nat
  | [] => 0
  | item :: rest => weight item + weightItems rest

/-- How many values there are in the fields of a record. -/
def weightFields : List (Text × Datum) → Nat
  | [] => 0
  | (_, value) :: rest => weight value + weightFields rest

end

/-- How much is left to be done for some frames. -/
def workOf : List Frame → Nat
  | [] => 0
  | frame :: rest => weightItems frame.items + 1 + workOf rest

theorem weight_pos (value : Datum) : 0 < weight value := by
  cases value <;> simp [weight]

theorem weight_get?_le {fields : Fields} {name : Text} {value : Datum}
    (found : fields.get? name = some value) : weight value ≤ weightFields fields := by
  induction fields with
  | nil => simp [Fields.get?] at found
  | cons field rest ih =>
    obtain ⟨fieldName, fieldValue⟩ := field
    simp only [Fields.get?, List.lookup_cons] at found ih
    simp only [weightFields]
    split at found
    · cases found
      omega
    · have := ih found
      omega

theorem weight_given?_le {fields : Fields} {name : Text} {value : Datum}
    (found : given? fields name = some value) : weight value ≤ weightFields fields := by
  unfold given? at found
  split at found
  · cases found
  · cases found
  · rename_i found'
    cases found
    exact weight_get?_le found'

theorem readEntry_children {codes : List Text} {key keyPath : Text} {object : Fields}
    {entry : Entry} (read : readEntry codes key keyPath object = .ok entry) :
    entry.children = given? object childrenField := by
  simp only [readEntry, bind, Except.bind, pure, Except.pure, throw, throwThe,
    MonadExceptOf.throw] at read
  split at read
  · cases read
  · split at read
    · cases read
    · split at read
      · cases read
      · split at read
        · cases read
        · cases read
          rfl

theorem readKeyed_object {parent : Option Text} {index : Nat} {item : Datum}
    {notes after : List Note} {keyed : Keyed}
    (read : readKeyed parent index item notes = (.ok keyed, after)) :
    item = .record keyed.object := by
  unfold readKeyed at read
  split at read
  · split at read
    · cases read
    · simp only [Prod.mk.injEq, Except.ok.injEq] at read
      rw [← read.1]
  · cases read

theorem readItem_children_weight {codes : List Text} {frame : Frame} {item : Datum}
    {notes after : List Note} {entry : Entry} {value : Datum}
    (read : readItem codes frame item notes = (.ok entry, after))
    (children : entry.children = some value) : weight value < weight item := by
  unfold readItem at read
  split at read
  · cases read
  · rename_i keyed _ keyedRead
    simp only [Prod.mk.injEq] at read
    cases entryRead : readEntry codes keyed.key keyed.keyPath keyed.object with
    | error problem =>
      rw [entryRead] at read
      cases read.1
    | ok made =>
    rw [entryRead] at read
    cases read.1
    have := readEntry_children entryRead
    rw [children] at this
    have := weight_given?_le this.symm
    rw [readKeyed_object keyedRead]
    simp only [weight]
    omega

theorem arrayItems_weight {parent : Option Text} {value : Datum} {items : List Datum}
    (array : arrayItems parent value = .ok items) : weight value = weightItems items + 1 := by
  cases value with
  | list inner =>
    cases array
    rfl
  | _ => cases array

/-! ### Reading -/

/-- Reads what is left of an array, and then what is left of the arrays around it. -/
def readFrames (codes : List Text) (frame : Frame) (around : List Frame) (notes : List Note) :
    Except Fault (List Node) × List Note :=
  match left : frame.items with
  | [] =>
    match around with
    | [] => (.ok frame.nodes.reverse, notes)
    | parent :: around =>
      let made := parent.register (.branch frame.key frame.texts frame.nodes.reverse) notes
      have : workOf (made.1 :: around) < workOf (frame :: parent :: around) := by
        simp only [workOf, made, Frame.register, left, weightItems]
        omega
      readFrames codes made.1 around made.2
  | item :: rest =>
    let next : Frame := { frame with items := rest, index := frame.index + 1 }
    match read : readItem codes frame item notes with
    | (.error fault, notes) => (.error fault, notes)
    | (.ok entry, notes) =>
      match owned : entry.children with
      | none =>
        let made := next.register (.leaf entry.key entry.texts) notes
        have : workOf (made.1 :: around) < workOf (frame :: around) := by
          have := weight_pos item
          simp only [workOf, made, next, Frame.register, left, weightItems]
          omega
        readFrames codes made.1 around made.2
      | some value =>
        match array : arrayItems (some entry.keyPath) value with
        | .error problem => (.error (.problem problem), notes)
        | .ok items =>
          let inner := Frame.ofItems items (some entry.keyPath) entry.key entry.texts
          have : workOf (inner :: next :: around) < workOf (frame :: around) := by
            have := readItem_children_weight read owned
            have := arrayItems_weight array
            simp only [workOf, inner, next, Frame.ofItems, left, weightItems]
            omega
          readFrames codes inner (next :: around) notes
termination_by workOf (frame :: around)

/-- Reads the array of a document into a forest, and notes what is met on the way. -/
def readForest (codes : List Text) (data : Datum) : Except Fault (List Node) × List Note :=
  match arrayItems none data with
  | .error problem => (.error (.problem problem), [])
  | .ok items =>
    let (forest, notes) := readFrames codes (.ofItems items none [] .empty) [] []
    (forest, notes.reverse)

/-- The failure of a document with a fault. -/
def Fault.failure [Host] : Fault → Failure
  | .problem cause => .problem cause
  | .badKey key parent => .badKey key parent

/-- Reads a decoded document into a tree. Without a hash the tree has that of its forest. -/
def readData [Host] (registry : Registry) (data : Datum) (hash : Text) : Reported Failure Tree :=
  let (forest, notes) := readForest registry.codes data
  let reading : Reported Failure (List Node) :=
    ⟨notes.map Note.event, forest.mapError Fault.failure⟩
  do
    let roots ← reading
    let warnings := notes.filterMap Note.warning?
    Reported.report (.treeRead roots.length warnings.length)
    return Tree.make roots registry.codes hash warnings

/-- Reads a decoded document without a registry. This fails where codes are first needed, for the texts
of the first object or for the tree of an empty array, unless something is wrong before. -/
def readUnregistered [Host] (data : Datum) : Reported Failure Tree :=
  match arrayItems none data with
  | .error problem => throw (.problem problem)
  | .ok [] => throw (.noRegistry .codes)
  | .ok (item :: _) =>
    let (keyed, notes) := readKeyed none 0 item []
    let flag := keyed.bind fun keyed => (readFlag keyed.keyPath keyed.object).mapError .problem
    ⟨notes.map Note.event, (flag.mapError Fault.failure).bind fun _ => .error (.noRegistry .codes)⟩

/-- Reads a decoded document with a registry or without. -/
def readDecoded [Host] (registry : Option Registry) (data : Datum) (hash : Text) :
    Reported Failure Tree :=
  match registry with
  | some registry => readData registry data hash
  | none => readUnregistered data

end Phrasebook.Document
