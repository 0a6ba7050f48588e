import Phrasebook.Document.Reader

/-!
# Recursive reading

The reading of a document by recursion: an item is read with all that is below it before the next one.
The list of frames carries out this recursion. Whatever stands around an array, its frame is worked off
as the recursion reads the array, and then the branch that owns it is put into the frame around it.
-/

namespace Phrasebook.Document

/-- What a reading gives, and the notes made so far. -/
abbrev Noted (α : Type) := Except Fault α × List Note

/-- The branch for an entry whose children have been read. -/
def Entry.close (entry : Entry) : Noted (List Node) → Noted Node
  | (.error fault, notes) => (.error fault, notes)
  | (.ok children, notes) => (.ok (.branch entry.key entry.texts children), notes)

/-- The frame of the children of an entry. -/
def Entry.open (entry : Entry) (items : List Datum) : Frame :=
  .ofItems items (some entry.keyPath) entry.key entry.texts

/-- The frame after its first item. -/
def Frame.afterFirst (frame : Frame) (rest : List Datum) : Frame :=
  { frame with items := rest, index := frame.index + 1 }

mutual

/-- Reads the next item of a frame with all that is below it. -/
def readNode (codes : List Text) (frame : Frame) (item : Datum) (notes : List Note) : Noted Node :=
  match _read : readItem codes frame item notes with
  | (.error fault, notes) => (.error fault, notes)
  | (.ok entry, notes) =>
    match _owned : entry.children with
    | none => (.ok (.leaf entry.key entry.texts), notes)
    | some value =>
      match _array : arrayItems (some entry.keyPath) value with
      | .error problem => (.error (.problem problem), notes)
      | .ok items => entry.close (readRest codes (entry.open items) notes)
termination_by 2 * weight item
decreasing_by
  have := readItem_children_weight _read _owned
  have := arrayItems_weight _array
  simp only [Entry.open, Frame.ofItems]
  omega

/-- Reads what is left of the array of a frame. -/
def readRest (codes : List Text) (frame : Frame) (notes : List Note) : Noted (List Node) :=
  match _left : frame.items with
  | [] => (.ok frame.nodes.reverse, notes)
  | item :: rest =>
    match readNode codes frame item notes with
    | (.error fault, notes) => (.error fault, notes)
    | (.ok node, notes) =>
      let made := (frame.afterFirst rest).register node notes
      readRest codes made.1 made.2
termination_by 2 * weightItems frame.items + 1
decreasing_by
  · simp only [_left, weightItems]
    omega
  · have := weight_pos item
    simp only [_left, weightItems, Frame.register, Frame.afterFirst]
    omega

end

variable {codes : List Text} {frame : Frame} {item : Datum} {rest : List Datum}
  {around : List Frame} {notes after : List Note}

/-! ### Steps of the recursion -/

theorem readNode_of_error {fault : Fault}
    (read : readItem codes frame item notes = (.error fault, after)) :
    readNode codes frame item notes = (.error fault, after) := by
  rw [readNode]
  split <;> simp_all

theorem readNode_of_leaf {entry : Entry} (read : readItem codes frame item notes = (.ok entry, after))
    (leaf : entry.children = none) :
    readNode codes frame item notes = (.ok (.leaf entry.key entry.texts), after) := by
  rw [readNode]
  split
  · simp_all
  · split <;> simp_all

theorem readNode_of_notArray {entry : Entry} {value : Datum} {problem : Problem}
    (read : readItem codes frame item notes = (.ok entry, after))
    (owned : entry.children = some value)
    (notArray : arrayItems (some entry.keyPath) value = .error problem) :
    readNode codes frame item notes = (.error (.problem problem), after) := by
  rw [readNode]
  split
  · simp_all
  · split
    · simp_all
    · split <;> simp_all

theorem readNode_of_array {entry : Entry} {value : Datum} {items : List Datum}
    (read : readItem codes frame item notes = (.ok entry, after))
    (owned : entry.children = some value)
    (array : arrayItems (some entry.keyPath) value = .ok items) :
    readNode codes frame item notes =
      entry.close (readRest codes (entry.open items) after) := by
  rw [readNode]
  split
  · simp_all
  · split
    · simp_all
    · split <;> simp_all

theorem readRest_nil (done : frame.items = []) :
    readRest codes frame notes = (.ok frame.nodes.reverse, notes) := by
  rw [readRest]
  split <;> simp_all

theorem readRest_cons_error {fault : Fault} (left : frame.items = item :: rest)
    (read : readNode codes frame item notes = (.error fault, after)) :
    readRest codes frame notes = (.error fault, after) := by
  rw [readRest]
  split <;> simp_all

theorem readRest_cons_ok {node : Node} (left : frame.items = item :: rest)
    (read : readNode codes frame item notes = (.ok node, after)) :
    readRest codes frame notes =
      readRest codes ((frame.afterFirst rest).register node after).1
        ((frame.afterFirst rest).register node after).2 := by
  rw [readRest]
  split <;> simp_all

/-! ### Steps of the frames -/

/-- Goes on around an array whose nodes are complete. -/
def resume (codes : List Text) (frame : Frame) (nodes : List Node) (around : List Frame)
    (notes : List Note) : Noted (List Node) :=
  match around with
  | [] => (.ok nodes, notes)
  | parent :: around =>
    let made := parent.register (.branch frame.key frame.texts nodes) notes
    readFrames codes made.1 around made.2

theorem readFrames_nil (done : frame.items = []) :
    readFrames codes frame around notes = resume codes frame frame.nodes.reverse around notes := by
  rw [readFrames]
  split
  · cases around <;> rfl
  · simp_all

theorem readFrames_cons_error {fault : Fault} (left : frame.items = item :: rest)
    (read : readItem codes frame item notes = (.error fault, after)) :
    readFrames codes frame around notes = (.error fault, after) := by
  rw [readFrames]
  split
  · simp_all
  · rename_i left'
    cases left.symm.trans left'
    split <;> simp_all

theorem readFrames_cons_leaf {entry : Entry} (left : frame.items = item :: rest)
    (read : readItem codes frame item notes = (.ok entry, after))
    (leaf : entry.children = none) :
    readFrames codes frame around notes =
      readFrames codes ((frame.afterFirst rest).register (.leaf entry.key entry.texts) after).1 around
        ((frame.afterFirst rest).register (.leaf entry.key entry.texts) after).2 := by
  rw [readFrames]
  split
  · simp_all
  · rename_i left'
    cases left.symm.trans left'
    dsimp only
    split
    · simp_all
    · rename_i read'
      cases read.symm.trans read'
      split
      · rfl
      · simp_all

theorem readFrames_cons_notArray {entry : Entry} {value : Datum} {problem : Problem}
    (left : frame.items = item :: rest)
    (read : readItem codes frame item notes = (.ok entry, after))
    (owned : entry.children = some value)
    (notArray : arrayItems (some entry.keyPath) value = .error problem) :
    readFrames codes frame around notes = (.error (.problem problem), after) := by
  rw [readFrames]
  split
  · simp_all
  · rename_i left'
    cases left.symm.trans left'
    dsimp only
    split
    · simp_all
    · rename_i read'
      cases read.symm.trans read'
      split
      · simp_all
      · split <;> simp_all

theorem readFrames_cons_array {entry : Entry} {value : Datum} {items : List Datum}
    (left : frame.items = item :: rest)
    (read : readItem codes frame item notes = (.ok entry, after))
    (owned : entry.children = some value)
    (array : arrayItems (some entry.keyPath) value = .ok items) :
    readFrames codes frame around notes =
      readFrames codes (entry.open items) (frame.afterFirst rest :: around) after := by
  rw [readFrames]
  split
  · simp_all
  · rename_i left'
    cases left.symm.trans left'
    dsimp only
    split
    · simp_all
    · rename_i read'
      cases read.symm.trans read'
      split
      · simp_all
      · rename_i owned'
        cases owned.symm.trans owned'
        split
        · simp_all
        · rename_i array'
          cases array.symm.trans array'
          rfl

/-! ### The frames carry out the recursion -/

/-- Goes on around an array that has been read. -/
def continueWith (codes : List Text) (frame : Frame) (around : List Frame) :
    Noted (List Node) → Noted (List Node)
  | (.error fault, notes) => (.error fault, notes)
  | (.ok nodes, notes) => resume codes frame nodes around notes

/-- Whatever stands around a frame, it is worked off as the recursion reads its array. -/
theorem readFrames_eq_continueWith (codes : List Text) (frame : Frame) (around : List Frame)
    (notes : List Note) :
    readFrames codes frame around notes =
      continueWith codes frame around (readRest codes frame notes) := by
  -- The array of a child weighs less than the item that holds it, so the induction is on the weight
  -- of the items left; what stands around grows and shrinks with the frames and is arbitrary.
  induction size : weightItems frame.items using Nat.strongRecOn generalizing frame around notes with
  | ind size ih =>
    subst size
    cases left : frame.items with
    | nil => rw [readFrames_nil left, readRest_nil left, continueWith]
    | cons item rest =>
      have restLess : weightItems rest < weightItems frame.items := by
        have := weight_pos item
        simp only [left, weightItems]
        omega
      -- After an item the frame goes on with one more node and the same branch around it.
      have next : ∀ node after,
          readFrames codes ((frame.afterFirst rest).register node after).1 around
              ((frame.afterFirst rest).register node after).2 =
            continueWith codes frame around
              (readRest codes ((frame.afterFirst rest).register node after).1
                ((frame.afterFirst rest).register node after).2) := by
        intro node after
        rw [ih _ restLess _ _ _ rfl]
        rfl
      rcases read : readItem codes frame item notes with ⟨fault | entry, after⟩
      · rw [readFrames_cons_error left read, readRest_cons_error left (readNode_of_error read)]
        rfl
      cases owned : entry.children with
      | none =>
        rw [readFrames_cons_leaf left read owned, readRest_cons_ok left (readNode_of_leaf read owned),
          next]
      | some value =>
        cases array : arrayItems (some entry.keyPath) value with
        | error problem =>
          rw [readFrames_cons_notArray left read owned array,
            readRest_cons_error left (readNode_of_notArray read owned array)]
          rfl
        | ok items =>
          have itemsLess : weightItems (entry.open items).items < weightItems frame.items := by
            have := readItem_children_weight read owned
            have := arrayItems_weight array
            simp only [left, weightItems, Entry.open, Frame.ofItems]
            omega
          have node := readNode_of_array read owned array
          rw [readFrames_cons_array left read owned array, ih _ itemsLess _ _ _ rfl]
          rcases below : readRest codes (entry.open items) after with ⟨fault | children, last⟩
          · rw [below] at node
            rw [readRest_cons_error left node]
            rfl
          · rw [below] at node
            rw [readRest_cons_ok left node, ← next]
            rfl

/-- The forest of a document is the one that the recursion reads, with the same notes. -/
theorem readForest_eq_readRest {data : Datum} :
    readForest codes data =
      match arrayItems none data with
      | .error problem => (.error (.problem problem), [])
      | .ok items =>
        let read := readRest codes (.ofItems items none [] .empty) []
        (read.1, read.2.reverse) := by
  unfold readForest
  cases arrayItems none data with
  | error problem => rfl
  | ok items =>
    simp only [readFrames_eq_continueWith]
    rcases readRest codes (.ofItems items none [] .empty) [] with ⟨fault | nodes, last⟩ <;> rfl

end Phrasebook.Document
