import Phrasebook.Proofs.Document.Translation
import Phrasebook.Proofs.Language.Registry
import Phrasebook.Proofs.Node.Traversal
import Phrasebook.Proofs.Text.Split

/-!
# Documents written for forests

For each node an object is written: its key, each of its texts in one piece or in lines as one likes, and
the objects for its children if it is a branch. The fields of an object have different names, whatever the
languages of a registry are, so that each is found again by its name. A document is read as the forest that
it was written for.
-/

namespace Phrasebook.Document

open Format
open Registry (Accepted Sound fieldName fieldName_inj fieldName_not_reserved)

/-! ### Objects for nodes -/

/-- The field for a text of a code, in lines or in one piece. -/
def textField (inLines : Bool) (code text : Text) : Text × Datum :=
  (fieldName inLines code,
    if inLines then .list ((text.splitOn '\n').map .text) else .text text)

/-- The fields for the texts of a node, with a choice for each code whether to write lines. -/
def textFields (inLines : Text → Bool) (texts : LocalTexts) : Fields :=
  texts.entries.map fun entry => textField (inLines entry.1) entry.1 entry.2

/-- An object is written for a node, with its fields in some order. -/
inductive WrittenFor : Node → Datum → Prop
  | leaf {key : Text} {texts : LocalTexts} {object : Fields} (inLines : Text → Bool)
      (fields : object.Perm ((keyField, .text key) :: textFields inLines texts)) :
      WrittenFor (.leaf key texts) (.record object)
  | branch {key : Text} {texts : LocalTexts} {children : List Node} {items : List Datum}
      {object : Fields} (inLines : Text → Bool)
      (fields : object.Perm
        ((keyField, .text key) :: (childrenField, .list items) :: textFields inLines texts))
      (below : List.Forall₂ WrittenFor children items) :
      WrittenFor (.branch key texts children) (.record object)

mutual

/-- The object for the node at a place, which is the list of indices that leads to it, innermost first. It
is chosen for each place and code whether to write lines. -/
def objectFor (inLines : List Nat → Text → Bool) (place : List Nat) : Node → Datum
  | .leaf key texts => .record ((keyField, .text key) :: textFields (inLines place) texts)
  | .branch key texts children =>
    .record ((keyField, .text key) :: (childrenField, .list (objectsFor inLines place 0 children)) ::
      textFields (inLines place) texts)

/-- The objects for siblings below a place, the first one with an index. -/
def objectsFor (inLines : List Nat → Text → Bool) (place : List Nat) (index : Nat) :
    List Node → List Datum
  | [] => []
  | node :: rest =>
    objectFor inLines (index :: place) node :: objectsFor inLines place (index + 1) rest

end

mutual

theorem writtenFor_objectFor (inLines : List Nat → Text → Bool) (place : List Nat) (node : Node) :
    WrittenFor node (objectFor inLines place node) := by
  cases node with
  | leaf key texts => exact .leaf (inLines place) (.refl _)
  | branch key texts children =>
    exact .branch (inLines place) (.refl _) (writtenFor_objectsFor inLines place 0 children)

theorem writtenFor_objectsFor (inLines : List Nat → Text → Bool) (place : List Nat) (index : Nat)
    (nodes : List Node) : List.Forall₂ WrittenFor nodes (objectsFor inLines place index nodes) := by
  cases nodes with
  | nil => exact .nil
  | cons node rest =>
    exact .cons (writtenFor_objectFor inLines (index :: place) node)
      (writtenFor_objectsFor inLines place (index + 1) rest)

end

/-! ### Fields of an object -/

/-- An object has fields with reserved names and the fields for some texts. -/
structure Holding (object fixed : Fields) (inLines : Text → Bool) (texts : LocalTexts) : Prop where
  fields : object.Perm (fixed ++ textFields inLines texts)
  distinct : (fixed.map Prod.fst).Nodup
  reserved : ∀ name ∈ fixed.map Prod.fst, name ∈ reservedFields

section Holding

variable {languages : List Language} {object fixed : Fields} {inLines : Text → Bool}
  {texts : LocalTexts} {code text name : Text} {value : Datum} (sound : Sound languages)
  (holding : Holding object fixed inLines texts)
  (known : ∀ code ∈ texts.codes, code ∈ languages.map Language.code)

theorem names_textFields :
    (textFields inLines texts).map Prod.fst =
      texts.codes.map fun code => fieldName (inLines code) code := by
  simp [textFields, textField, LocalTexts.codes, Function.comp_def]

include holding in
theorem Holding.mem_names :
    name ∈ object.map Prod.fst ↔
      name ∈ fixed.map Prod.fst ∨ ∃ code ∈ texts.codes, fieldName (inLines code) code = name := by
  rw [(holding.fields.map Prod.fst).mem_iff, List.map_append, List.mem_append, names_textFields]
  simp only [List.mem_map]

include sound holding known

/-- No two fields of an object have one name. -/
theorem Holding.names_distinct : (object.map Prod.fst).Nodup := by
  rw [(holding.fields.map Prod.fst).nodup_iff, List.map_append, names_textFields]
  refine List.Nodup.append holding.distinct ?_ ?_
  · apply List.Nodup.map_on _ texts.distinct
    intro first firstGiven second secondGiven same
    exact ((fieldName_inj sound (known first firstGiven) (known second secondGiven)).mp same).2
  · intro name isFixed isText
    rcases List.mem_map.mp isText with ⟨code, given, rfl⟩
    exact fieldName_not_reserved sound (known code given) _ (holding.reserved _ isFixed)

theorem Holding.get?_of_mem (listed : (name, value) ∈ fixed ++ textFields inLines texts) :
    object.get? name = some value := by
  rw [Fields.get?, lookup_eq_some_iff_mem (holding.names_distinct sound known)]
  exact holding.fields.mem_iff.mpr listed

/-- A reserved field is absent unless it is one of the fixed ones. -/
theorem Holding.get?_reserved (isReserved : name ∈ reservedFields)
    (absent : name ∉ fixed.map Prod.fst) : object.get? name = none := by
  rw [Fields.get?, lookup_eq_none_iff_not_mem, holding.mem_names]
  rintro (isFixed | ⟨code, given, rfl⟩)
  · exact absent isFixed
  · exact fieldName_not_reserved sound (known code given) _ isReserved

/-- A field for a text of a code is absent unless it is the one that was chosen. -/
theorem Holding.get?_other (registered : code ∈ languages.map Language.code) {other : Bool}
    (apart : code ∈ texts.codes → inLines code ≠ other) :
    object.get? (fieldName other code) = none := by
  rw [Fields.get?, lookup_eq_none_iff_not_mem, holding.mem_names]
  rintro (isFixed | ⟨given, isGiven, same⟩)
  · exact fieldName_not_reserved sound registered _ (holding.reserved _ isFixed)
  · rcases (fieldName_inj sound (known given isGiven) registered).mp same with ⟨chosen, rfl⟩
    exact apart isGiven chosen

/-- An object gives for each code the text that it was written for. -/
theorem Holding.textOf (encodable : ∀ entry ∈ texts.entries, entry.2.isEncodable)
    (registered : code ∈ languages.map Language.code) :
    TextOf "\n" object code (texts.get? code) := by
  have other {which : Bool} := @Holding.get?_other _ _ _ _ _ code sound holding known registered which
  cases found : texts.get? code with
  | none =>
    have absent : code ∉ texts.codes := LocalTexts.get?_eq_none.mp found
    have noPiece : object.get? (fieldName false code) = none := other fun given => absurd given absent
    have noLines : object.get? (fieldName true code) = none := other fun given => absurd given absent
    exact .absent (Or.inl noPiece) (Or.inl noLines)
  | some text =>
    have entry : (code, text) ∈ texts.entries := LocalTexts.get?_eq_some.mp found
    have field := holding.get?_of_mem sound known
      (List.mem_append_right _ (List.mem_map_of_mem entry))
    cases chosen : inLines code with
    | false =>
      rw [chosen] at field
      exact .piece field (encodable _ entry)
    | true =>
      rw [chosen] at field
      have noPiece : object.get? (fieldName false code) = none := other fun _ => by simp [chosen]
      have joined : Text.joinWith "\n" (text.splitOn '\n') = text := Text.joinWith_splitOn '\n' text
      have given := TextOf.lines (Or.inl noPiece) field (Text.splitOn_ne_nil _ _)
        (joined.symm ▸ encodable _ entry)
      rwa [joined] at given

end Holding

/-! ### Nodes -/

/-- A node that can stand in a document for some codes: its key is a key, it has a text that can be encoded
for each code in order, or none, and a leaf has texts. -/
structure Writable (codes : List Text) (node : Node) : Prop where
  key : Key.isValid node.key
  texts : node.texts.entries = [] ∨ node.texts.codes = codes
  encodable : ∀ entry ∈ node.texts.entries, entry.2.isEncodable
  leaf : ¬node.isBranch → node.texts.entries ≠ []

instance (codes : List Text) (node : Node) : Decidable (Writable codes node) :=
  decidable_of_iff
    (Key.isValid node.key ∧ (node.texts.entries = [] ∨ node.texts.codes = codes) ∧
      (∀ entry ∈ node.texts.entries, entry.2.isEncodable) ∧
      (¬node.isBranch → node.texts.entries ≠ []))
    ⟨fun ⟨key, texts, encodable, leaf⟩ => ⟨key, texts, encodable, leaf⟩,
      fun ⟨key, texts, encodable, leaf⟩ => ⟨key, texts, encodable, leaf⟩⟩

theorem Writable.known {codes : List Text} {node : Node} (writable : Writable codes node) :
    ∀ code ∈ node.texts.codes, code ∈ codes := by
  rcases writable.texts with empty | all
  · simp [LocalTexts.codes, empty]
  · rw [all]
    exact fun _ => id

/-- A node has texts for all codes or for none, and they are in the order of the codes. -/
theorem Writable.complete {codes : List Text} {node : Node} (writable : Writable codes node) :
    ((∀ code ∈ codes, node.texts.get? code ≠ none) ∨
        ∀ code ∈ codes, node.texts.get? code = none) ∧
      node.texts.entries = codes.filterMap fun code => (node.texts.get? code).map (code, ·) := by
  rcases writable.texts with empty | all
  · have noText := LocalTexts.get?_of_empty empty
    exact ⟨Or.inr fun code _ => noText code, by simp [empty, noText]⟩
  · refine ⟨Or.inl ?_, ?_⟩
    · intro code registered
      rw [Ne, LocalTexts.get?_eq_none, not_not, all]
      exact registered
    · rw [← all]
      exact node.texts.entries_eq_filterMap

variable {languages : List Language}

/-- The fields that are written for a node say its key and its texts. -/
theorem head_of_holding {object fixed : Fields} {inLines : Text → Bool} {node : Node}
    (sound : Sound languages) (holding : Holding object fixed inLines node.texts)
    (writable : Writable (languages.map Language.code) node)
    (keyed : (keyField, .text node.key) ∈ fixed) (unflagged : flagField ∉ fixed.map Prod.fst)
    (content : node.isBranch → ¬Unset object childrenField) :
    Head (languages.map Language.code) object node.key node.texts := by
  have key := holding.get?_of_mem sound writable.known (List.mem_append_left _ keyed)
  have noFlag := holding.get?_reserved sound writable.known
    (show flagField ∈ reservedFields by decide) unflagged
  have given : ∀ code ∈ languages.map Language.code,
      TextOf "\n" object code (node.texts.get? code) := by
    intro code registered
    exact holding.textOf sound writable.known writable.encodable registered
  refine ⟨⟨key, writable.key⟩, ?_, ?_⟩
  · exact .intro node.texts.get? (.unflagged noFlag) given writable.complete.1 writable.complete.2
  · by_cases branch : node.isBranch
    · exact Or.inr (content branch)
    · exact Or.inl (writable.leaf branch)

mutual

/-- What is written for a node translates into the node. -/
theorem translates_of_written {depth : Nat} {parent : Option Text} {node : Node} {item : Datum}
    (sound : Sound languages)
    (writable : ∀ visited ∈ Node.preorderOf depth parent node,
      Writable (languages.map Language.code) visited.node)
    (written : WrittenFor node item) : Translates (languages.map Language.code) item node := by
  cases node with
  | leaf key texts =>
    rw [Node.preorderOf, List.forall_mem_singleton] at writable
    cases written with
    | @leaf _ _ object inLines fields =>
      have holding : Holding object [(keyField, .text key)] inLines texts :=
        ⟨fields, by simp, by simp [reservedFields]⟩
      have unset : object.get? childrenField = none :=
        holding.get?_reserved sound writable.known (by decide) (by simp; decide)
      refine .leaf (head_of_holding sound holding writable (by simp [Node.key]) ?_ ?_) (Or.inl unset)
      · simp; decide
      · simp [Node.isBranch, Node.children?]
  | branch key texts children =>
    rw [Node.preorderOf, List.forall_mem_cons] at writable
    cases written with
    | @branch _ _ _ items object inLines fields below =>
      have holding : Holding object [(keyField, .text key), (childrenField, .list items)] inLines texts :=
        ⟨fields, by simp; decide, by simp [reservedFields]⟩
      have given : object.get? childrenField = some (.list items) :=
        holding.get?_of_mem sound writable.1.known (by simp)
      have head := head_of_holding sound holding writable.1 (by simp [Node.key]) (by simp; decide)
        fun _ => by simp [Unset, given]
      exact .branch head given (forall₂_translates_of_written sound writable.2 below)

theorem forall₂_translates_of_written {depth : Nat} {parent : Option Text} {nodes : List Node}
    {items : List Datum} (sound : Sound languages)
    (writable : ∀ visited ∈ Node.preorder depth parent nodes,
      Writable (languages.map Language.code) visited.node)
    (written : List.Forall₂ WrittenFor nodes items) :
    List.Forall₂ (Translates (languages.map Language.code)) items nodes := by
  cases nodes with
  | nil =>
    cases written
    exact .nil
  | cons node rest =>
    rw [Node.preorder, List.forall_mem_append] at writable
    cases written with
    | cons first later =>
      exact .cons (translates_of_written sound writable.1 first)
        (forall₂_translates_of_written sound writable.2 later)

end

/-- A document that is written for a forest with the languages of a registry is read as the forest, wherever
lines are chosen and in whatever order the fields stand. -/
theorem readData_written [Host] {registry : Registry} {roots : List Node} (accepted : Accepted registry)
    (writable : ∀ visited ∈ Node.walk roots, Writable registry.codes visited.2) :
    (∀ inLines, List.Forall₂ WrittenFor roots (objectsFor inLines [] 0 roots)) ∧
      ∀ items hash, List.Forall₂ WrittenFor roots items →
        (readData registry (.list items) hash).result =
          .ok (.make roots registry.codes hash (forestWarnings roots)) := by
  refine ⟨fun inLines => writtenFor_objectsFor inLines [] 0 roots, ?_⟩
  intro items hash written
  rw [Node.walk_eq_preorder, List.forall_mem_map] at writable
  have sound := Registry.accepted_iff.mp accepted
  have translated := forall₂_translates_of_written sound writable written
  exact readData_eq_ok.mpr ⟨roots, ⟨items, rfl, translated⟩, rfl⟩

/-! Two codes, one of which starts with the field for lines of the other. The fields of the branch stand in
another order, and one text of the leaf is written in lines. -/

/-- A registry with these codes. -/
def nestedCodes : Registry where
  languages := [⟨0, "a", "A"⟩, ⟨1, "a_long_long", "B"⟩]
  fallback := ⟨0, "a", "A"⟩
  fallback_mem := by simp
  codes_distinct := by decide
  ids_distinct := by decide

/-- A branch without texts, and below it a leaf. -/
def greetingBelow : List Node :=
  [.branch "menu" .empty
    [.leaf "hello" ⟨[("a", "Hello,\nworld"), ("a_long_long", "Hi")], by decide⟩]]

section Example

open Host.Plain

theorem readData_written_lines :
    (readData nestedCodes (.list [.record [
        ("strings", .list [.record [
          ("key", .text "hello"), ("a_long", .list [.text "Hello,", .text "world"]),
          ("a_long_long", .text "Hi")]]),
        ("key", .text "menu")]]) "0").result =
      .ok (.make greetingBelow ["a", "a_long_long"] "0" []) := by
  have accepted : Accepted nestedCodes := ⟨nestedCodes.languages, [], rfl⟩
  have writable : ∀ visited ∈ Node.walk greetingBelow, Writable nestedCodes.codes visited.2 := by
    decide +kernel
  have quiet : forestWarnings greetingBelow = [] := by decide +kernel
  rw [← quiet]
  refine (readData_written accepted writable).2 _ _ (.cons ?_ .nil)
  refine .branch (fun _ => false) (.swap _ _ _) (.cons ?_ .nil)
  exact .leaf (fun code => code = "a") (.refl _)

end Example

end Phrasebook.Document
