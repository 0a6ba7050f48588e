import Phrasebook.Text.Basic

/-!
# Texts by language

The texts of one node by language code. They keep the order in which the codes were first given, and
each code has one text. Two of them can hold the same texts in different orders, so being equal and
holding the same texts are two relations.
-/

namespace Phrasebook

/-- Texts by language code. -/
structure LocalTexts where
  /-- The codes with their texts, in order. -/
  entries : List (Text × Text)
  /-- No code is given twice. -/
  distinct : (entries.map Prod.fst).Nodup
deriving DecidableEq, Repr

namespace LocalTexts

/-- No texts. -/
def empty : LocalTexts := ⟨[], .nil⟩

/-- Sets the text for a code: a new code goes to the end, a known one keeps its place. -/
def putEntry (code text : Text) : List (Text × Text) → List (Text × Text)
  | [] => [(code, text)]
  | entry :: rest =>
    if entry.1 = code then (code, text) :: rest else entry :: putEntry code text rest

theorem mem_codes_putEntry {code text other : Text} {entries : List (Text × Text)} :
    other ∈ (putEntry code text entries).map Prod.fst ↔
      other = code ∨ other ∈ entries.map Prod.fst := by
  fun_induction putEntry code text entries <;> grind

theorem distinct_putEntry {code text : Text} {entries : List (Text × Text)}
    (distinct : (entries.map Prod.fst).Nodup) :
    ((putEntry code text entries).map Prod.fst).Nodup := by
  fun_induction putEntry code text entries with
  | case1 => simp
  | case2 entry rest same => simpa [same] using distinct
  | case3 entry rest other ih =>
    simp only [List.map_cons, List.nodup_cons] at distinct ⊢
    refine ⟨?_, ih distinct.2⟩
    rw [mem_codes_putEntry]
    rintro (same | member)
    · exact other same
    · exact distinct.1 member

/-- Sets the text for a code. -/
def put (stored : LocalTexts) (code text : Text) : LocalTexts :=
  ⟨putEntry code text stored.entries, distinct_putEntry stored.distinct⟩

/-- The texts of a list of pairs, where a repeated code takes its last text. -/
def ofList (pairs : List (Text × Text)) : LocalTexts :=
  pairs.foldl (fun stored pair => stored.put pair.1 pair.2) empty

/-- The text for a code. -/
def get? (stored : LocalTexts) (code : Text) : Option Text :=
  stored.entries.lookup code

/-- The codes in order. -/
def codes (stored : LocalTexts) : List Text := stored.entries.map Prod.fst

/-- Whether there is no text. -/
def isEmpty (stored : LocalTexts) : Bool := stored.entries.isEmpty

/-- Whether two hold the same texts, whatever their order. -/
def same (first second : LocalTexts) : Bool :=
  first.entries.length == second.entries.length &&
    first.entries.all fun entry => second.get? entry.1 == some entry.2

end LocalTexts

end Phrasebook
