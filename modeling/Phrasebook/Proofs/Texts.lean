import Mathlib.Data.List.Nodup
import Mathlib.Data.List.Perm.Subperm
import Phrasebook.LocalTexts

/-!
# Texts by language, entry by entry

Texts are determined by their entries, and a new code goes to their end. Where no name is repeated a
look-up finds what is listed. Two hold the same texts if every look-up finds the same in both, which
leaves the order of their entries open.
-/

namespace Phrasebook

theorem lookup_eq_some_iff_mem {α : Type} {pairs : List (Text × α)} {name : Text} {value : α}
    (distinct : (pairs.map Prod.fst).Nodup) :
    pairs.lookup name = some value ↔ (name, value) ∈ pairs := by
  rw [List.lookup_eq_some_iff]
  constructor
  · rintro ⟨before, after, rfl, _⟩
    simp
  · intro member
    rcases List.append_of_mem member with ⟨before, after, rfl⟩
    refine ⟨before, after, rfl, ?_⟩
    intro earlier isEarlier
    rw [List.map_append, List.map_cons, List.nodup_append] at distinct
    have apart := distinct.2.2 earlier.1 (List.mem_map_of_mem isEarlier) name (by simp)
    simpa using apart.symm

theorem lookup_eq_none_iff_not_mem {α : Type} {pairs : List (Text × α)} {name : Text} :
    pairs.lookup name = none ↔ name ∉ pairs.map Prod.fst := by
  rw [List.lookup_eq_none_iff]
  constructor
  · intro apart member
    rcases List.mem_map.mp member with ⟨pair, listed, rfl⟩
    simpa using apart pair listed
  · rintro absent pair listed
    have apart : name ≠ pair.1 := by
      rintro rfl
      exact absent (List.mem_map_of_mem listed)
    simpa using apart

namespace LocalTexts

theorem eq_of_entries {first second : LocalTexts} (same : first.entries = second.entries) :
    first = second := by
  cases first
  cases second
  simpa using same

theorem putEntry_of_fresh {code text : Text} {entries : List (Text × Text)}
    (fresh : code ∉ entries.map Prod.fst) :
    putEntry code text entries = entries ++ [(code, text)] := by
  fun_induction putEntry code text entries with
  | case1 => rfl
  | case2 entry rest => simp_all
  | case3 entry rest other ih => simp_all

theorem entries_put_of_fresh {stored : LocalTexts} {code text : Text}
    (fresh : code ∉ stored.codes) :
    (stored.put code text).entries = stored.entries ++ [(code, text)] :=
  putEntry_of_fresh fresh

theorem get?_of_mem {stored : LocalTexts} {code : Text} (given : code ∈ stored.codes) :
    ∃ text, stored.get? code = some text := by
  rcases List.mem_map.mp given with ⟨⟨_, text⟩, member, rfl⟩
  cases found : stored.get? _ with
  | none => simpa using List.lookup_eq_none_iff.mp found _ member
  | some text => exact ⟨text, rfl⟩

theorem mem_codes_of_get? {stored : LocalTexts} {code text : Text}
    (given : stored.get? code = some text) : code ∈ stored.codes ∧ stored.entries ≠ [] := by
  rcases List.lookup_eq_some_iff.mp given with ⟨before, after, entries, _⟩
  rw [codes, entries]
  simp

theorem get?_eq_some {stored : LocalTexts} {code text : Text} :
    stored.get? code = some text ↔ (code, text) ∈ stored.entries :=
  lookup_eq_some_iff_mem stored.distinct

theorem get?_eq_none {stored : LocalTexts} {code : Text} :
    stored.get? code = none ↔ code ∉ stored.codes :=
  lookup_eq_none_iff_not_mem

theorem get?_of_empty {stored : LocalTexts} (empty : stored.entries = []) (code : Text) :
    stored.get? code = none := by
  rw [get?, empty]
  rfl

/-- The entries are the codes in order, each with its text. -/
theorem entries_eq_filterMap (stored : LocalTexts) :
    stored.entries = stored.codes.filterMap fun code => (stored.get? code).map (code, ·) := by
  rw [codes, List.filterMap_map]
  calc
    stored.entries = stored.entries.filterMap some := List.filterMap_some.symm
    _ = _ := by
      apply List.filterMap_congr
      intro entry member
      simp [get?_eq_some.mpr member]

theorem entries_nodup (stored : LocalTexts) : stored.entries.Nodup :=
  .of_map Prod.fst stored.distinct

theorem perm_iff_get? {first second : LocalTexts} :
    first.entries.Perm second.entries ↔ ∀ code, first.get? code = second.get? code := by
  rw [List.perm_ext_iff_of_nodup first.entries_nodup second.entries_nodup]
  constructor
  · intro listed code
    apply Option.ext
    intro text
    rw [get?_eq_some, get?_eq_some, listed]
  · rintro found ⟨code, text⟩
    rw [← get?_eq_some, ← get?_eq_some, found]

/-- Texts that are listed in some order are listed in the same order exactly if their codes are. -/
theorem entries_eq_iff_codes {first second : LocalTexts}
    (perm : first.entries.Perm second.entries) :
    first.entries = second.entries ↔ first.codes = second.codes := by
  constructor
  · intro listed
    rw [codes, codes, listed]
  · intro sameCodes
    have found := perm_iff_get?.mp perm
    rw [first.entries_eq_filterMap, second.entries_eq_filterMap, sameCodes]
    exact List.filterMap_congr fun code _ => by rw [found]

/-- Two hold the same texts exactly if one lists what the other lists, in some order. -/
theorem same_iff_perm {first second : LocalTexts} :
    first.same second ↔ first.entries.Perm second.entries := by
  simp only [same, Bool.and_eq_true, beq_iff_eq, List.all_eq_true, get?_eq_some]
  constructor
  · rintro ⟨lengths, listed⟩
    exact (first.entries_nodup.subperm listed).perm_of_length_le (Nat.le_of_eq lengths.symm)
  · intro perm
    exact ⟨perm.length_eq, fun entry member => perm.mem_iff.mp member⟩

/-- Two hold the same texts exactly if every look-up finds the same in both. -/
theorem same_iff_get? {first second : LocalTexts} :
    first.same second ↔ ∀ code, first.get? code = second.get? code :=
  same_iff_perm.trans perm_iff_get?

end LocalTexts

end Phrasebook
