import Phrasebook.Proofs.Text.Utf8
import Phrasebook.Unicode.CaseMapping
import Phrasebook.Unicode.Category

/-!
# What the case mappings do

The tables of the case mappings are runs and expansions, and what holds of all code points is read off them
run by run: a run whose images keep away from all that is mapped maps nothing a second time, and one whose
images lie in some ranges leads into them. The lowercase form of a code point is lowercase for good, and that
of a letter, number or mark is made of letters, numbers and marks. The uppercase form of a letter starts with
a letter, which is its own uppercase form; further code points come from the expansions alone.
-/

namespace Phrasebook

namespace Unicode

/-! ### Runs -/

namespace CaseRun

/-- The numbers that a run covers. -/
def numbers (run : CaseRun) : List Nat :=
  List.range' run.first ((run.last - run.first) / run.stride + 1) run.stride

/-- What a run makes of a number. -/
def image (run : CaseRun) (number : Nat) : Nat := (number + run.offset).toNat

/-- Whether no image of a run is covered by another one. It is looked for only where their spans meet. -/
def avoids (run other : CaseRun) : Bool :=
  (run.image run.last).blt other.first || other.last.blt (run.image run.first) ||
    run.numbers.all fun number => !other.covers (run.image number)

end CaseRun

/-- Whether a span of numbers lies in one of the ranges. -/
def Ranges.covers (ranges : Ranges) (first last : Nat) : Bool :=
  ranges.any fun range => range.1.ble first && last.ble range.2

/-- Whether a run leads from ranges into ranges. The images are looked for one by one only if the run meets
the former and its images do not lie in one of the latter. -/
def CaseRun.leads (run : CaseRun) (source target : Ranges) : Bool :=
  target.covers (run.image run.first) (run.image run.last) ||
    (source.all fun range => run.last.blt range.1 || range.2.blt run.first) ||
    run.numbers.all fun number => target.covers (run.image number) (run.image number)

section Runs

variable {run other : CaseRun} {number : Nat}

theorem bounds_of_covers (covered : run.covers number) : run.first ≤ number ∧ number ≤ run.last := by
  simp only [CaseRun.covers, Bool.and_eq_true, decide_eq_true_eq] at covered
  exact covered.1

theorem mem_numbers (covered : run.covers number) : number ∈ run.numbers := by
  rcases bounds_of_covers covered with ⟨low, high⟩
  simp only [CaseRun.covers, Bool.and_eq_true, beq_iff_eq] at covered
  rw [CaseRun.numbers, List.mem_range']
  refine ⟨(number - run.first) / run.stride, ?_, ?_⟩
  · have := Nat.div_le_div_right (c := run.stride) (Nat.sub_le_sub_right high run.first)
    omega
  · have := Nat.div_add_mod (number - run.first) run.stride
    omega

theorem image_bounds (covered : run.covers number) :
    run.image run.first ≤ run.image number ∧ run.image number ≤ run.image run.last := by
  have := bounds_of_covers covered
  unfold CaseRun.image
  omega

theorem not_covers_image (apart : run.avoids other) (covered : run.covers number) :
    ¬other.covers (run.image number) := by
  intro again
  have := image_bounds covered
  have := bounds_of_covers again
  simp only [CaseRun.avoids, Bool.or_eq_true, Nat.blt_eq, List.all_eq_true, Bool.not_eq_true'] at apart
  rcases apart with (below | above) | outside
  · omega
  · omega
  · rw [outside number (mem_numbers covered)] at again
    cases again

theorem contains_eq_covers (ranges : Ranges) (point : CodePoint) :
    ranges.contains point = ranges.covers point.value point.value := by
  rw [Bool.eq_iff_iff, Ranges.contains, Ranges.covers]
  simp only [List.any_eq_true, Bool.and_eq_true, decide_eq_true_eq, Nat.ble_eq]

theorem covers_of_covers {ranges : Ranges} {first last : Nat} (covered : ranges.covers first last)
    (low : first ≤ number) (high : number ≤ last) : ranges.covers number number := by
  simp only [Ranges.covers, List.any_eq_true, Bool.and_eq_true, Nat.ble_eq] at covered ⊢
  rcases covered with ⟨range, listed, inside⟩
  exact ⟨range, listed, by omega, by omega⟩

theorem covers_image {source target : Ranges} (leads : run.leads source target)
    (inSource : source.covers number number) (covered : run.covers number) :
    target.covers (run.image number) (run.image number) := by
  have := bounds_of_covers covered
  have bounds := image_bounds covered
  simp only [CaseRun.leads, Bool.or_eq_true, Nat.blt_eq, List.all_eq_true] at leads
  rcases leads with (together | apart) | each
  · exact covers_of_covers together bounds.1 bounds.2
  · simp only [Ranges.covers, List.any_eq_true, Bool.and_eq_true, Nat.ble_eq] at inSource
    rcases inSource with ⟨range, listed, inside⟩
    have := apart range listed
    omega
  · exact each _ (mem_numbers covered)

end Runs

/-! ### Tables -/

/-- Whether a table leaves a number as it is. -/
def unmapped (runs : List CaseRun) (expansions : List (Nat × List Nat)) (number : Nat) : Bool :=
  (expansions.lookup number).isNone && runs.all fun run => !run.covers number

/-- Whether the runs of a table map to code points that the table leaves as they are. -/
def settled (runs : List CaseRun) (expansions : List (Nat × List Nat)) : Bool :=
  runs.all fun run => (run.image run.last).blt 0x110000 && runs.all run.avoids &&
    expansions.all fun expansion => run.avoids ⟨expansion.1, expansion.1, 1, 0⟩

section Tables

variable {runs : List CaseRun} {expansions : List (Nat × List Nat)} {point : CodePoint}

theorem unmapped_iff {number : Nat} :
    unmapped runs expansions number ↔
      expansions.lookup number = none ∧ runs.find? (·.covers number) = none := by
  rw [unmapped, Bool.and_eq_true, Option.isNone_iff_eq_none, List.all_eq_true, List.find?_eq_none]
  simp only [Bool.not_eq_true', Bool.not_eq_true]

theorem mem_of_lookup {number : Nat} {numbers : List Nat} (found : expansions.lookup number = some numbers) :
    (number, numbers) ∈ expansions := by
  rcases List.lookup_eq_some_iff.mp found with ⟨before, after, entries, _⟩
  rw [entries]
  exact List.mem_append_right _ List.mem_cons_self

theorem applyCase_of_expansion {numbers : List Nat} (found : expansions.lookup point.value = some numbers) :
    applyCase runs expansions point = numbers.filterMap CodePoint.ofNat? := by
  rw [applyCase, found]

theorem applyCase_of_unmapped (kept : unmapped runs expansions point.value) :
    applyCase runs expansions point = [point] := by
  rcases unmapped_iff.mp kept with ⟨unlisted, uncovered⟩
  rw [applyCase, unlisted, uncovered]

theorem unmapped_image {run : CaseRun} {number : Nat} (table : settled runs expansions) (listed : run ∈ runs)
    (covered : run.covers number) : unmapped runs expansions (run.image number) := by
  simp only [settled, List.all_eq_true, Bool.and_eq_true] at table
  rcases table run listed with ⟨⟨_, apart⟩, unexpanded⟩
  refine unmapped_iff.mpr ⟨List.lookup_eq_none_iff.mpr ?_, List.find?_eq_none.mpr ?_⟩
  · intro expansion member
    have outside := not_covers_image (unexpanded expansion member) covered
    have other : run.image number ≠ expansion.1 := by
      intro same
      exact outside (by simp [CaseRun.covers, same])
    simpa using other
  · intro other member
    exact not_covers_image (apart other member) covered

/-- A code point without an expansion is mapped by a run, once and for all, or is left as it is. -/
theorem applyCase_single (table : settled runs expansions) (unlisted : expansions.lookup point.value = none) :
    ∃ image, applyCase runs expansions point = [image] ∧ unmapped runs expansions image.value ∧
      (image = point ∨
        ∃ run ∈ runs, run.covers point.value ∧ image.value = run.image point.value) := by
  cases found : runs.find? (·.covers point.value) with
  | none =>
    have kept := unmapped_iff.mpr ⟨unlisted, found⟩
    exact ⟨point, applyCase_of_unmapped kept, kept, Or.inl rfl⟩
  | some run =>
    have covered := List.find?_some found
    have listed := List.mem_of_find?_eq_some found
    have valid : run.image run.last < 0x110000 := by
      simp only [settled, List.all_eq_true, Bool.and_eq_true, Nat.blt_eq] at table
      exact (table run listed).1.1
    have := (image_bounds covered).2
    cases made : CodePoint.ofNat? (run.image point.value) with
    | none =>
      have := CodePoint.ofNat?_eq_none.mp made
      omega
    | some image =>
      have isImage := CodePoint.value_of_ofNat? made
      refine ⟨image, ?_, ?_, Or.inr ⟨run, listed, covered, isImage⟩⟩
      · rw [applyCase, unlisted, found]
        exact congrArg (fun given : Option CodePoint => [given.getD point]) made
      · rw [isImage]
        exact unmapped_image table listed covered

theorem applyCase_eq_self_iff (table : settled runs expansions)
    (unlisted : expansions.lookup point.value = none) :
    applyCase runs expansions point = [point] ↔ unmapped runs expansions point.value := by
  constructor
  · intro kept
    rcases applyCase_single table unlisted with ⟨image, mapped, settled, _⟩
    cases mapped.symm.trans kept
    exact settled
  · exact applyCase_of_unmapped

/-- Where the runs of a table lead from ranges into ranges, they lead the code points in the former. -/
theorem contains_of_applyCase {source target : Ranges} {image : CodePoint} (within : source ⊆ target)
    (leads : runs.all (·.leads source target)) (inSource : source.contains point)
    (isImage : image = point ∨ ∃ run ∈ runs, run.covers point.value ∧ image.value = run.image point.value) :
    target.contains image := by
  rcases isImage with rfl | ⟨run, listed, covered, isImage⟩
  · rcases List.any_eq_true.mp inSource with ⟨range, member, inside⟩
    exact List.any_eq_true.mpr ⟨range, within member, inside⟩
  · rw [contains_eq_covers] at inSource ⊢
    rw [isImage]
    exact covers_image (List.all_eq_true.mp leads run listed) inSource covered

end Tables

/-! ### The lowercase table -/

/-- Letters, numbers and marks, which are the parts of words. -/
def wordParts : Ranges := letters ++ numbers ++ marks

theorem settled_lowercase : settled lowercaseRuns lowercaseExpansions := by
  decide +kernel

theorem lowercase_leads : lowercaseRuns.all (·.leads wordParts wordParts) := by
  decide +kernel

theorem lowercase_expanded : ∀ expansion ∈ lowercaseExpansions,
    ∀ image ∈ expansion.2.filterMap CodePoint.ofNat?, image.lower = [image] ∧ wordParts.contains image := by
  decide +kernel

theorem lowercase_titlecases : titlecases.all fun range =>
    (List.range' range.1 (range.2 - range.1 + 1)).all fun number =>
      (lowercaseExpansions.lookup number).isNone && !unmapped lowercaseRuns lowercaseExpansions number := by
  decide +kernel

/-! ### The uppercase table -/

theorem settled_uppercase : settled uppercaseRuns uppercaseExpansions := by
  decide +kernel

theorem uppercase_leads : uppercaseRuns.all (·.leads letters letters) := by
  decide +kernel

/-- Whether a number can follow in an uppercase form: that of a part of words with a single lowercase form,
which is another one if it is a capital. -/
def trails (number : Nat) : Bool :=
  wordParts.covers number number && !number.beq 0x3A3 && (lowercaseExpansions.lookup number).isNone &&
    (uppercases.covers number number != unmapped lowercaseRuns lowercaseExpansions number)

/-- Whether an expansion starts with a capital letter for good and holds no small letter. -/
def enlarges (expansion : Nat × List Nat) : Bool :=
  (expansion.2.all fun number => !lowercases.covers number number && !titlecases.covers number number) &&
    match expansion.2 with
    | [] => false
    | head :: tail =>
      letters.covers head head && head.blt 0x110000 && unmapped uppercaseRuns uppercaseExpansions head &&
        tail.all trails

theorem uppercase_enlarges : uppercaseExpansions.all enlarges := by
  decide +kernel

end Unicode

namespace CodePoint

open Unicode

variable {point image head : CodePoint} {tail : Text}

/-! ### Lowercase forms -/

/-- What a lowercase form is made of is its own lowercase form, and is part of words if the code point is. -/
theorem mem_lower (made : image ∈ point.lower) :
    image.lower = [image] ∧ (wordParts.contains point → wordParts.contains image) := by
  cases found : lowercaseExpansions.lookup point.value with
  | none =>
    rcases applyCase_single settled_lowercase found with ⟨other, mapped, kept, isImage⟩
    rw [lower, mapped, List.mem_singleton] at made
    subst made
    exact ⟨applyCase_of_unmapped kept,
      fun inWord => contains_of_applyCase (List.Subset.refl _) lowercase_leads inWord isImage⟩
  | some numbers =>
    rw [lower, applyCase_of_expansion found] at made
    have expanded := lowercase_expanded _ (mem_of_lookup found) image made
    exact ⟨expanded.1, fun _ => expanded.2⟩

theorem ne_sigma_of_lower (kept : point.lower = [point]) : point ≠ 'Σ' := by
  rintro rfl
  exact absurd kept (by decide +kernel)

theorem not_isTitlecase_of_lower (kept : point.lower = [point]) : ¬point.isTitlecase := by
  intro title
  rcases List.any_eq_true.mp title with ⟨range, listed, inside⟩
  simp only [Bool.and_eq_true, decide_eq_true_eq] at inside
  have member : point.value ∈ List.range' range.1 (range.2 - range.1 + 1) :=
    List.mem_range'.mpr ⟨point.value - range.1, by omega, by omega⟩
  have changed := List.all_eq_true.mp (List.all_eq_true.mp lowercase_titlecases range listed) _ member
  rw [Bool.and_eq_true, Option.isNone_iff_eq_none, Bool.not_eq_true'] at changed
  have same := (applyCase_eq_self_iff settled_lowercase changed.1).mp kept
  rw [changed.2] at same
  cases same

/-! ### Uppercase forms of letters -/

/-- What can follow in the uppercase form of a letter. -/
structure Trails (point : CodePoint) : Prop where
  inWord : wordParts.contains point
  ne_sigma : point ≠ 'Σ'
  single : ∃ image, point.lower = [image]
  capital : point.isUppercase ↔ point.lower ≠ [point]

/-- The uppercase form of a letter, which is a letter and more only if it has an expansion. -/
structure Capital (point head : CodePoint) (tail : Text) : Prop where
  form : point.upper = head :: tail
  isLetter : head.isLetter
  kept : head.upper = [head]
  trails : ∀ other ∈ tail, Trails other
  large : tail ≠ [] → ∀ other ∈ head :: tail, ¬other.isLowercase ∧ ¬other.isTitlecase

theorem trails_of_value (trails : Unicode.trails point.value) : Trails point := by
  simp only [Unicode.trails, Bool.and_eq_true, Bool.not_eq_true', Option.isNone_iff_eq_none, bne_iff_ne] at trails
  rcases trails with ⟨⟨⟨inWord, notSigma⟩, unlisted⟩, capital⟩
  rcases applyCase_single settled_lowercase unlisted with ⟨image, mapped, _⟩
  refine ⟨?_, ?_, ⟨image, mapped⟩, ?_⟩
  · rwa [contains_eq_covers]
  · rintro rfl
    exact absurd notSigma (by decide)
  · rw [isUppercase, contains_eq_covers, lower, ne_eq, applyCase_eq_self_iff settled_lowercase unlisted,
      Bool.eq_not.mpr capital, Bool.not_eq_true', Bool.not_eq_true]

theorem exists_capital (letter : point.isLetter) : ∃ head tail, Capital point head tail := by
  cases found : uppercaseExpansions.lookup point.value with
  | none =>
    -- Without an expansion the form is a single letter, so that nothing has to be known of a tail.
    rcases applyCase_single settled_uppercase found with ⟨image, mapped, kept, isImage⟩
    have isLetter := contains_of_applyCase (List.Subset.refl _) uppercase_leads letter isImage
    exact ⟨image, [], mapped, isLetter, applyCase_of_unmapped kept, by simp, by simp⟩
  | some numbers =>
    have large := List.all_eq_true.mp uppercase_enlarges _ (mem_of_lookup found)
    have form : point.upper = _ := applyCase_of_expansion found
    cases numbers with
    | nil => simp [enlarges] at large
    | cons number rest =>
      simp only [enlarges, Bool.and_eq_true, List.all_eq_true, Nat.blt_eq, Bool.not_eq_true'] at large
      rcases large with ⟨members, ⟨⟨isLetter, valid⟩, kept⟩, trails⟩
      cases made : ofNat? number with
      | none =>
        have := ofNat?_eq_none.mp made
        omega
      | some head =>
        have isHead := value_of_ofNat? made
        rw [List.filterMap_cons_some made] at form
        refine ⟨head, _, form, ?_, applyCase_of_unmapped (isHead ▸ kept), ?_, ?_⟩
        · rwa [CodePoint.isLetter, contains_eq_covers, isHead]
        · intro other member
          rcases List.mem_filterMap.mp member with ⟨listed, inRest, isOther⟩
          rw [← value_of_ofNat? isOther] at inRest
          exact trails_of_value (trails _ inRest)
        · intro _ other member
          rw [← List.filterMap_cons_some made] at member
          rcases List.mem_filterMap.mp member with ⟨listed, inNumbers, isOther⟩
          rw [← value_of_ofNat? isOther] at inNumbers
          rw [isLowercase, isTitlecase, contains_eq_covers, contains_eq_covers, Bool.not_eq_true, Bool.not_eq_true]
          exact members _ inNumbers

end CodePoint

/-! ### Lowercase forms of texts -/

namespace Text

open Unicode

variable {text : Text}

/-- The lowercase form of a text is made of those of its code points and of the two forms of sigma. -/
theorem mem_lower_cases {image : CodePoint} (made : image ∈ text.lower) :
    image ∈ ofString "ς" ++ ofString "σ" ∨ ∃ point ∈ text, image ∈ point.lower := by
  have after : ∀ before, image ∈ lowerAfter before text →
      image ∈ ofString "ς" ++ ofString "σ" ∨ ∃ point ∈ text, image ∈ point.lower := by
    clear made
    induction text with
    | nil => simp [lowerAfter]
    | cons point rest ih =>
      intro before made
      rcases List.mem_append.mp made with here | later
      · unfold lowerBetween at here
        split at here
        · rw [List.mem_append]
          split at here
          · exact Or.inl (Or.inl here)
          · exact Or.inl (Or.inr here)
        · exact Or.inr ⟨point, List.mem_cons_self, here⟩
      · rcases ih _ later with sigma | ⟨other, member, mapped⟩
        · exact Or.inl sigma
        · exact Or.inr ⟨other, List.mem_cons_of_mem _ member, mapped⟩
  exact after [] made

theorem mem_lower {image : CodePoint} (made : image ∈ text.lower) :
    image.lower = [image] ∧ ((∀ point ∈ text, wordParts.contains point) → wordParts.contains image) := by
  have sigmas : ∀ sigma ∈ ofString "ς" ++ ofString "σ", sigma.lower = [sigma] ∧ wordParts.contains sigma := by
    decide +kernel
  rcases mem_lower_cases made with sigma | ⟨point, member, mapped⟩
  · exact ⟨(sigmas image sigma).1, fun _ => (sigmas image sigma).2⟩
  · rcases CodePoint.mem_lower mapped with ⟨kept, leads⟩
    exact ⟨kept, fun inWord => leads (inWord point member)⟩

theorem lower_eq_self_iff (single : ∀ point ∈ text, point ≠ 'Σ' ∧ ∃ image, point.lower = [image]) :
    text.lower = text ↔ ∀ point ∈ text, point.lower = [point] := by
  have after : ∀ before, lowerAfter before text = text ↔ ∀ point ∈ text, point.lower = [point] := by
    induction text with
    | nil => simp [lowerAfter]
    | cons point rest ih =>
      intro before
      rw [List.forall_mem_cons] at single ⊢
      rcases single with ⟨⟨notSigma, image, mapped⟩, later⟩
      rw [lowerAfter, lowerBetween, if_neg notSigma, mapped, List.singleton_append, List.cons.injEq, ih later,
        List.cons.injEq, eq_self, and_true]
  exact after []

end Text

end Phrasebook
