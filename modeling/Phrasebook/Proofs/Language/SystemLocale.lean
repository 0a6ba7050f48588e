import Phrasebook.Language.Locale
import Phrasebook.Proofs.Text.Replacing
import Phrasebook.Proofs.Text.Split

/-!
# The locale of the system

The sources that may name the locale of a system are asked in turn. A source is passed over if it is empty
or a pseudo-locale as it stands, and the encoding of the first source that is left is cut off afterwards. So
a pseudo-locale with an encoding is not passed over: it is the answer, without its encoding, and hides the
sources after it.
-/

namespace Phrasebook.Locale

/-- A code names no language: it is empty or one of the two pseudo-locales. -/
def IsPseudo (code : Text) : Prop := code = [] ∨ code = "C" ∨ code = "POSIX"

instance (code : Text) : Decidable (IsPseudo code) :=
  inferInstanceAs (Decidable (_ ∨ _ ∨ _))

/-- What a source names, without the encoding after a period. -/
def withoutEncoding (source : Text) : Text := Text.firstPiece '.' source

/-- A source names no language, but has an encoding. -/
def IsEncodedPseudo (source : Text) : Prop :=
  ∃ code encoding, IsPseudo code ∧ source = code ++ .scalar '.' :: encoding

/-- A source, unless it names no language as it stands. -/
def kept? : Option Text → Option Text
  | none => none
  | some source => if IsPseudo source then none else some source

/-- What a source names, unless this is no language. -/
def named? : Option Text → Option Text
  | none => none
  | some source =>
    if IsPseudo (withoutEncoding source) then none else some (normalize (withoutEncoding source))

variable {code source : Text}

/-! ### One source -/

theorem usable?_eq (source : Option Text) :
    usable? source = (kept? source).map fun kept => normalize (withoutEncoding kept) := by
  cases source with
  | none => rfl
  | some code =>
    have same : (code.isEmpty ∨ code = "C" ∨ code = "POSIX") ↔ IsPseudo code := by
      rw [IsPseudo, List.isEmpty_iff]
    simp only [usable?, kept?, same]
    split <;> rfl

theorem IsPseudo.separators_not_mem (pseudo : IsPseudo code) :
    .scalar '.' ∉ code ∧ .scalar '-' ∉ code ∧ .scalar '_' ∉ code := by
  rcases pseudo with rfl | rfl | rfl <;> decide

theorem withoutEncoding_of_isPseudo (pseudo : IsPseudo source) : withoutEncoding source = source :=
  Text.firstPiece_of_not_mem pseudo.separators_not_mem.1

/-- What is left of a source names no language exactly if the source is such a code or has an encoding after
one. -/
theorem isPseudo_withoutEncoding :
    IsPseudo (withoutEncoding source) ↔ IsPseudo source ∨ IsEncodedPseudo source := by
  constructor
  · intro pseudo
    by_cases encoded : .scalar '.' ∈ source
    · rcases Text.exists_eq_firstPiece_append encoded with ⟨encoding, same⟩
      exact Or.inr ⟨_, encoding, pseudo, same⟩
    · rw [withoutEncoding, Text.firstPiece_of_not_mem encoded] at pseudo
      exact Or.inl pseudo
  · rintro (pseudo | ⟨code, encoding, pseudo, rfl⟩)
    · rwa [withoutEncoding_of_isPseudo pseudo]
    · rwa [withoutEncoding, Text.firstPiece_append_cons pseudo.separators_not_mem.1]

/-- A dash that becomes an underscore makes no code one that names no language. -/
theorem isPseudo_normalize : IsPseudo (normalize code) ↔ IsPseudo code := by
  have plain : .scalar '-' ∉ code → normalize code = code := Text.replace_of_not_mem
  constructor
  · intro pseudo
    by_cases dashed : .scalar '-' ∈ code
    · have underscore : .scalar '_' ∈ normalize code := Text.mem_replace.mpr (Or.inl ⟨dashed, by decide⟩)
      exact absurd underscore pseudo.separators_not_mem.2.2
    · rwa [plain dashed] at pseudo
  · intro pseudo
    rwa [plain pseudo.separators_not_mem.2.1]

theorem separators_not_mem_normalize (source : Text) :
    .scalar '.' ∉ normalize (withoutEncoding source) ∧ .scalar '-' ∉ normalize (withoutEncoding source) := by
  constructor
  · intro inside
    rcases Text.mem_replace.mp inside with ⟨_, isUnderscore⟩ | ⟨inPiece, _⟩
    · revert isUnderscore
      decide
    · exact Text.not_mem_firstPiece '.' source inPiece
  · exact Text.not_mem_replace (by decide)

/-- A source that is not left out for its encoding is as usable as what it names. -/
theorem usable?_eq_named? {source : Option Text} (plain : ∀ kept ∈ kept? source, ¬IsEncodedPseudo kept) :
    usable? source = named? source := by
  rw [usable?_eq]
  cases source with
  | none => rfl
  | some source =>
    rw [kept?, named?]
    by_cases pseudo : IsPseudo source
    · rw [if_pos pseudo, if_pos (isPseudo_withoutEncoding.mpr (Or.inl pseudo))]
      rfl
    · have bare : ¬IsEncodedPseudo source := plain source (by rw [kept?, if_neg pseudo]; rfl)
      rw [if_neg pseudo, if_neg (by simp [isPseudo_withoutEncoding, pseudo, bare])]
      rfl

theorem not_isPseudo_of_named? {source : Option Text} (given : named? source = some code) :
    ¬IsPseudo code := by
  cases source with
  | none => cases given
  | some source =>
    rw [named?] at given
    split at given
    · cases given
    · rename_i language
      cases given
      rwa [isPseudo_normalize]

/-! ### Sources in turn -/

/-- The sources that may name the locale, in turn. -/
def System.sources (system : System) : List (Option Text) :=
  system.current :: variableNames.map (system.environment.lookup ·)

/-- The first source that is not passed over as it stands. -/
def System.chosen? (system : System) : Option Text := system.sources.findSome? kept?

/-- The first language that a source names. -/
def System.firstNamed? (system : System) : Option Text := system.sources.findSome? named?

theorem findSome?_usable? (sources : List (Option Text)) :
    sources.findSome? usable? =
      (sources.findSome? kept?).map fun source => normalize (withoutEncoding source) := by
  rw [List.map_findSome?]
  exact congrArg (sources.findSome? ·) (funext usable?_eq)

theorem findSome?_usable?_eq_named? {sources : List (Option Text)}
    (plain : ∀ source ∈ sources.findSome? kept?, ¬IsEncodedPseudo source) :
    sources.findSome? usable? = sources.findSome? named? := by
  induction sources with
  | nil => rfl
  | cons first rest ih =>
    rw [List.findSome?_cons] at plain
    rw [List.findSome?_cons, List.findSome?_cons]
    cases kept : kept? first with
    | none =>
      rw [kept] at plain
      have same : usable? first = named? first := usable?_eq_named? (by simp [kept])
      rw [← same, usable?_eq, kept]
      exact ih plain
    | some source =>
      rw [kept] at plain
      have same : usable? first = named? first := usable?_eq_named? (by rw [kept]; exact plain)
      rw [← same, usable?_eq, kept]
      rfl

theorem not_isPseudo_of_chosen? {system : System} (chosen : system.chosen? = some source) :
    ¬IsPseudo source := by
  rcases List.exists_of_findSome?_eq_some chosen with ⟨given, _, kept⟩
  cases given with
  | none => cases kept
  | some other =>
    rw [kept?] at kept
    split at kept
    · cases kept
    · rename_i language
      cases kept
      exact language

theorem isPseudo_of_chosen? {system : System} (chosen : system.chosen? = some source) :
    IsPseudo (normalize (withoutEncoding source)) ↔ IsEncodedPseudo source := by
  rw [isPseudo_normalize, isPseudo_withoutEncoding, or_iff_right (not_isPseudo_of_chosen? chosen)]

theorem locale?_eq (system : System) :
    system.locale? = system.chosen?.map fun source => normalize (withoutEncoding source) :=
  findSome?_usable? system.sources

theorem locale?_not_isPseudo_iff {system : System} :
    (∀ code ∈ system.locale?, ¬IsPseudo code) ↔ ∀ source ∈ system.chosen?, ¬IsEncodedPseudo source := by
  rw [locale?_eq]
  constructor
  · intro claimed source chosen encoded
    have given : _ ∈ system.chosen?.map fun source => normalize (withoutEncoding source) :=
      Option.mem_map_of_mem _ chosen
    exact claimed _ given ((isPseudo_of_chosen? chosen).mpr encoded)
  · intro plain code given
    rcases Option.map_eq_some_iff.mp given with ⟨source, chosen, rfl⟩
    exact mt (isPseudo_of_chosen? chosen).mp (plain source chosen)

/-- The locale of a system has neither an encoding nor a dash. It is what the first source names that is not
passed over as it stands. So it is a language, and the first one that a source names, exactly if this source
is not a pseudo-locale with an encoding. -/
theorem locale_unless_encoded_pseudo (system : System) :
    (∀ code ∈ system.locale?, .scalar '.' ∉ code ∧ .scalar '-' ∉ code) ∧
    system.locale? = system.chosen?.map (fun source => normalize (withoutEncoding source)) ∧
    ((∀ code ∈ system.locale?, ¬IsPseudo code) ↔ ∀ source ∈ system.chosen?, ¬IsEncodedPseudo source) ∧
    (system.locale? = system.firstNamed? ↔ ∀ source ∈ system.chosen?, ¬IsEncodedPseudo source) := by
  refine ⟨?separated, locale?_eq system, locale?_not_isPseudo_iff, ?first⟩
  case separated =>
    rw [locale?_eq]
    intro code given
    rcases Option.map_eq_some_iff.mp given with ⟨source, _, rfl⟩
    exact separators_not_mem_normalize source
  case first =>
    constructor
    · intro same
      refine locale?_not_isPseudo_iff.mp fun code given => ?_
      rw [same] at given
      rcases List.exists_of_findSome?_eq_some given with ⟨source, _, named⟩
      exact not_isPseudo_of_named? named
    · exact fun plain => findSome?_usable?_eq_named? plain

/-- A system with a pseudo-locale and an encoding before a language. -/
def encodedSystem : System := ⟨none, [("LANG", "ja_JP.UTF-8"), ("LC_ALL", "C.UTF-8")]⟩

/-- The locale of this system is the pseudo-locale, though a source after it names a language. -/
theorem encoded_pseudo_hides_language :
    encodedSystem.locale? = some "C" ∧ encodedSystem.firstNamed? = some "ja_JP" ∧
      ¬∀ system : System, ∀ code ∈ system.locale?, ¬IsPseudo code := by
  have answer : encodedSystem.locale? = some "C" := by decide +kernel
  have named : encodedSystem.firstNamed? = some "ja_JP" := by decide +kernel
  exact ⟨answer, named, fun claimed => claimed encodedSystem "C" answer (by decide)⟩

end Phrasebook.Locale
