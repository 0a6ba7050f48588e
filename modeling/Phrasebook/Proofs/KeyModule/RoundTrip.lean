import Phrasebook.Proofs.KeyModule.Constants
import Phrasebook.Proofs.KeyModule.Lines

/-!
# Key modules read back

What is read from an emitted module are the classes of the namespace, in them the class for all keys,
and in this class what its members stand for. The lines of a member are deeper than those around it, so
that the body of each class ends where its last member does.
-/

namespace Phrasebook.KeyModule

open Outcome

mutual

/-- The statement that a member stands for. -/
def Member.statement : Member → Statement
  | .constant name keyPath texts =>
    .constant (texts.map fun entry => entry.1 ++ ": " ++ commentText entry.2) name keyPath
  | .nested name members => .nested name (statementsOf members)

/-- The statements that members stand for. -/
def statementsOf : List Member → List Statement
  | [] => []
  | member :: rest => member.statement :: statementsOf rest

end

mutual

/-- What the lines of a member at a depth say. -/
def Member.contents (depth : Nat) : Member → List Line
  | .constant name keyPath texts =>
    texts.map (fun entry => (depth, .comment (entry.1 ++ ": " ++ commentText entry.2))) ++
      [(depth, .constant name keyPath)]
  | .nested name members => (depth, .opening name) :: bodyContents (depth + 1) members

/-- What the lines of the body of a class at their depth say. -/
def bodyContents (depth : Nat) : List Member → List Line
  | [] => [(depth, .empty)]
  | first :: rest => first.contents depth ++ contentsOf depth rest

/-- What the lines of members at a depth say. -/
def contentsOf (depth : Nat) : List Member → List Line
  | [] => []
  | member :: rest => member.contents depth ++ contentsOf depth rest

end

/-- The lines of a member can be read: its name is one, its key path is plain, and the codes in its
comments stay in one line. -/
inductive Readable : List Member → Prop where
  | nil : Readable []
  | constant {name keyPath : Text} {texts : List (Text × Text)} {rest : List Member}
      (free : Key.IsFreeName name) (plain : IsPlain keyPath)
      (codes : ∀ entry ∈ texts, InOneLine entry.1) (others : Readable rest) :
      Readable (.constant name keyPath texts :: rest)
  | nested {name : Text} {members rest : List Member} (free : Key.IsFreeName name)
      (inner : Readable members) (others : Readable rest) : Readable (.nested name members :: rest)

variable {width depth : Nat} {members : List Member}

/-! ### From lines to what they say -/

theorem readLines_constant (positive : 0 < width) (depth : Nat) {name keyPath : Text}
    (texts : List (Text × Text)) (free : Key.IsFreeName name) (plain : IsPlain keyPath) :
    readLines width (Member.lines width depth (.constant name keyPath texts)) =
      some (Member.contents depth (.constant name keyPath texts)) := by
  induction texts with
  | nil => exact readLines_cons (readLine_constant positive free plain) rfl
  | cons entry rest ih => exact readLines_cons (readLine_comment positive entry.1 entry.2) ih

theorem readLines_nested (positive : 0 < width) (depth : Nat) {name : Text} (free : Key.IsFreeName name)
    (inner : readLines width (bodyLines width (depth + 1) members) =
      some (bodyContents (depth + 1) members)) :
    readLines width (Member.lines width depth (.nested name members)) =
      some (Member.contents depth (.nested name members)) :=
  readLines_cons (readLine_opening positive free.1) inner

/-- The lines of readable members are read, be they all that is in the body of a class or what follows
other lines. -/
theorem Readable.readLines (positive : 0 < width) (readable : Readable members) (depth : Nat) :
    KeyModule.readLines width (bodyLines width depth members) = some (bodyContents depth members) ∧
      KeyModule.readLines width (spacedLines width depth members) = some (contentsOf depth members) := by
  induction readable generalizing depth with
  | nil => exact ⟨readLines_cons (readLine_empty positive) rfl, rfl⟩
  | @constant name keyPath texts rest free plain codes others ih =>
    have here := readLines_append (readLines_constant positive depth texts free plain) (ih depth).2
    exact ⟨here, (readLines_blank _).trans here⟩
  | nested free inner others ihInner ih =>
    have here := readLines_append
      (readLines_nested positive depth free (ihInner (depth + 1)).1) (ih depth).2
    exact ⟨here, (readLines_blank _).trans here⟩

/-! ### From what lines say to statements -/

theorem readStatements_comments (depth : Nat) (waiting : List Text) (comments : List Text)
    (rest : List Line) :
    readStatements depth waiting (comments.map (fun text => (depth, .comment text)) ++ rest) =
      readStatements depth (waiting ++ comments) rest := by
  induction comments generalizing waiting with
  | nil => simp
  | cons text later ih =>
    rw [List.map_cons, List.cons_append, readStatements]
    simp [ih]

theorem readStatements_constant (depth : Nat) {name keyPath : Text} {texts : List (Text × Text)}
    {rest : List Line} {later : List Statement}
    (others : readStatements depth [] rest = some later) :
    readStatements depth [] (Member.contents depth (.constant name keyPath texts) ++ rest) =
      some (Member.statement (.constant name keyPath texts) :: later) := by
  have split : Member.contents depth (.constant name keyPath texts) ++ rest =
      (texts.map fun entry => entry.1 ++ ": " ++ commentText entry.2).map
        (fun text => (depth, .comment text)) ++ (depth, .constant name keyPath) :: rest := by
    simp [Member.contents, Function.comp_def]
  rw [split, readStatements_comments, readStatements]
  simp [others, Member.statement]

/-- The lines of a class are taken as its body, because they are deeper than what follows. -/
theorem readStatements_nested (depth : Nat) (name : Text) {body : List Statement}
    {inside rest : List Line} {later : List Statement}
    (deeper : ∀ line ∈ inside, depth < line.1) (stop : ∀ line ∈ rest.head?, line.1 = depth)
    (inner : readBody (depth + 1) inside = some body)
    (others : readStatements depth [] rest = some later) :
    readStatements depth [] ((depth, .opening name) :: (inside ++ rest)) =
      some (.nested name body :: later) := by
  have all : ∀ line ∈ inside, decide (depth < line.1) := by
    simpa using deeper
  have ends : ∀ line ∈ rest.head?, ¬decide (depth < line.1) := by
    intro line first
    simp [stop line first]
  rw [readStatements, takeWhile_exact all ends, dropWhile_exact all ends]
  simp [inner, others]

/-- The first line of a member is at its depth and starts a statement. -/
theorem Member.contents_eq_cons (depth : Nat) (member : Member) :
    ∃ said rest, member.contents depth = (depth, said) :: rest ∧ said ≠ .empty ∧
      said ≠ .description := by
  cases member with
  | constant name keyPath texts =>
    cases texts with
    | nil => exact ⟨_, [], rfl, by simp, by simp⟩
    | cons entry rest => exact ⟨_, _, rfl, by simp, by simp⟩
  | nested name members => exact ⟨_, _, rfl, by simp, by simp⟩

theorem head_contentsOf (depth : Nat) (members : List Member) :
    ∀ line ∈ (contentsOf depth members).head?, line.1 = depth := by
  cases members with
  | nil => simp [contentsOf]
  | cons member rest =>
    rcases member.contents_eq_cons depth with ⟨said, others, opened, _⟩
    simp [contentsOf, opened]

theorem readBody_contents (depth : Nat) (member : Member) (rest : List Member) :
    readBody depth (bodyContents depth (member :: rest)) =
      readStatements depth [] (contentsOf depth (member :: rest)) := by
  rcases member.contents_eq_cons depth with ⟨said, others, opened, notEmpty, notDescription⟩
  rw [bodyContents, contentsOf, opened, List.cons_append, readBody]
  · intro deep same
    cases same
    exact absurd rfl notEmpty
  · intro deep same
    cases same
    exact absurd rfl notDescription

mutual

/-- What the lines of a member say is at their depth or deeper. -/
theorem Member.depth_le (depth : Nat) (member : Member) :
    ∀ line ∈ member.contents depth, depth ≤ line.1 := by
  cases member with
  | constant name keyPath texts =>
    intro line given
    simp only [Member.contents, List.mem_append, List.mem_map, List.mem_singleton] at given
    rcases given with ⟨_, _, rfl⟩ | rfl <;> exact Nat.le_refl depth
  | nested name members =>
    intro line given
    rcases List.mem_cons.mp given with rfl | inside
    · exact Nat.le_refl depth
    · exact Nat.le_of_succ_le (bodyContents_depth_le (depth + 1) members line inside)

theorem bodyContents_depth_le (depth : Nat) (members : List Member) :
    ∀ line ∈ bodyContents depth members, depth ≤ line.1 := by
  cases members with
  | nil => simp [bodyContents]
  | cons first rest =>
    intro line given
    rcases List.mem_append.mp given with inFirst | later
    · exact first.depth_le depth line inFirst
    · exact contentsOf_depth_le depth rest line later

theorem contentsOf_depth_le (depth : Nat) (members : List Member) :
    ∀ line ∈ contentsOf depth members, depth ≤ line.1 := by
  cases members with
  | nil => simp [contentsOf]
  | cons first rest =>
    intro line given
    rcases List.mem_append.mp given with inFirst | later
    · exact first.depth_le depth line inFirst
    · exact contentsOf_depth_le depth rest line later

end

mutual

/-- The lines of a member are taken as the statement that it stands for. -/
theorem Member.readStatements (depth : Nat) (member : Member) {rest : List Line}
    {later : List Statement} (stop : ∀ line ∈ rest.head?, line.1 = depth)
    (others : readStatements depth [] rest = some later) :
    readStatements depth [] (member.contents depth ++ rest) = some (member.statement :: later) := by
  cases member with
  | constant name keyPath texts => exact readStatements_constant depth others
  | nested name members =>
    have deeper : ∀ line ∈ bodyContents (depth + 1) members, depth < line.1 :=
      bodyContents_depth_le (depth + 1) members
    exact readStatements_nested depth name deeper stop (readBody_bodyContents (depth + 1) members) others

theorem readBody_bodyContents (depth : Nat) (members : List Member) :
    readBody depth (bodyContents depth members) = some (statementsOf members) := by
  cases members with
  | nil => simp [bodyContents, readBody, statementsOf]
  | cons first rest =>
    rw [readBody_contents]
    exact first.readStatements depth (head_contentsOf depth rest)
      (readStatements_contentsOf depth rest)

theorem readStatements_contentsOf (depth : Nat) (members : List Member) :
    readStatements depth [] (contentsOf depth members) = some (statementsOf members) := by
  cases members with
  | nil => simp [contentsOf, readStatements, statementsOf]
  | cons first rest =>
    exact first.readStatements depth (head_contentsOf depth rest)
      (readStatements_contentsOf depth rest)

end

/-! ### Readable members -/

theorem mem_constantsIn_of_nested {name : Text} {nested : List Member} {constant : Constant}
    (given : .nested name nested ∈ members) (inside : constant ∈ constantsIn nested) :
    constant ∈ constantsIn members := by
  induction members with
  | nil => cases given
  | cons first rest ih =>
    rw [constantsIn, List.mem_append]
    rcases List.mem_cons.mp given with rfl | later
    · exact Or.inl inside
    · exact Or.inr (ih later)

/-- The lines of a constant can be read. -/
def Constant.Fits (constant : Constant) : Prop :=
  IsPlain constant.keyPath ∧ ∀ entry ∈ constant.texts, InOneLine entry.1

theorem Readable.of_members (free : ∀ member ∈ members, Key.IsFreeName member.name)
    (inner : ∀ name nested, .nested name nested ∈ members → Readable nested)
    (constants : ∀ constant ∈ constantsIn members, constant.Fits) : Readable members := by
  induction members with
  | nil => exact .nil
  | cons first rest ih =>
    simp only [constantsIn, List.mem_append] at constants
    have others := ih (fun member given => free member (List.mem_cons_of_mem _ given))
      (fun name nested given => inner name nested (List.mem_cons_of_mem _ given))
      (fun constant given => constants constant (Or.inr given))
    have named := free first List.mem_cons_self
    cases first with
    | constant name keyPath texts =>
      have fits := constants ⟨name, keyPath, texts⟩ (Or.inl List.mem_cons_self)
      exact .constant named fits.1 fits.2 others
    | nested name members => exact .nested named (inner name members List.mem_cons_self) others

theorem Readable.of_wellNamed (named : WellNamed members)
    (constants : ∀ constant ∈ constantsIn members, constant.Fits) : Readable members := by
  induction named with
  | intro _ free _ ih =>
    apply Readable.of_members free _ constants
    intro name nested given
    exact ih name nested given fun constant inside =>
      constants constant (mem_constantsIn_of_nested given inside)

theorem Declares.plain {parent : Option Text} {nodes : List Node}
    (declares : Declares parent nodes members) (above : ∀ path ∈ parent, IsPlain path) :
    ∀ constant ∈ constantsIn members, IsPlain constant.keyPath := by
  induction declares with
  | nil => simp [constantsIn]
  | leaf valid _ _ others =>
    have path := IsPlain.join above (isPlain_of_isValid valid)
    simpa [constantsIn, Member.constants] using ⟨path, others above⟩
  | branch valid _ _ _ _ inner others =>
    have path := IsPlain.join above (isPlain_of_isValid valid)
    intro constant given
    simp only [constantsIn, Member.constants, List.mem_append] at given
    rcases given with inside | later
    · exact inner (by simpa using path) constant inside
    · exact others above constant later
  | branchWithTexts valid _ _ _ _ _ inner others =>
    have path := IsPlain.join above (isPlain_of_isValid valid)
    intro constant given
    simp only [constantsIn, Member.constants, List.mem_append, List.mem_singleton] at given
    rcases given with rfl | inside | later
    · exact path
    · exact inner (by simpa using path) constant inside
    · exact others above constant later

/-- Members that declare the nodes of a tree can be read, if the codes in it stay in one line. -/
theorem Readable.of_declares {roots : List Node} (declares : Declares none roots members)
    (named : WellNamed members)
    (codes : ∀ entry ∈ Node.walk roots, ∀ code ∈ entry.2.texts.codes, InOneLine code) :
    Readable members := by
  apply Readable.of_wellNamed named
  intro constant given
  refine ⟨declares.plain (by simp) constant given, ?_⟩
  rcases exists_of_forall₂ declares.constants given with ⟨entry, isEntry, belongs⟩
  have met : entry ∈ Node.walk roots := by
    rw [Place.walk_eq_map_all]
    exact (List.mem_filter.mp isEntry).1
  intro stored inTexts
  rw [belongs.texts] at inTexts
  exact codes entry met stored.1 (List.mem_map_of_mem inTexts)

/-! ### Modules -/

/-- Members inside classes with some names, one in the other. -/
def enclose (members : List Member) : List Text → List Member
  | [] => members
  | name :: rest => [.nested name (enclose members rest)]

theorem WellNamed.enclose (named : WellNamed members) {names : List Text}
    (free : ∀ name ∈ names, Key.IsFreeName name) : WellNamed (KeyModule.enclose members names) := by
  induction names with
  | nil => exact named
  | cons name rest ih =>
    simp only [List.mem_cons, forall_eq_or_imp] at free
    exact .nested free.1 (ih free.2)

/-- What the lines say that open classes, one in the other. -/
def openings : Nat → List Text → List Line
  | _, [] => []
  | depth, name :: rest => (depth, .opening name) :: openings (depth + 1) rest

theorem readLines_namespaceLines (positive : 0 < width) (depth : Nat) {names : List Text}
    (free : ∀ name ∈ names, Key.IsFreeName name) :
    readLines width (namespaceLines width depth names) = some (openings depth names) := by
  induction names generalizing depth with
  | nil => rfl
  | cons name rest ih =>
    simp only [List.mem_cons, forall_eq_or_imp] at free
    exact readLines_cons (readLine_opening positive free.1.1) (ih (depth + 1) free.2)

theorem openings_depth_le {depth : Nat} {names : List Text} :
    ∀ line ∈ openings depth names, depth ≤ line.1 := by
  induction names generalizing depth with
  | nil => simp [openings]
  | cons name rest ih =>
    intro line given
    rcases List.mem_cons.mp given with rfl | later
    · exact Nat.le_refl depth
    · exact Nat.le_of_succ_le (ih line later)

theorem readBody_opening (depth deep : Nat) (name : Text) (rest : List Line) :
    readBody depth ((deep, .opening name) :: rest) =
      readStatements depth [] ((deep, .opening name) :: rest) := by
  rw [readBody] <;> simp

/-- Classes that are opened one in the other are read around the body of the last one. -/
theorem readBody_openings (depth : Nat) {names : List Text} {inner : List Line}
    (deeper : ∀ line ∈ inner, depth + names.length ≤ line.1)
    (read : readBody (depth + names.length) inner = some (statementsOf members)) :
    readBody depth (openings depth names ++ inner) = some (statementsOf (enclose members names)) := by
  induction names generalizing depth with
  | nil => exact read
  | cons name rest ih =>
    have next : depth + (name :: rest).length = depth + 1 + rest.length := by
      simp only [List.length_cons]
      omega
    rw [next] at deeper read
    have inside : ∀ line ∈ openings (depth + 1) rest ++ inner, depth < line.1 := by
      intro line given
      rcases List.mem_append.mp given with opened | below
      · exact openings_depth_le line opened
      · have := deeper line below
        omega
    have body := readStatements_nested depth name inside (by simp) (ih (depth + 1) deeper read)
      (show readStatements depth [] [] = some [] by simp [readStatements])
    rw [List.append_nil] at body
    exact (readBody_opening depth depth name _).trans body

/-- What the lines of a module say. -/
def moduleContents (names : List Text) (members : List Member) : List Line :=
  (0, .description) :: openings 0 names ++
    ((names.length, .description) :: contentsOf names.length members)

theorem readBody_moduleContents {names : List Text} (given : names ≠ []) :
    readBody 0 (moduleContents names members) = some (statementsOf (enclose members names)) := by
  have deeper : ∀ line ∈ (names.length, LineContent.description) :: contentsOf names.length members,
      0 + names.length ≤ line.1 := by
    rw [Nat.zero_add]
    intro line given
    rcases List.mem_cons.mp given with rfl | later
    · exact Nat.le_refl _
    · exact contentsOf_depth_le _ members line later
  have described : readBody (0 + names.length)
      ((names.length, .description) :: contentsOf names.length members) =
        some (statementsOf members) := by
    rw [Nat.zero_add, readBody, if_pos rfl]
    exact readStatements_contentsOf names.length members
  have whole := readBody_openings 0 deeper described
  cases names with
  | nil => exact absurd rfl given
  | cons name rest =>
    rw [moduleContents, List.cons_append, readBody, if_pos rfl]
    exact (readBody_opening 0 0 name _).symm.trans whole

theorem readLines_remark (width : Nat) (text : Text) (rest : List Text) :
    readLines width ((.scalar '#' :: .scalar ' ' :: text) :: rest) = readLines width rest := by
  cases read : readLines width rest <;> simp [readLines, readLine, readContent, read]

theorem readLines_headerLines (positive : 0 < width) (hash : Text) :
    readLines width (headerLines hash) = some [(0, .description)] := by
  have description : readLine width
      (indentation width 0 ++ "\"\"\"Key paths for LocalizationContext.for_key().\"\"\"") =
        some (some (0, .description)) :=
    readLine_indented positive (by decide) (by decide +kernel)
  have blanks : readLines width [[], []] = some [] := by
    rw [readLines_blank, readLines_blank]
    rfl
  apply (readLines_remark width _ _).trans
  apply (readLines_remark width _ _).trans
  apply (readLines_remark width _ _).trans
  apply (readLines_remark width _ _).trans
  exact readLines_cons description blanks

theorem readLine_rootDescription (positive : 0 < width) (depth : Nat) :
    readLine width (indentation width depth ++ rootDescription) = some (some (depth, .description)) :=
  readLine_indented positive (by decide) (by decide +kernel)

theorem readLines_moduleLines {options : Options} (positive : 0 < options.indentWidth)
    (free : ∀ name ∈ options.namespaces ++ [options.rootClass], Key.IsFreeName name)
    (readable : Readable members) (hash : Text) :
    readLines options.indentWidth (moduleLines options hash members) =
      some (moduleContents (options.namespaces ++ [options.rootClass]) members) := by
  have spaced := (readable.readLines positive (options.namespaces.length + 1)).2
  have described := readLines_cons
    (readLine_rootDescription positive (options.namespaces.length + 1)) spaced
  have opened := readLines_append (readLines_headerLines positive hash)
    (readLines_namespaceLines positive 0 free)
  have whole := readLines_append opened described
  simpa [moduleLines, openingLines, moduleContents] using whole

/-! ### Texts -/

theorem inOneLine_indented (width depth : Nat) {content : Text} (flat : InOneLine content) :
    InOneLine (indentation width depth ++ content) := by
  refine InOneLine.append ?_ flat
  intro point member
  rw [List.eq_of_mem_replicate member]
  decide

theorem inOneLine_classLine {name : Text} (free : Key.IsFreeName name) :
    InOneLine (classLine name) := by
  apply InOneLine.append
  · apply InOneLine.append
    · decide
    · exact inOneLine_of_isIdentifier free.1
  · decide

theorem inOneLine_commentLine {code : Text} (flat : InOneLine code) (text : Text) :
    InOneLine (commentLine code text) := by
  apply InOneLine.append
  · apply InOneLine.append
    · apply InOneLine.append
      · decide
      · exact flat
    · decide
  · exact inOneLine_commentText text

theorem inOneLine_constantLine {name keyPath : Text} (free : Key.IsFreeName name)
    (plain : IsPlain keyPath) : InOneLine (constantLine name keyPath) := by
  apply InOneLine.append
  · apply InOneLine.append
    · apply InOneLine.append
      · exact inOneLine_of_isIdentifier free.1
      · decide
    · exact plain.inOneLine
  · decide

theorem inOneLine_constant (width depth : Nat) {name keyPath : Text} {texts : List (Text × Text)}
    (free : Key.IsFreeName name) (plain : IsPlain keyPath)
    (codes : ∀ entry ∈ texts, InOneLine entry.1) :
    ∀ line ∈ Member.lines width depth (.constant name keyPath texts), InOneLine line := by
  intro line given
  simp only [Member.lines, List.map_append, List.map_map, List.map_cons, List.map_nil,
    List.mem_append, List.mem_map, List.mem_singleton, Function.comp_apply] at given
  rcases given with ⟨entry, stored, rfl⟩ | rfl
  · exact inOneLine_indented width depth (inOneLine_commentLine (codes entry stored) entry.2)
  · exact inOneLine_indented width depth (inOneLine_constantLine free plain)

/-- The lines of readable members have no breaks in them. -/
theorem Readable.inOneLine (readable : Readable members) (depth : Nat) :
    (∀ line ∈ bodyLines width depth members, InOneLine line) ∧
      ∀ line ∈ spacedLines width depth members, InOneLine line := by
  have blank : InOneLine [] := by decide
  induction readable generalizing depth with
  | nil =>
    constructor
    · simpa [bodyLines] using inOneLine_indented width depth (show InOneLine "pass" by decide)
    · simp [spacedLines]
  | @constant name keyPath texts rest free plain codes others ih =>
    have here := List.forall_mem_append.mpr
      ⟨inOneLine_constant width depth free plain codes, (ih depth).2⟩
    exact ⟨here, List.forall_mem_cons.mpr ⟨blank, here⟩⟩
  | nested free inner others ihInner ih =>
    have opening := inOneLine_indented width depth (inOneLine_classLine free)
    have here := List.forall_mem_append.mpr
      ⟨List.forall_mem_cons.mpr ⟨opening, (ihInner (depth + 1)).1⟩, (ih depth).2⟩
    exact ⟨here, List.forall_mem_cons.mpr ⟨blank, here⟩⟩

theorem inOneLine_headerLines {hash : Text} (flat : InOneLine hash) :
    ∀ line ∈ headerLines hash, InOneLine line := by
  have stamped : InOneLine (hashMark ++ hash) := by
    apply InOneLine.append
    · decide
    · exact flat
  simp only [headerLines, List.forall_mem_cons, List.not_mem_nil, false_imp_iff, implies_true,
    and_true]
  exact ⟨by decide +kernel, by decide +kernel, stamped, by decide, by decide +kernel, by decide,
    by decide⟩

theorem inOneLine_namespaceLines (width depth : Nat) {names : List Text}
    (free : ∀ name ∈ names, Key.IsFreeName name) :
    ∀ line ∈ namespaceLines width depth names, InOneLine line := by
  induction names generalizing depth with
  | nil => simp [namespaceLines]
  | cons name rest ih =>
    rw [List.forall_mem_cons] at free
    exact List.forall_mem_cons.mpr
      ⟨inOneLine_indented width depth (inOneLine_classLine free.1), ih (depth + 1) free.2⟩

theorem inOneLine_moduleLines {options : Options} {hash : Text}
    (free : ∀ name ∈ options.namespaces ++ [options.rootClass], Key.IsFreeName name)
    (readable : Readable members) (flat : InOneLine hash) :
    ∀ line ∈ moduleLines options hash members, InOneLine line := by
  have description := inOneLine_indented options.indentWidth (options.namespaces.length + 1)
    (show InOneLine rootDescription by decide)
  simp only [moduleLines, openingLines, List.forall_mem_append]
  refine ⟨⟨⟨inOneLine_headerLines flat, inOneLine_namespaceLines _ 0 free⟩, ?_⟩,
    (readable.inOneLine _).2⟩
  simpa using description

theorem unifyBreaks_of_not_mem {text : Text} (free : .scalar '\r' ∉ text) :
    TextFile.unifyBreaks text = text := by
  fun_induction TextFile.unifyBreaks text <;> simp_all

/-- A text of lines that end with line feeds is cut into these lines, and nothing after the last feed. -/
theorem splitOn_joinWith_lines {lines : List Text} (given : lines ≠ [])
    (flat : ∀ line ∈ lines, InOneLine line) :
    (TextFile.unifyBreaks (Text.joinWith "\n" lines ++ "\n")).splitOn '\n' = lines ++ [[]] := by
  have allFlat : ∀ line ∈ lines ++ [[]], InOneLine line :=
    List.forall_mem_append.mpr ⟨flat, by simp [InOneLine]⟩
  have noFeed : ∀ line ∈ lines ++ [[]], .scalar '\n' ∉ line := by
    intro line isLine inLine
    exact (allFlat line isLine _ inLine).1 rfl
  have noReturn : .scalar '\r' ∉ Text.joinWith "\n" (lines ++ [[]]) := by
    intro inside
    rcases Text.mem_joinWith inside with inSeparator | ⟨line, isLine, inLine⟩
    · revert inSeparator
      decide
    · exact (allFlat line isLine _ inLine).2 rfl
  rw [← Text.joinWith_append_nil given, unifyBreaks_of_not_mem noReturn]
  exact Text.splitOn_joinWith (by simp) noFeed

/-- A text of lines that end with line feeds is read line by line. -/
theorem readModule_joinWith {lines : List Text} (given : lines ≠ [])
    (flat : ∀ line ∈ lines, InOneLine line) {said : List Line}
    (read : readLines width lines = some said) :
    readModule width (Text.joinWith "\n" lines ++ "\n") = readBody 0 said := by
  have blank : readLines width [[]] = some [] := readLines_blank []
  have whole := readLines_append read blank
  rw [readModule, splitOn_joinWith_lines given flat, whole]
  simp

/-! ### Emitted modules -/

theorem isFreeName_of_isName {name : Text} (accepted : isName name) : Key.IsFreeName name := by
  simp only [isName, Bool.and_eq_true, decide_eq_true_eq] at accepted
  exact Key.isFreeName_of_identifier? accepted.2

/-- Accepted options hold what they were made from, and all names in them are good ones. -/
structure Options.Accepted (options : Options) (namespacePath : Option Text) (indentWidth : Int)
    (rootClass : Text) : Prop where
  namespaces : options.namespaces = namespaceNames namespacePath
  rootClass : options.rootClass = rootClass
  indentWidth : options.indentWidth = indentWidth.toNat
  positive : 0 < options.indentWidth
  free : ∀ name ∈ options.namespaces ++ [options.rootClass], Key.IsFreeName name

theorem Options.accepted_of_make {namespacePath : Option Text} {indentWidth : Int}
    {rootClass : Text} {options : Options}
    (made : Options.make namespacePath indentWidth rootClass = .ok options) :
    options.Accepted namespacePath indentWidth rootClass := by
  unfold Options.make at made
  extract_lets namespaces shown at made
  split at made
  · cases made
  · rename_i wide
    split at made
    · cases made
    · rename_i noneBad
      split at made
      · cases made
      · cases made
        refine ⟨rfl, rfl, rfl, by simp only; omega, ?_⟩
        intro name given
        have good := List.find?_eq_none.mp noneBad name given
        exact isFreeName_of_isName (by simpa using good)

/-- What is read from an emitted module are the classes of the namespace and the class for all keys,
one in the other, and in this class what the members stand for that declare the forest of the tree. All
names are free, and those in one class are distinct. -/
theorem readModule_emit {namespacePath : Option Text} {indentWidth : Int} {rootClass : Text}
    {options : Options} {tree : Tree} {text : Text}
    (accepted : Options.make namespacePath indentWidth rootClass = .ok options)
    (emitted : (emit options tree).result = .ok text)
    (codes : ∀ entry ∈ tree.walk, ∀ code ∈ entry.2.texts.codes, InOneLine code)
    (hash : InOneLine tree.sourceHash) :
    ∃ members, Declares none tree.roots members ∧
      WellNamed (enclose members (namespaceNames namespacePath ++ [rootClass])) ∧
      readModule indentWidth.toNat text =
        some (statementsOf (enclose members (namespaceNames namespacePath ++ [rootClass]))) := by
  have given := Options.accepted_of_make accepted
  rcases emit_eq_ok.mp emitted with ⟨_, members, made, rfl⟩
  have declared := declared_of_membersOfAll _ made
  have readable := Readable.of_declares declared.declares declared.named codes
  have flat := inOneLine_moduleLines given.free readable hash
  have lines := readLines_moduleLines given.positive given.free readable tree.sourceHash
  have nonempty : moduleLines options tree.sourceHash members ≠ [] := by
    simp [moduleLines, openingLines, headerLines]
  have named := declared.named.enclose given.free
  have read := (readModule_joinWith nonempty flat lines).trans
    (readBody_moduleContents (by simp))
  rw [given.namespaces, given.rootClass] at named read
  rw [given.indentWidth] at read
  exact ⟨members, declared.declares, named, read⟩

theorem readModule_emit_dotted :
    ∃ options text members,
      Options.make (some "game.text") 3 defaultRootClass = .ok options ∧
      (emit options dottedTree).result = .ok text ∧ Declares none dottedForest members ∧
      WellNamed (enclose members ["game", "text", defaultRootClass]) ∧
      readModule 3 text =
        some (statementsOf (enclose members ["game", "text", defaultRootClass])) := by
  have accepted : Options.make (some "game.text") 3 defaultRootClass =
      .ok ⟨["game", "text"], 3, defaultRootClass⟩ := by
    decide +kernel
  have succeeds : (emit ⟨["game", "text"], 3, defaultRootClass⟩ dottedTree).result.toOption.isSome := by
    decide +kernel
  have codes : ∀ entry ∈ dottedTree.walk, ∀ code ∈ entry.2.texts.codes, InOneLine code := by
    decide +kernel
  cases emitted : (emit ⟨["game", "text"], 3, defaultRootClass⟩ dottedTree).result with
  | error failure => simp [emitted, Except.toOption] at succeeds
  | ok text =>
    rcases readModule_emit accepted emitted codes (by decide +kernel) with
      ⟨members, declares, named, read⟩
    exact ⟨_, text, members, accepted, emitted, declares, named, read⟩

end Phrasebook.KeyModule
