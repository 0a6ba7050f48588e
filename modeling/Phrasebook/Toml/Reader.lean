import Phrasebook.Host
import Phrasebook.Toml.Scalar
import Phrasebook.Toml.Table

/-!
# Reading settings files

A TOML text is a sequence of statements, one to a line: fields, headers of tables and headers of arrays
of tables. Every statement leaves a shorter text, which is why reading ends. A fault is found at the
code points that are left, and so its place is what has been read before.
-/

namespace Phrasebook.Toml

/-! ### Keys -/

/-- Whether a name may hold a code point without quotes. -/
def isBare (point : CodePoint) : Bool :=
  point.isAsciiLetter || point.isAsciiDigit || point = '-' || point = '_'

/-- Reads one name of a key. -/
def keyName (text : Text) : Except Stop (Taken Text text) :=
  match text with
  | [] => .error (.malformed .invalidKeyStart 0)
  | first :: rest =>
    if isBare first then
      .ok ⟨first :: rest.takeWhile isBare, rest.dropWhile isBare,
        dropWhile_shorter isBare first rest⟩
    else if first = '"' then doubleQuoted first rest
    else if first = '\'' then singleQuoted first rest
    else .error (.malformed .invalidKeyStart (rest.length + 1))

theorem shorter_of_skipBlanks {α : Type} {text rest : Text} (taken : Taken α text)
    (skipped : skipBlanks taken.rest = rest) : rest.length < text.length :=
  skipped ▸ Nat.lt_of_le_of_lt (skipBlanks_length_le taken.rest) taken.shorter

theorem skipBlanks_shorter {α : Type} {text rest : Text} {first : CodePoint} (taken : Taken α text)
    (skipped : skipBlanks taken.rest = first :: rest) : (skipBlanks rest).length < text.length :=
  Nat.lt_of_le_of_lt (skipBlanks_length_le rest)
    (Nat.lt_of_succ_lt (shorter_of_skipBlanks taken skipped))

theorem shorter_of_dot {α β : Type} {text rest : Text} {first : CodePoint} (taken : Taken α text)
    (skipped : skipBlanks taken.rest = first :: rest) (others : Taken β (skipBlanks rest)) :
    others.rest.length < text.length :=
  Nat.lt_trans others.shorter (skipBlanks_shorter taken skipped)

/-- Reads the names of a key with periods between them, and skips blanks around each. -/
def key (text : Text) : Except Stop (Taken Key text) :=
  match keyName text with
  | .error stop => .error stop
  | .ok first =>
    match dotted : skipBlanks first.rest with
    | .scalar '.' :: rest =>
      match key (skipBlanks rest) with
      | .error stop => .error stop
      | .ok others =>
        .ok ⟨first.value :: others.value, others.rest, shorter_of_dot first dotted others⟩
    | rest => .ok ⟨[first.value], rest, shorter_of_skipBlanks first dotted⟩
termination_by text.length
decreasing_by exact skipBlanks_shorter first dotted

/-! ### Comments -/

/-- What is left of a text after something is skipped. -/
abbrev Left (text : Text) := { rest : Text // rest.length ≤ text.length }

/-- Skips a comment up to the end of its line. -/
def skipComment (text : Text) : Except Stop (Left text) :=
  match text with
  | .scalar '#' :: content => do
    let rest := content.dropWhile (· != .scalar '\n')
    refuse isControl (content.takeWhile (· != .scalar '\n')) rest.length
    return ⟨rest, Nat.le_succ_of_le (dropWhile_length_le _ content)⟩
  | text => return ⟨text, Text.length_le_self text⟩

/-- Skips comments, blanks and line breaks. -/
def skipLines (text : Text) : Except Stop (Left text) :=
  have := skipSpace_length_le text
  match skipped : skipSpace text with
  | .scalar '#' :: content => do
    let rest := content.dropWhile (· != .scalar '\n')
    refuse isControl (content.takeWhile (· != .scalar '\n')) rest.length
    have shorter : rest.length < text.length := by
      have := dropWhile_length_le (· != .scalar '\n') content
      simp only [rest, skipped, List.length_cons] at *
      omega
    let left ← skipLines rest
    return ⟨left.1, Nat.le_trans left.2 (Nat.le_of_lt shorter)⟩
  | rest => return ⟨rest, by simp only [skipped] at this; exact this⟩
termination_by text.length

/-! ### Values -/

/-- Reads a truth value, if one starts here. -/
def truth? (text : Text) : Option (Taken Datum text) :=
  match text with
  | .scalar 't' :: .scalar 'r' :: .scalar 'u' :: .scalar 'e' :: rest =>
    some ⟨.bool true, rest, by simp only [List.length_cons]; omega⟩
  | .scalar 'f' :: .scalar 'a' :: .scalar 'l' :: .scalar 's' :: .scalar 'e' :: rest =>
    some ⟨.bool false, rest, by simp only [List.length_cons]; omega⟩
  | _ => none

/-- Reads a value that is neither an array nor an inline table. -/
def scalar (text : Text) : Except Stop (Taken Datum text) :=
  match string? text with
  | some read => read.map (·.map .text)
  | none =>
    match truth? text with
    | some taken => .ok taken
    | none =>
      match moment? text with
      | some read => read.map (·.map .moment)
      | none => (number? text).getD (.error (.malformed .invalidValue text.length))

/-- Whether a value is an array or an inline table. -/
def isNested : Datum → Bool
  | .list _ | .record _ => true
  | _ => false

/-- Sets the field of an inline table that a key names. -/
def insertInline (marks : Marks) (key : Key) (value : Datum) (table : Fields) :
    Except Reason Fields :=
  if marks.isFrozen key then .error (.frozen key)
  else
    let name := key.getLastD []
    reach false (insert (.duplicateInlineKey name) name value) key.dropLast table

theorem shorter_of_left {α : Type} {text after : Text} {point : CodePoint} (first : Taken α text)
    (left : Left first.rest) (ended : left.1 = point :: after) : after.length < text.length :=
  Nat.lt_trans (Text.length_lt_of_eq_cons ended left.2) first.shorter

theorem next_shorter {α : Type} {text after : Text} {point : CodePoint} (first : Taken α text)
    (left : Left first.rest) (ended : left.1 = point :: after) (next : Left after) :
    next.1.length < text.length :=
  Nat.lt_of_le_of_lt next.2 (shorter_of_left first left ended)

theorem shorter_of_next {α : Type} {text after last : Text} {point other : CodePoint}
    (first : Taken α text) (left : Left first.rest) (ended : left.1 = point :: after)
    (next : Left after) (closed : next.1 = other :: last) : last.length < text.length :=
  Text.length_lt_of_eq_cons closed (Nat.le_of_lt (next_shorter first left ended next))

theorem shorter_of_others {α β : Type} {text after inner : Text} {point : CodePoint}
    (first : Taken α text) (left : Left first.rest) (ended : left.1 = point :: after)
    (next : Left after) (closed : next.1 = inner) (others : Taken β inner) :
    others.rest.length < text.length := by
  subst closed
  exact Nat.lt_trans others.shorter (next_shorter first left ended next)

mutual

/-- Reads a value that may be nested to a given depth. -/
def value [Host] (depth : Nat) (text : Text) : Except Stop (Taken Datum text) :=
  match text with
  | .scalar '[' :: rest =>
    if depth < Host.tomlArrayDepth then .error .tooDeep
    else
      match skipLines rest with
      | .error stop => .error stop
      | .ok left =>
        have := left.2
        match opened : left.1 with
        | .scalar ']' :: after => .ok ⟨.list [], after, by
            simp only [opened, List.length_cons] at *
            omega⟩
        | inner =>
          match items (depth - Host.tomlArrayDepth) inner with
          | .error stop => .error stop
          | .ok taken => .ok ⟨.list taken.value, taken.rest, by
              have := taken.shorter
              simp only [opened, List.length_cons] at *
              omega⟩
  | .scalar '\x7b' :: rest =>
    if depth < Host.tomlTableDepth then .error .tooDeep
    else
      have := skipBlanks_length_le rest
      match opened : skipBlanks rest with
      | .scalar '\x7d' :: after => .ok ⟨.record [], after, by
          simp only [opened, List.length_cons] at *
          omega⟩
      | inner =>
        match fields (depth - Host.tomlTableDepth) [] {} inner with
        | .error stop => .error stop
        | .ok taken => .ok ⟨.record taken.value, taken.rest, by
            have := taken.shorter
            simp only [opened, List.length_cons] at *
            omega⟩
  | text => scalar text
termination_by 3 * text.length
decreasing_by
  all_goals
    simp only [opened, List.length_cons] at *
    omega

/-- Reads the items of an array up to its closing bracket. -/
def items [Host] (depth : Nat) (text : Text) : Except Stop (Taken (List Datum) text) :=
  match value depth text with
  | .error stop => .error stop
  | .ok first =>
    match skipLines first.rest with
    | .error stop => .error stop
    | .ok left =>
      match ended : left.1 with
      | .scalar ']' :: after => .ok ⟨[first.value], after, shorter_of_left first left ended⟩
      | .scalar ',' :: after =>
        match skipLines after with
        | .error stop => .error stop
        | .ok next =>
          match closed : next.1 with
          | .scalar ']' :: last =>
            .ok ⟨[first.value], last, shorter_of_next first left ended next closed⟩
          | inner =>
            match items depth inner with
            | .error stop => .error stop
            | .ok others =>
              .ok ⟨first.value :: others.value, others.rest,
                shorter_of_others first left ended next closed others⟩
      | other => .error (.malformed .unclosedArray other.length)
termination_by 3 * text.length + 1
decreasing_by
  · omega
  · have := next_shorter first left ended next
    simp only [closed] at this
    omega

/-- Reads a key and its value. -/
def field [Host] (depth : Nat) (text : Text) : Except Stop (Taken (Key × Datum) text) :=
  match key text with
  | .error stop => .error stop
  | .ok named =>
    have := named.shorter
    match equals : named.rest with
    | .scalar '=' :: rest =>
      have := skipBlanks_length_le rest
      match value depth (skipBlanks rest) with
      | .error stop => .error stop
      | .ok content => .ok ⟨(named.value, content.value), content.rest, by
          have := content.shorter
          simp only [equals, List.length_cons] at *
          omega⟩
    | other => .error (.malformed .missingEquals other.length)
termination_by 3 * text.length + 1
decreasing_by
  simp only [equals, List.length_cons] at *
  omega

/-- Reads the fields of an inline table up to its closing brace, after those already read. -/
def fields [Host] (depth : Nat) (table : Fields) (marks : Marks) (text : Text) :
    Except Stop (Taken Fields text) :=
  match field depth text with
  | .error stop => .error stop
  | .ok first =>
    have := first.shorter
    have := skipBlanks_length_le first.rest
    let (key, content) := first.value
    match insertInline marks key content table with
    | .error reason => .error (.malformed reason first.rest.length)
    | .ok table =>
      match ended : skipBlanks first.rest with
      | .scalar '\x7d' :: after => .ok ⟨table, after, by
          simp only [ended, List.length_cons] at *
          omega⟩
      | .scalar ',' :: after =>
        have := skipBlanks_length_le after
        let marks := if isNested content then marks.freeze key else marks
        match fields depth table marks (skipBlanks after) with
        | .error stop => .error stop
        | .ok others => .ok ⟨others.value, others.rest, by
            have := others.shorter
            simp only [ended, List.length_cons] at *
            omega⟩
      | other => .error (.malformed .unclosedTable other.length)
termination_by 3 * text.length + 2
decreasing_by
  · omega
  · simp only [ended, List.length_cons] at *
    omega

end

/-! ### Statements -/

/-- What has been read of a document. -/
structure State where
  table : Fields := []
  marks : Marks := {}
  /-- The key of the table that fields belong to. -/
  header : Key := []

/-- A statement changes the state and leaves some text. -/
abbrev Step (text : Text) := Except Stop (State × Left text)

/-- Refuses at the code points that are left. -/
def at? {α : Type} (left : Text) : Except Reason α → Except Stop α :=
  Except.mapError (.malformed · left.length)

/-- Opens the tables that the leading names of a dotted key name. -/
def openAll (header : Key) (names : Key) (marks : Marks) : Except Reason Marks :=
  (List.range (names.length - 1)).foldlM (fun marks count =>
    let key := header ++ names.take (count + 1)
    if marks.isDeclared key then .error (.redefined key) else .ok (marks.openKey key)) marks

/-- The state after a field. -/
def State.set (state : State) (key : Key) (value : Datum) : Except Reason State := do
  let marks ← openAll state.header key state.marks
  let parent := state.header ++ key.dropLast
  if marks.isFrozen parent then throw (.frozen parent)
  let table ← reach true (insert .overwritten (key.getLastD []) value) parent state.table
  let marks := if isNested value then marks.freeze (state.header ++ key) else marks
  return { state with table, marks }

/-- The state after the header of a table. -/
def State.enter (state : State) (key : Key) : Except Reason State := do
  let marks := state.marks.settle
  if marks.isDeclared key || marks.isFrozen key then throw (.declaredTwice key)
  let table ← reach true .ok key state.table
  return { table, marks := marks.declare key, header := key }

/-- The state after the header of an array of tables. -/
def State.append (state : State) (key : Key) : Except Reason State := do
  let marks := state.marks.settle
  if marks.isFrozen key then throw (.frozen key)
  let table ← reach true (extend (key.getLastD [])) key.dropLast state.table
  return { table, marks := (marks.release key).declare key, header := key }

/-- Reads a header after its opening brackets. -/
def header (change : Key → Except Reason State) (closing : Text) (reason : Reason) (text : Text) :
    Step text := do
  let names ← key (skipBlanks text)
  let state ← at? names.rest (change names.value)
  match found : Text.dropStart? closing names.rest with
  | none => throw (.malformed reason names.rest.length)
  | some rest =>
    return (state, ⟨rest, by
      have := dropStart?_length found
      have := names.shorter
      have := skipBlanks_length_le text
      omega⟩)

/-- Leaves a text as it is. -/
def unmoved (state : State) (text : Text) : Step text :=
  return (state, ⟨text, Text.length_le_self text⟩)

/-- Reads a statement. -/
def statement [Host] (state : State) (text : Text) : Step text :=
  match text with
  | .scalar '[' :: .scalar '[' :: rest => do
    let (state, left) ← header state.append "]]" .missingBrackets rest
    return (state, ⟨left.1, Nat.le_succ_of_le (Nat.le_succ_of_le left.2)⟩)
  | .scalar '[' :: rest => do
    let (state, left) ← header state.enter "]" .missingBracket rest
    return (state, ⟨left.1, Nat.le_succ_of_le left.2⟩)
  | .scalar '#' :: rest => unmoved state (.scalar '#' :: rest)
  | [] => unmoved state []
  | first :: rest =>
    if isBare first ∨ first = '"' ∨ first = '\'' then do
      let read ← field Host.tomlDepth (first :: rest)
      let state ← at? read.rest (state.set read.value.1 read.value.2)
      return (state, ⟨read.rest, Nat.le_of_lt read.shorter⟩)
    else throw (.malformed .invalidStatement (rest.length + 1))

theorem shorter_of_opened {text rest : Text} {first : CodePoint}
    (opened : skipBlanks text = first :: rest) : rest.length < text.length :=
  Text.length_lt_of_eq_cons opened (skipBlanks_length_le text)

theorem shorter_of_statement {text line rest : Text} {first : CodePoint}
    (opened : skipBlanks text = line) (left : Left line) (after : Left (skipBlanks left.1))
    (ended : after.1 = first :: rest) : rest.length < text.length := by
  subst opened
  refine Text.length_lt_of_eq_cons ended (Nat.le_trans after.2 ?_)
  exact Nat.le_trans (skipBlanks_length_le left.1)
    (Nat.le_trans left.2 (skipBlanks_length_le text))

/-- Reads statements to the end of a document. -/
def statements [Host] (state : State) (text : Text) : Except Stop Fields :=
  match opened : skipBlanks text with
  | [] => .ok state.table
  | .scalar '\n' :: rest =>
    have : rest.length < text.length := shorter_of_opened opened
    statements state rest
  | line =>
    match statement state line with
    | .error stop => .error stop
    | .ok (state, left) =>
      match skipComment (skipBlanks left.1) with
      | .error stop => .error stop
      | .ok after =>
        match ended : after.1 with
        | [] => .ok state.table
        | .scalar '\n' :: rest =>
          have : rest.length < text.length := shorter_of_statement opened left after ended
          statements state rest
        | other => .error (.malformed .missingLineEnd other.length)
termination_by text.length

/-- Writes one line break for a carriage return with a line break. -/
def joinBreaks : Text → Text
  | .scalar '\r' :: .scalar '\n' :: rest => .scalar '\n' :: joinBreaks rest
  | point :: rest => point :: joinBreaks rest
  | [] => []

/-- The fault of a stop in a text. -/
def Stop.fault (text : Text) : Stop → Fault
  | .malformed reason left => .malformed reason (.before text left)
  | .numberTooLong digits => .numberTooLong digits
  | .tooDeep => .tooDeep

/-- Reads a TOML text. -/
def read [Host] (text : Text) : Except Fault Fields :=
  let text := joinBreaks text
  (statements {} text).mapError (Stop.fault text)

end Phrasebook.Toml
