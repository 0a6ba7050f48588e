import Phrasebook.File.TextFile
import Phrasebook.Unicode.Identifier

/-!
# Reading key modules

A reader of modules that knows nothing of how they are written. The lines of a text are read one by one:
the blanks in front of a line tell its depth in classes, and what follows them is a comment, a
description, an empty statement, the head of a class or a constant. Comments with a colon are kept for
the constant that follows them; other comments and blank lines are left out. Then the lines are read as
bodies of classes: that of a class are the lines after its head that are deeper than it. A body has
something in it, and an empty statement stands there alone.
-/

namespace Phrasebook.KeyModule

/-- A statement in a body. -/
inductive Statement where
  /-- A constant with the comments in front of it. -/
  | constant (comments : List Text) (name value : Text)
  /-- A class with the statements in its body. -/
  | nested (name : Text) (body : List Statement)

/-- What a line says, apart from its depth. -/
inductive LineContent where
  | comment (text : Text)
  | description
  | empty
  | opening (name : Text)
  | constant (name value : Text)
deriving DecidableEq

/-! ### Lines -/

/-- What is left of a text before a given last code point. -/
def dropLast? (last : CodePoint) (text : Text) : Option Text :=
  if text.getLast? = some last then some text.dropLast else none

/-- Whether a code point may stand in a literal and stands for itself there. -/
def isPlain (point : CodePoint) : Bool :=
  point ≠ '"' && point ≠ '\\' && point ≠ '\n' && point ≠ '\r'

/-- The head of a class after its first word: a name, and a colon. -/
def readOpening (rest : Text) : Option LineContent := do
  let name ← dropLast? ':' (← Text.dropStart? " " rest)
  if Text.isIdentifier name then some (.opening name) else none

/-- A constant with a name: after it a sign of equality, and a literal. -/
def readConstant (name rest : Text) : Option LineContent := do
  let value ← dropLast? '"' (← Text.dropStart? " = \"" rest)
  if Text.isIdentifier name && value.all isPlain then some (.constant name value) else none

/-- A description in one line. -/
def readDescription (rest : Text) : Option LineContent := do
  let text ← dropLast? '"' (← dropLast? '"' (← dropLast? '"' rest))
  if text.all isPlain then some .description else none

/-- A line that is no comment and not blank, by its first word. -/
def readWords (text : Text) : Option LineContent :=
  let word := text.takeWhile (· ≠ .scalar ' ')
  let rest := text.dropWhile (· ≠ .scalar ' ')
  if text = Text.ofString "pass" then some .empty
  else if word = Text.ofString "class" then readOpening rest
  else readConstant word rest

/-- What a line says, if it says anything, after the blanks in front of it. A line that cannot be read
is no answer at all. -/
def readContent : Text → Option (Option LineContent)
  | [] => some none
  | .scalar '#' :: .scalar ':' :: .scalar ' ' :: text => some (some (.comment text))
  | .scalar '#' :: _ => some none
  | .scalar '"' :: .scalar '"' :: .scalar '"' :: rest => (readDescription rest).map some
  | text => (readWords text).map some

/-- A line at a depth. -/
abbrev Line := Nat × LineContent

/-- Reads a line. The blanks in front of it are a multiple of a width, unless it says nothing. -/
def readLine (width : Nat) (line : Text) : Option (Option Line) := do
  let blanks := (line.takeWhile (· = .scalar ' ')).length
  match ← readContent (line.dropWhile (· = .scalar ' ')) with
  | none => some none
  | some content => if blanks % width = 0 then some (some (blanks / width, content)) else none

/-- Reads lines, without those that say nothing. -/
def readLines (width : Nat) : List Text → Option (List Line)
  | [] => some []
  | line :: rest => do
    let first ← readLine width line
    let others ← readLines width rest
    some (first.toList ++ others)

/-! ### Bodies -/

mutual

/-- Reads the lines of a body at a depth. -/
def readBody (depth : Nat) (lines : List Line) : Option (List Statement) :=
  match lines with
  | [] => none
  | [(deep, .empty)] => if deep = depth then some [] else none
  | (deep, .description) :: rest => if deep = depth then readStatements depth [] rest else none
  | first :: rest => readStatements depth [] (first :: rest)
termination_by 2 * lines.length + 1

/-- Reads lines at a depth, after comments that wait for a constant. -/
def readStatements (depth : Nat) (comments : List Text) (lines : List Line) :
    Option (List Statement) :=
  match lines with
  | [] => if comments = [] then some [] else none
  | (deep, content) :: rest =>
    if deep = depth then
      match content with
      | .comment text => readStatements depth (comments ++ [text]) rest
      | .constant name value => do
        let later ← readStatements depth [] rest
        some (.constant comments name value :: later)
      | .opening name =>
        if comments = [] then do
          let body ← readBody (depth + 1) (rest.takeWhile fun line => depth < line.1)
          let later ← readStatements depth [] (rest.dropWhile fun line => depth < line.1)
          some (.nested name body :: later)
        else none
      | .description | .empty => none
    else none
termination_by 2 * lines.length
decreasing_by
  all_goals
    have := (rest.takeWhile_prefix fun line => decide (depth < line.1)).length_le
    have := (rest.dropWhile_suffix fun line => decide (depth < line.1)).length_le
    simp only [List.length_cons]
    omega

end

/-- Reads the text of a module, whose lines end with a line feed, a carriage return or both. -/
def readModule (width : Nat) (text : Text) : Option (List Statement) := do
  let lines ← readLines width (Text.splitOn '\n' (TextFile.unifyBreaks text))
  readBody 0 lines

end Phrasebook.KeyModule
