import Phrasebook.Number.Integer
import Phrasebook.Text.Quoted

/-!
# Grammars of command lines

A command line consists of switches, which start with a dash, and of values for places. A grammar says
which switches there are, whether they take a value, and which places are to be filled. The names of
switches may be cut short as long as they stay unambiguous.
-/

namespace Phrasebook.CommandLine

/-- What a value has to be. -/
inductive ValueKind where
  | text
  | choice (names : List Text)
  | integer
deriving DecidableEq, Repr

/-- A switch. -/
structure Switch where
  /-- Its names, with their dashes. -/
  names : List Text
  /-- What its value has to be, if it takes one. -/
  value : Option ValueKind := none
deriving DecidableEq, Repr

/-- How many values fill a place. -/
inductive Arity where
  | one
  | optional
  /-- A first value and all that follows it, switches included. -/
  | rest
deriving DecidableEq, Repr

/-- A place for values. -/
structure Place where
  name : Text
  arity : Arity
  kind : ValueKind := .text
deriving DecidableEq, Repr

/-- The switches and places of a command line. -/
structure Grammar where
  /-- The words that start the command line. -/
  program : Text
  switches : List Switch
  places : List Place
  /-- Switches of which only one may be given. -/
  exclusive : List Switch := []

/-- What is wrong with a switch or the value of a place. -/
inductive ArgumentFault where
  | missingValue
  | needlessValue (value : Text)
  | invalidChoice (value : Text) (names : List Text)
  | invalidInteger (value : Text)
  | excluded (other : Text)
deriving DecidableEq, Repr

/-- What is wrong with a command line. -/
inductive UsageFault where
  | argument (name : Text) (fault : ArgumentFault)
  | ambiguous (given : Text) (names : List Text)
  | missing (names : List Text)
  | unrecognized (arguments : List Text)
deriving DecidableEq, Repr

/-- The wording of a fault of an argument. -/
def ArgumentFault.message : ArgumentFault → Text
  | .missingValue => "expected one argument"
  | .needlessValue value => "ignored explicit argument " ++ Quoted.encode value
  | .invalidChoice value names =>
    "invalid choice: " ++ Quoted.encode value ++ " (choose from " ++
      Text.joinWith ", " (names.map Quoted.encode) ++ ")"
  | .invalidInteger value => "invalid int value: " ++ Quoted.encode value
  | .excluded other => "not allowed with argument " ++ other

/-- The wording of a fault of a command line. -/
def UsageFault.message : UsageFault → Text
  | .argument name fault => "argument " ++ name ++ ": " ++ fault.message
  | .ambiguous given names =>
    "ambiguous option: " ++ given ++ " could match " ++ Text.joinWith ", " names
  | .missing names => "the following arguments are required: " ++ Text.joinWith ", " names
  | .unrecognized arguments => "unrecognized arguments: " ++ Text.joinWith " " arguments

/-- Why a command line is not carried out. -/
inductive Stop where
  /-- It asks for help. -/
  | help
  | fault (program : Text) (fault : UsageFault)
deriving DecidableEq, Repr

/-- All names of a switch. -/
def Switch.display (switch : Switch) : Text := Text.joinWith "/" switch.names

/-- The name that a switch is known by: its last one. -/
def Switch.name (switch : Switch) : Text := switch.names.getLastD []

/-- The switch that asks for help. -/
def helpSwitch : Switch := ⟨["-h", "--help"], none⟩

namespace Grammar

/-- The names of all switches in order, each with its switch. -/
def names (grammar : Grammar) : List (Text × Switch) :=
  grammar.switches.flatMap fun switch => switch.names.map (·, switch)

/-- The switch with a name. -/
def switch? (grammar : Grammar) (name : Text) : Option Switch := grammar.names.lookup name

/-- A fault of a command line with this grammar. -/
def fault (grammar : Grammar) (fault : UsageFault) : Stop := .fault grammar.program fault

/-- Refuses a value that is not of a kind. -/
def checkValue (grammar : Grammar) (name : Text) (kind : ValueKind) (value : Text) :
    Except Stop Unit :=
  match kind with
  | .text => .ok ()
  | .choice names =>
    if names.contains value then .ok ()
    else .error (grammar.fault (.argument name (.invalidChoice value names)))
  | .integer =>
    if (Integer.read? value).isSome then .ok ()
    else .error (grammar.fault (.argument name (.invalidInteger value)))

end Grammar

/-! ### Arguments -/

/-- An argument that looks like a switch. -/
structure Found where
  /-- The switch, if the grammar has it. -/
  switch : Option Switch
  /-- The name that was found. -/
  name : Text
  /-- The value that stands in the same argument. -/
  attached : Option Text := none
deriving DecidableEq, Repr

/-- What an argument is. -/
inductive Token where
  | value
  /-- Two dashes, after which there are no more switches. -/
  | dashes
  | switch (found : Found)
deriving DecidableEq, Repr

/-- Whether digits follow a minus sign, with a point before the last of them or without. -/
def isNegativeNumber (argument : Text) : Bool :=
  match argument with
  | .scalar '-' :: rest =>
    let isDecimal (point : CodePoint) : Bool := point.decimal?.isSome
    let (whole, fraction) := Text.cut '.' (if rest.getLast? = some (.scalar '\n') then
      rest.dropLast else rest)
    match fraction with
    | none => !whole.isEmpty && whole.all isDecimal
    | some decimals => whole.all isDecimal && !decimals.isEmpty && decimals.all isDecimal
  | _ => false

/-- The switches that an argument with a cut name may mean. -/
def Grammar.candidates (grammar : Grammar) (argument : Text) : List Found :=
  if Text.dropStart? "--" argument |>.isSome then
    let (start, attached) := Text.cut '=' argument
    grammar.names.filterMap fun entry =>
      if start.isPrefixOf entry.1 then
        some ⟨some entry.2, entry.1, attached⟩
      else none
  else
    grammar.names.filterMap fun entry =>
      if entry.1 = argument.take 2 then some ⟨some entry.2, entry.1, some (argument.drop 2)⟩
      else if argument.isPrefixOf entry.1 then some ⟨some entry.2, entry.1, none⟩
      else none

/-- What an argument with a dash in front is that is no full name of a switch. -/
def Grammar.classifyOther (grammar : Grammar) (argument : Text) : Except Stop Token :=
  match grammar.candidates argument with
  | [found] => .ok (.switch found)
  | [] =>
    if isNegativeNumber argument || argument.contains (.scalar ' ') then .ok .value
    else .ok (.switch ⟨none, argument, none⟩)
  | several => .error (grammar.fault (.ambiguous argument (several.map Found.name)))

/-- What an argument is. -/
def Grammar.classify (grammar : Grammar) (argument : Text) : Except Stop Token :=
  if argument.head? ≠ some (.scalar '-') then .ok .value
  else
    match grammar.switch? argument with
    | some switch => .ok (.switch ⟨some switch, argument, none⟩)
    | none =>
      if argument.length = 1 then .ok .value
      else
        match Text.cut '=' argument with
        | (name, some attached) =>
          match grammar.switch? name with
          | some switch => .ok (.switch ⟨some switch, name, some attached⟩)
          | none => grammar.classifyOther argument
        | (_, none) => grammar.classifyOther argument

/-- What the arguments are. All after two dashes are values. -/
def Grammar.tokens (grammar : Grammar) : List Text → Except Stop (List (Text × Token))
  | [] => .ok []
  | argument :: rest =>
    if argument = "--" then .ok ((argument, .dashes) :: rest.map (·, .value))
    else do
      let token ← grammar.classify argument
      return (argument, token) :: (← grammar.tokens rest)

end Phrasebook.CommandLine
