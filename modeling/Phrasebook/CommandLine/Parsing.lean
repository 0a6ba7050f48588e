import Phrasebook.CommandLine.Grammar

/-!
# Parsing command lines

Values fill places from the left, and each run of values fills as many places as it can. A place that
may stay empty does so only if the places after it would lack a value otherwise. What fills no place
and what is no known switch is left over.

Two dashes stand for no value, also where a value is asked for: a switch that has them attached and a
place that they fill are given, but given nothing.
-/

namespace Phrasebook.CommandLine

/-- What may have been given for something. -/
inductive Given (α : Type) where
  | absent
  /-- Two dashes in the place of a value. -/
  | nothing
  | value (value : α)
deriving DecidableEq, Repr

/-- The value that was given, if one was. -/
def Given.value? {α : Type} : Given α → Option α
  | .absent | .nothing => none
  | .value given => some given

/-- Changes the value that was given. -/
def Given.map {α β : Type} (change : α → β) : Given α → Given β
  | .absent => .absent
  | .nothing => .nothing
  | .value given => .value (change given)

/-- What has been found in a command line. -/
structure Parsed where
  /-- The switches that were given, by their known names, with their values. A switch that takes a value
  has none if it was given nothing. -/
  switches : List (Text × Option Text) := []
  /-- The values of the places that have been passed. -/
  places : List (Text × List Text) := []
  /-- The places that are still to be filled. -/
  left : List Place
  /-- What is left over. -/
  extras : List Text := []

/-! ### Filling places -/

/-- Numbers up to a bound, the bound first. -/
def downFrom (bound : Nat) : List Nat := (List.range (bound + 1)).reverse

/-- How many dashes come first. -/
def dashCount (tokens : List Token) : Nat := (tokens.takeWhile (· = .dashes)).length

/-- How many tokens a value with the dashes around it may take, the most first. -/
def valueCounts (tokens : List Token) : List Nat :=
  match tokens with
  | .value :: rest => (downFrom (dashCount rest)).map (· + 1)
  | _ => []

/-- How many tokens a place may take, the preferred number first. -/
def Arity.counts (arity : Arity) (tokens : List Token) : List Nat :=
  (downFrom (dashCount tokens)).flatMap fun dashes =>
    let after := tokens.drop dashes
    (match arity with
      | .one => valueCounts after
      | .optional => valueCounts after ++ downFrom (dashCount after)
      | .rest =>
        match after with
        | .value :: others => (downFrom others.length).map (· + 1)
        | _ => []).map (· + dashes)

/-- How many tokens each of some places takes. -/
def countsFor : List Arity → List Token → Option (List Nat)
  | [], _ => some []
  | arity :: rest, tokens =>
    (arity.counts tokens).findSome? fun count =>
      (countsFor rest (tokens.drop count)).map (count :: ·)

/-- How many tokens the places take that can be filled, as many places as possible. -/
def fillCounts (places : List Place) (tokens : List Token) : List Nat :=
  ((downFrom places.length).findSome? fun count =>
    countsFor ((places.take count).map Place.arity) tokens).getD []

/-- The values that fill a place; two dashes before them do not count. -/
def Place.values (place : Place) (arguments : List Text) : List Text :=
  if place.arity = .rest then arguments else arguments.erase "--"

/-- Refuses the first value of a place if it is not of the right kind. -/
def Grammar.checkPlace (grammar : Grammar) (place : Place) (values : List Text) :
    Except Stop Unit :=
  match values with
  | [] => .ok ()
  | value :: _ => grammar.checkValue place.name place.kind value

/-- Fills places with given numbers of arguments. -/
def Grammar.fill (grammar : Grammar) (parsed : Parsed) :
    List Nat → List Text → Except Stop Parsed
  | [], _ => .ok parsed
  | count :: counts, arguments =>
    match parsed.left with
    | [] => .ok parsed
    | place :: others => do
      let values := place.values (arguments.take count)
      grammar.checkPlace place values
      grammar.fill { parsed with places := parsed.places ++ [(place.name, values)], left := others }
        counts (arguments.drop count)

/-- Fills as many places as possible, and tells how many arguments they took. -/
def Grammar.fillPlaces (grammar : Grammar) (parsed : Parsed) (tokens : List (Text × Token)) :
    Except Stop (Parsed × Nat) := do
  let counts := fillCounts parsed.left (tokens.map Prod.snd)
  let filled ← grammar.fill parsed counts (tokens.map Prod.fst)
  return (filled, counts.foldl (· + ·) 0)

/-! ### Switches -/

/-- The switches in one argument. -/
structure Cluster where
  /-- Those that are complete. -/
  complete : List (Switch × Option Text) := []
  /-- A last one, whose value may follow. -/
  last : Option Switch := none

/-- A cluster with one more switch in front, which takes no value. -/
def Cluster.after (switch : Switch) (cluster : Cluster) : Cluster :=
  { cluster with complete := (switch, none) :: cluster.complete }

/-- Whether a name has one dash only. -/
def isShort (name : Text) : Bool := name[1]? ≠ some (.scalar '-')

/-- The value that is attached to a switch, unless it is two dashes. -/
def attachedValue (value : Text) : Option Text := if value = "--" then none else some value

/-- The switches in an argument with a value attached to the first one. What is attached to a short
switch without a value is read as more short switches. -/
def Grammar.cluster (grammar : Grammar) (switch : Switch) (name : Text) :
    Text → Except Stop Cluster
  | [] =>
    if switch.value.isSome then .ok { complete := [(switch, some [])] }
    else .error (grammar.fault (.argument switch.display (.needlessValue [])))
  | first :: rest =>
    if switch.value.isSome then .ok { complete := [(switch, attachedValue (first :: rest))] }
    else
      let nextName : Text := [.scalar '-', first]
      match if isShort name then grammar.switch? nextName else none, rest with
      | none, _ => .error (grammar.fault (.argument switch.display (.needlessValue (first :: rest))))
      | some next, [] => .ok { complete := [(switch, none)], last := some next }
      | some next, more => (grammar.cluster next nextName more).map (Cluster.after switch)

/-- The switches in an argument that is meant for a switch. -/
def Grammar.clusterOf (grammar : Grammar) (switch : Switch) (name : Text) :
    Option Text → Except Stop Cluster
  | none => .ok { last := some switch }
  | some value => grammar.cluster switch name value

/-- Refuses a switch that excludes one given before. -/
def Grammar.checkExclusive (grammar : Grammar) (parsed : Parsed) (switch : Switch) :
    Except Stop Unit :=
  if grammar.exclusive.contains switch then
    match grammar.exclusive.find? fun other =>
        other ≠ switch && (parsed.switches.map Prod.fst).contains other.name with
    | some other => .error (grammar.fault (.argument switch.display (.excluded other.display)))
    | none => .ok ()
  else .ok ()

/-- Takes a switch. -/
def Grammar.take (grammar : Grammar) (parsed : Parsed) (given : Switch × Option Text) :
    Except Stop Parsed := do
  let (switch, value) := given
  match switch.value, value with
  | some kind, some value => grammar.checkValue switch.display kind value
  | _, _ => pure ()
  grammar.checkExclusive parsed switch
  if switch = helpSwitch then throw .help
  return { parsed with switches := parsed.switches ++ [(switch.name, value)] }

/-- Takes the switches of an argument, and tells how many of the arguments after it they use. An
argument with an unknown name is left over. -/
def Grammar.takeArgument (grammar : Grammar) (parsed : Parsed) (argument : Text) (found : Found)
    (after : List (Text × Token)) : Except Stop (Parsed × Nat) := do
  match found.switch with
  | none => return ({ parsed with extras := parsed.extras ++ [argument] }, 0)
  | some switch =>
    let cluster ← grammar.clusterOf switch found.name found.attached
    let (last, used) ← match cluster.last, after with
      | none, _ => pure ([], 0)
      | some switch, (value, .value) :: _ =>
        if switch.value.isSome then pure ([(switch, some value)], 1)
        else pure ([(switch, none)], 0)
      | some switch, _ =>
        if switch.value.isSome then
          throw (grammar.fault (.argument switch.display .missingValue))
        else pure ([(switch, none)], 0)
    return (← (cluster.complete ++ last).foldlM grammar.take parsed, used)

/-! ### Whole command lines -/

/-- Whether a token is a switch. -/
def Token.isSwitch : Token → Bool
  | .switch _ => true
  | _ => false

/-- Takes the first switch of some arguments; the values before it are left over. -/
def Grammar.takeFirst (grammar : Grammar) (parsed : Parsed) :
    List (Text × Token) → Except Stop (Parsed × List (Text × Token))
  | [] => .ok (parsed, [])
  | (argument, .switch found) :: rest => do
    let (parsed, used) ← grammar.takeArgument parsed argument found rest
    return (parsed, rest.drop used)
  | (argument, _) :: rest =>
    grammar.takeFirst { parsed with extras := parsed.extras ++ [argument] } rest

/-- Takes arguments up to the last switch and the values after it, in a given number of rounds. Every
round uses up an argument. -/
def Grammar.takeAll (grammar : Grammar) (parsed : Parsed) :
    Nat → List (Text × Token) → Except Stop Parsed
  | 0, _ => .ok parsed
  | rounds + 1, tokens => do
    if tokens.any fun token => token.2.isSwitch then
      let (filled, used) ←
        if (tokens.head?.map fun token => token.2.isSwitch) = some true then pure (parsed, 0)
        else grammar.fillPlaces parsed tokens
      if 0 < used then grammar.takeAll filled rounds (tokens.drop used)
      else
        let (parsed, rest) ← grammar.takeFirst filled tokens
        grammar.takeAll parsed rounds rest
    else
      let (filled, used) ← grammar.fillPlaces parsed tokens
      return { filled with extras := filled.extras ++ (tokens.drop used).map Prod.fst }

/-- Refuses a command line that leaves a place empty. -/
def Grammar.checkFilled (grammar : Grammar) (parsed : Parsed) : Except Stop Unit :=
  match parsed.left.filter fun place => place.arity ≠ .optional with
  | [] => .ok ()
  | missing => .error (grammar.fault (.missing (missing.map Place.name)))

/-- Parses a command line. -/
def Grammar.parse (grammar : Grammar) (arguments : List Text) : Except Stop Parsed := do
  let tokens ← grammar.tokens arguments
  let parsed ← grammar.takeAll { left := grammar.places } (tokens.length + 1) tokens
  grammar.checkFilled parsed
  return parsed

end Phrasebook.CommandLine
