import Phrasebook.Number.Decimal
import Phrasebook.Text.Quoted

/-!
# Decoded data

The values that documents, settings and substitutions hold: nothing, truth values, whole and binary
numbers, texts, moments of the calendar, lists and records. A record keeps its fields in order, and
its readers give each name once.
-/

namespace Phrasebook

/-- A day of the calendar. -/
structure Date where
  year : Nat
  month : Nat
  day : Nat
deriving DecidableEq, Repr

/-- A time of day. -/
structure TimeOfDay where
  hour : Nat
  minute : Nat
  second : Nat
  microsecond : Nat
deriving DecidableEq, Repr

/-- A day, a time of day, or both, then perhaps with an offset in minutes from universal time. -/
inductive Moment where
  | date (date : Date)
  | time (time : TimeOfDay)
  | local (date : Date) (time : TimeOfDay)
  | fixed (date : Date) (time : TimeOfDay) (offset : Int)
deriving DecidableEq, Repr

/-- A decoded value. -/
inductive Datum where
  | null
  | bool (value : Bool)
  | int (value : Int)
  | real (value : Binary64)
  | text (value : Text)
  | moment (value : Moment)
  | list (items : List Datum)
  | record (fields : List (Text × Datum))
deriving Repr, Inhabited

/-- The fields of a record, or of a table of settings, in order. -/
abbrev Fields := List (Text × Datum)

/-- Sets a field: a new name goes to the end, a known one keeps its place. -/
def Fields.put (name : Text) (value : Datum) : Fields → Fields
  | [] => [(name, value)]
  | field :: rest =>
    if field.1 = name then (name, value) :: rest else field :: Fields.put name value rest

/-- The value of a field. -/
def Fields.get? (fields : Fields) (name : Text) : Option Datum := List.lookup name fields

namespace Moment

/-- The numbers of a day that its display shows. -/
def shownDay (day : Date) : List Nat := [day.year, day.month, day.day]

/-- The numbers of a time of day that its display shows, seconds and microseconds only if needed. -/
def shownTime (clock : TimeOfDay) : List Nat :=
  [clock.hour, clock.minute] ++
    (if clock.microsecond ≠ 0 then [clock.second, clock.microsecond]
     else if clock.second ≠ 0 then [clock.second] else [])

/-- Numbers with commas between them. -/
def numbers (values : List Nat) : Text := Text.joinWith ", " (values.map Numeral.natural)

/-- The display of an offset from universal time. A negative one counts from the day before. -/
def offset (minutes : Int) : Text :=
  if minutes = 0 then "datetime.timezone.utc"
  else if minutes < 0 then
    "datetime.timezone(datetime.timedelta(days=-1, seconds=" ++
      Numeral.integer (86400 + 60 * minutes) ++ "))"
  else "datetime.timezone(datetime.timedelta(seconds=" ++ Numeral.integer (60 * minutes) ++ "))"

/-- The display of a moment. -/
def display : Moment → Text
  | .date day => "datetime.date(" ++ numbers (shownDay day) ++ ")"
  | .time clock => "datetime.time(" ++ numbers (shownTime clock) ++ ")"
  | .local day clock =>
    "datetime.datetime(" ++ numbers (shownDay day ++ shownTime clock) ++ ")"
  | .fixed day clock minutes =>
    "datetime.datetime(" ++ numbers (shownDay day ++ shownTime clock) ++
      ", tzinfo=" ++ offset minutes ++ ")"

/-- The name of the kind of a moment. -/
def kindName : Moment → Text
  | .date _ => "datetime.date"
  | .time _ => "datetime.time"
  | .local _ _ => "datetime.datetime"
  | .fixed _ _ _ => "datetime.datetime"

end Moment

namespace Datum

/-- The name of the kind of a value, as messages give it. -/
def kindName : Datum → Text
  | .null => "NoneType"
  | .bool _ => "bool"
  | .int _ => "int"
  | .real _ => "float"
  | .text _ => "str"
  | .moment value => value.kindName
  | .list _ => "list"
  | .record _ => "dict"

/-- The display of a truth value. -/
def truth (value : Bool) : Text := if value then "True" else "False"

mutual

/-- The display of a value inside a message, if there is no obstacle to it. -/
def display : Datum → Text
  | .null => "None"
  | .bool value => truth value
  | .int value => Numeral.integer value
  | .real value => value.render
  | .text value => Quoted.encode value
  | .moment value => value.display
  | .list items => "[" ++ Text.joinWith ", " (displayItems items) ++ "]"
  | .record fields => "\x7b" ++ Text.joinWith ", " (displayFields fields) ++ "\x7d"

/-- The displays of the items of a list. -/
def displayItems : List Datum → List Text
  | [] => []
  | item :: rest => display item :: displayItems rest

/-- The displays of the fields of a record. -/
def displayFields : List (Text × Datum) → List Text
  | [] => []
  | (name, value) :: rest => (Quoted.encode name ++ ": " ++ display value) :: displayFields rest

end

mutual

/-- Whether a value holds a whole number with too many digits to be written. -/
def holdsLongInteger : Datum → Bool
  | .int value => Numeral.isTooLong value
  | .list items => anyLongInteger items
  | .record fields => anyLongField fields
  | _ => false

/-- Whether an item holds a whole number with too many digits. -/
def anyLongInteger : List Datum → Bool
  | [] => false
  | item :: rest => holdsLongInteger item || anyLongInteger rest

/-- Whether a field holds a whole number with too many digits. -/
def anyLongField : List (Text × Datum) → Bool
  | [] => false
  | (_, value) :: rest => holdsLongInteger value || anyLongField rest

end

/-- What keeps a value from being displayed. -/
inductive Obstacle where
  /-- A whole number has too many digits to be written. -/
  | longInteger
  /-- Lists and records are nested deeper than a display follows. -/
  | tooDeep
deriving DecidableEq, Repr

mutual

/-- The first obstacle to the display of a value that may be nested to some depth. -/
def obstacle? : Nat → Datum → Option Obstacle
  | 0, _ => some .tooDeep
  | _ + 1, .int value => if Numeral.isTooLong value then some .longInteger else none
  | depth + 1, .list items => itemsObstacle? depth items
  | depth + 1, .record fields => fieldsObstacle? depth fields
  | _ + 1, _ => none

/-- The first obstacle to the display of some items. -/
def itemsObstacle? (depth : Nat) : List Datum → Option Obstacle
  | [] => none
  | item :: rest => (obstacle? depth item).or (itemsObstacle? depth rest)

/-- The first obstacle to the display of some fields. -/
def fieldsObstacle? (depth : Nat) : List (Text × Datum) → Option Obstacle
  | [] => none
  | (_, value) :: rest => (obstacle? depth value).or (fieldsObstacle? depth rest)

end

end Datum

end Phrasebook
