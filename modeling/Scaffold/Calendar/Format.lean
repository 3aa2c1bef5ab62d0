import Scaffold.Calendar.Date
import Scaffold.Calendar.Directive
import Scaffold.Number.Power

/-!
# Time stamps by format

A format is text with conversions such as `%Y`. Names are English and a time of day has no zone, so
the conversions for zones are empty. What is no conversion stands for itself. The room for a time
stamp depends on the length of its format, and one that does not fit in is empty.
-/
namespace Scaffold.Calendar

def monthNames : List String :=
  ["January", "February", "March", "April", "May", "June", "July", "August", "September",
    "October", "November", "December"]

def dayNames : List String :=
  ["Sunday", "Monday", "Tuesday", "Wednesday", "Thursday", "Friday", "Saturday"]

def nth (names : List String) (i : Nat) : String := (names[i]?).getD ""

def abbreviated (name : String) : String := String.ofList (name.toList.take 3)

namespace DateTime

def monthName (t : DateTime) : String := nth monthNames (t.date.month - 1)

def dayName (t : DateTime) : String := nth dayNames t.date.weekday

/-- The hour on a clock of twelve. -/
def clockHour (t : DateTime) : Nat := if t.hour % 12 = 0 then 12 else t.hour % 12

def half (t : DateTime) : String := if t.hour < 12 then "AM" else "PM"

/-- The number of the week, when weeks begin on the day that is `start` days after Sunday. -/
def weekNumber (t : DateTime) (start : Nat) : Nat :=
  (t.date.dayOfYear + 6 - (t.date.weekday + 7 - start) % 7) / 7

def dayText (t : DateTime) : String :=
  toString t.date.year ++ "-" ++ Text.zeroPadded 2 t.date.month ++ "-"
    ++ Text.zeroPadded 2 t.date.day

def slashedText (t : DateTime) : String :=
  Text.zeroPadded 2 t.date.month ++ "/" ++ Text.zeroPadded 2 t.date.day ++ "/"
    ++ Text.zeroPadded 2 (t.date.year % 100)

/-- Seconds since the start of 1970. -/
def epochSeconds (t : DateTime) : Int :=
  t.seconds - Int.ofNat (Date.ordinal ⟨1970, 1, 1⟩ * 86400)

/-- What a letter stands for, or `none` if it stands for nothing. -/
def meaning? (t : DateTime) : Char → Option Meaning
  | 'Y' => some (.number 1 t.date.year)
  | 'C' => some (.number 1 (t.date.year / 100))
  | 'y' => some (.number 2 (t.date.year % 100))
  | 'G' => some (.number 1 t.date.isoWeek.1)
  | 'g' => some (.number 2 (t.date.isoWeek.1 % 100))
  | 'V' => some (.number 2 t.date.isoWeek.2)
  | 'm' => some (.number 2 t.date.month)
  | 'B' => some (.name t.monthName)
  | 'b' => some (.name (abbreviated t.monthName))
  | 'h' => some (.name (abbreviated t.monthName))
  | 'd' => some (.number 2 t.date.day)
  | 'e' => some (.spacedNumber t.date.day)
  | 'j' => some (.number 3 t.date.dayOfYear)
  | 'A' => some (.name t.dayName)
  | 'a' => some (.name (abbreviated t.dayName))
  | 'w' => some (.number 1 t.date.weekday)
  | 'u' => some (.number 1 t.date.isoWeekday)
  | 'U' => some (.number 2 (t.weekNumber 0))
  | 'W' => some (.number 2 (t.weekNumber 1))
  | 'H' => some (.number 2 t.hour)
  | 'k' => some (.spacedNumber t.hour)
  | 'I' => some (.number 2 t.clockHour)
  | 'l' => some (.spacedNumber t.clockHour)
  | 'M' => some (.number 2 t.minute)
  | 'S' => some (.number 2 t.second)
  | 'p' => some (.half t.half)
  | 'P' => some (.exactly (String.map Char.toLower t.half))
  | 's' => some (.exactly (toString t.epochSeconds))
  | 'D' => some (.phrase t.slashedText)
  | 'x' => some (.phrase t.slashedText)
  | 'F' => some (.phrase t.dayText)
  | 'T' => some (.phrase t.timeText)
  | 'X' => some (.phrase t.timeText)
  | 'R' => some (.phrase (Text.zeroPadded 2 t.hour ++ ":" ++ Text.zeroPadded 2 t.minute))
  | 'r' => some (.phrase (Text.zeroPadded 2 t.clockHour ++ ":" ++ Text.zeroPadded 2 t.minute ++ ":"
      ++ Text.zeroPadded 2 t.second ++ " " ++ t.half))
  | 'c' => some (.phrase (abbreviated t.dayName ++ " " ++ abbreviated t.monthName ++ " "
      ++ Text.padLeft 2 ' ' (toString t.date.day) ++ " " ++ t.timeText ++ " "
      ++ toString t.date.year))
  | 'n' => some (.exactly "\n")
  | 't' => some (.exactly "\t")
  | '%' => some (.exactly "%")
  | 'Z' => some .noZone
  | 'z' => some .noDistance
  | _ => none

def convert (t : DateTime) (d : Directive) (letter : Char) : Piece :=
  match if d.admits letter then t.meaning? letter else none with
  | some m => d.write m
  | none => d.unknown letter

/-- The pieces of a format, of which a conversion may have been begun. -/
def pieces (t : DateTime) : Option Directive → List Char → List Piece
  | none, [] => []
  | some d, [] => [d.unfinished]
  | none, c :: rest =>
    if c = '%' then pieces t (some .start) rest else Piece.field 0 ' ' [c] :: pieces t none rest
  | some d, c :: rest =>
    match d.extend? c with
    | some d' => pieces t (some d') rest
    | none => t.convert d c :: pieces t none rest

/-- Microseconds and zones are put into the format before anything else is read: they take neither
flags nor a width, and their digits may become part of another conversion. -/
def settled (t : DateTime) : List Char → List Char
  | '%' :: c :: rest =>
    match c with
    | 'f' => (Text.zeroPadded 6 t.microsecond).toList ++ settled t rest
    | 'z' => settled t rest
    | 'Z' => settled t rest
    | _ => '%' :: c :: settled t rest
  | c :: rest => c :: settled t rest
  | [] => []

end DateTime

/-- The room for a time stamp is 1024, doubled until it is 256 for each character of the format. -/
def room (formatSize : Nat) : Nat := 1024 * Number.twoTo (Nat.log2 ((formatSize + 3) / 4 * 2 - 1))

/-- A format ends where a null character stands. -/
def DateTime.format (t : DateTime) (layout : String) : String :=
  let layout := t.settled (layout.toList.takeWhile (· ≠ '\x00'))
  let pieces := t.pieces none layout
  if pieces.foldl (fun n p => n + p.size) 0 < room layout.length then
    String.ofList (pieces.flatMap Piece.chars)
  else ""

end Scaffold.Calendar
