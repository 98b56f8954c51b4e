import Walkthrough.Data.Basic
import Walkthrough.Number.Read
import Walkthrough.Text.Quoted

/-!
Values as messages show them: texts quoted, lists in brackets, maps in braces, dates by their parts.
Only an integer that is too long to be written keeps a value from being shown.
-/

namespace Walkthrough

open Text

def Date.display (d : Date) : String :=
  "datetime.date(" ++ toString d.year ++ ", " ++ toString d.month ++ ", " ++ toString d.day ++ ")"

/-- A length of time in whole days and the seconds left over, both parts only if they are not
zero. -/
def displaySpan (seconds : Int) : String :=
  let days := seconds / 86400
  let rest := seconds % 86400
  let parts := (if days == 0 then [] else ["days=" ++ toString days]) ++
    (if rest == 0 then [] else ["seconds=" ++ toString rest])
  "datetime.timedelta(" ++ (if parts.isEmpty then "0" else ", ".intercalate parts) ++ ")"

def Moment.display (m : Moment) : String :=
  let fields := [m.date.year, m.date.month, m.date.day, m.hour, m.minute] ++
    (if m.microsecond == 0 then (if m.second == 0 then [] else [m.second])
      else [m.second, m.microsecond])
  "datetime.datetime(" ++ ", ".intercalate (fields.map toString) ++
    (match m.offset with
      | none => ""
      | some 0 => ", tzinfo=datetime.timezone.utc"
      | some s => ", tzinfo=datetime.timezone(" ++ displaySpan s ++ ")") ++ ")"

/-- One byte of a quoted byte string. -/
def quoteByte (mark : Char) (b : UInt8) : List Char :=
  if b < 0x80 then
    let c := Char.ofNat b.toNat
    if isPrintable c || c == '\n' || c == '\r' || c == '\t' then quoteChar mark c
    else '\\' :: 'x' :: hexPadded 2 b.toNat
  else '\\' :: 'x' :: hexPadded 2 b.toNat

def displayBytes (bs : List UInt8) : String :=
  let mark := if bs.contains 39 && !bs.contains 34 then '"' else '\''
  String.ofList ('b' :: mark :: (bs.flatMap (quoteByte mark) ++ [mark]))

mutual

def Data.display : Data → String
  | .null => "None"
  | .bool b => if b then "True" else "False"
  | .int n => toString n
  | .float x => x.text
  | .text s => quoted s
  | .bytes bs => displayBytes bs
  | .date d => d.display
  | .moment m => m.display
  | .list items => "[" ++ Data.displayItems items ++ "]"
  | .group [] => "set()"
  | .group items => "\x7b" ++ Data.displayItems items ++ "\x7d"
  | .pair a b => "(" ++ a.display ++ ", " ++ b.display ++ ")"
  | .map entries => "\x7b" ++ Data.displayEntries entries ++ "\x7d"

def Data.displayItems : List Data → String
  | [] => ""
  | [x] => x.display
  | x :: rest => x.display ++ ", " ++ Data.displayItems rest

def Data.displayEntries : List (Data × Data) → String
  | [] => ""
  | [(k, v)] => k.display ++ ": " ++ v.display
  | (k, v) :: rest => k.display ++ ": " ++ v.display ++ ", " ++ Data.displayEntries rest

end

mutual

/-- Whether an integer in a value is too long to be written. -/
def Data.hasOverlong : Data → Bool
  | .int n => Number.isOverlong n
  | .list items | .group items => Data.anyOverlong items
  | .pair a b => a.hasOverlong || b.hasOverlong
  | .map entries => Data.anyEntryOverlong entries
  | .null | .bool _ | .float _ | .text _ | .bytes _ | .date _ | .moment _ => false

def Data.anyOverlong : List Data → Bool
  | [] => false
  | x :: rest => x.hasOverlong || Data.anyOverlong rest

def Data.anyEntryOverlong : List (Data × Data) → Bool
  | [] => false
  | (k, v) :: rest => k.hasOverlong || v.hasOverlong || Data.anyEntryOverlong rest

end

/-- A value inside running text: a text stands as it is, anything else is displayed. -/
def Data.plain : Data → String
  | .text s => s
  | d => d.display

end Walkthrough
