import Walkthrough.Proofs.Json.RoundTrip
import Walkthrough.Proofs.Run.Keeping

/-! What the names of screenshots tell. The number of the page and the time stand behind the name of the page,
each after an underscore, and hold none themselves but for the one between day and hour. Read from their end,
such names give back both, whatever the page is called: its name may end like the name of a screenshot. -/

namespace Walkthrough

open Text

namespace Text

/-- The number that decimal digits write, with a sign if it is below zero. -/
def ofSignedDecimal : List Char → Int
  | '-' :: ds => -(ofDecimal ds : Int)
  | ds => ofDecimal ds

theorem ofSignedDecimal_toString (i : Int) : ofSignedDecimal (toString i).toList = i := by
  rcases Json.toList_toString_cases i with ⟨m, rfl, written⟩ | ⟨m, rfl, written⟩
  · rw [written, ofSignedDecimal]
    · exact congrArg _ (Json.ofDecimal_decimal m)
    · rintro ds signed
      have digit : isDigit '-' = true :=
        Json.isDigit_of_mem_decimal (n := m) (signed ▸ List.mem_cons_self)
      exact absurd digit (by decide)
  · rw [written, ofSignedDecimal, Json.ofDecimal_decimal]

theorem ofDecimal_padLeft (width n : Nat) : ofDecimal (padLeft width (decimal n)) = n := by
  have zeros (k : Nat) (cs : List Char) : ofDecimal (List.replicate k '0' ++ cs) = ofDecimal cs := by
    induction k with
    | zero => rfl
    | succ k ih => exact ih
  rw [padLeft, zeros, Json.ofDecimal_decimal]

theorem length_padLeft_two : ∀ {n : Nat}, n < 100 → (padLeft 2 (decimal n)).length = 2 := by
  decide +kernel

end Text

namespace Clock

/-- Every part but the year has two digits at most. -/
structure Fits (c : Clock) : Prop where
  month : c.month < 100
  day : c.day < 100
  hour : c.hour < 100
  minute : c.minute < 100
  second : c.second < 100

/-- The day as it stands in the names of screenshots. -/
def dateStamp (c : Clock) : List Char :=
  decimal c.year ++ (padLeft 2 (decimal c.month) ++ padLeft 2 (decimal c.day))

/-- The time of the day as it stands in the names of screenshots. -/
def timeStamp (c : Clock) : List Char :=
  padLeft 2 (decimal c.hour) ++ (padLeft 2 (decimal c.minute) ++ padLeft 2 (decimal c.second))

theorem stamp_eq (c : Clock) : c.stamp = c.dateStamp ++ '_' :: c.timeStamp := by
  simp [stamp, dateStamp, timeStamp]

theorem not_mem_dateStamp (c : Clock) : '_' ∉ c.dateStamp := by
  have score : Number.isNumeral '_' = false := by decide
  simp [dateStamp, not_mem_decimal score, not_mem_padLeft score]

theorem not_mem_timeStamp (c : Clock) : '_' ∉ c.timeStamp := by
  have score : Number.isNumeral '_' = false := by decide
  simp [timeStamp, not_mem_decimal score, not_mem_padLeft score]

/-- The time that such a text tells; the year has as many digits as there are. -/
def ofStamp? (stamp : List Char) : Option Clock :=
  match splitOnChar '_' stamp with
  | [date, time] =>
    let year := date.length - 4
    some {
      year := ofDecimal (date.take year)
      month := ofDecimal ((date.drop year).take 2)
      day := ofDecimal ((date.drop year).drop 2)
      hour := ofDecimal (time.take 2)
      minute := ofDecimal ((time.drop 2).take 2)
      second := ofDecimal ((time.drop 2).drop 2) }
  | _ => none

theorem ofStamp?_stamp {c : Clock} (h : c.Fits) : ofStamp? c.stamp = some c := by
  have month := length_padLeft_two h.month
  have day := length_padLeft_two h.day
  have hour := length_padLeft_two h.hour
  have minute := length_padLeft_two h.minute
  have year : c.dateStamp.length - 4 = (decimal c.year).length := by
    rw [dateStamp, List.length_append, List.length_append, month, day, Nat.add_sub_cancel]
  rw [ofStamp?, stamp_eq, splitOnChar_append, splitOnChar_of_not_mem c.not_mem_dateStamp,
    splitOnChar_of_not_mem c.not_mem_timeStamp]
  dsimp only [List.singleton_append]
  rw [year, dateStamp, timeStamp, List.take_left, List.drop_left, List.take_left' month,
    List.drop_left' month, List.take_left' hour, List.drop_left' hour, List.take_left' minute,
    List.drop_left' minute]
  simp only [Json.ofDecimal_decimal, ofDecimal_padLeft]

end Clock

/-- What the name of a screenshot tells of it: the number of the page, and when it was taken. -/
structure Label where
  page : Int
  stamp : List Char
  deriving DecidableEq, Repr

/-- Reads a path from its end: what stands before the last three underscores does not count. -/
def Label.read? (path : String) : Option Label :=
  match (splitOnChar '_' path.toList).reverse with
  | time :: date :: page :: _ =>
    some ⟨ofSignedDecimal (page.drop "page".length), date ++ '_' :: time.take (time.length - ".png".length)⟩
  | _ => none

namespace Photographer

variable (time : Clock) (name : String) (page : Int)

/-- The name of a screenshot is read whatever stands before it. -/
theorem read?_fileName (front : List Char) :
    Label.read? (String.ofList (front ++ (fileName time name page).toList)) = some ⟨page, time.stamp⟩ := by
  have numeral : '_' ∉ "page".toList ++ (toString page).toList := fun h => by
    rcases List.mem_append.mp h with h | h
    · exact absurd h (by decide)
    · exact absurd (Numeral.int page '_' h) (by decide)
  have ending : '_' ∉ time.timeStamp ++ ".png".toList := fun h => by
    rcases List.mem_append.mp h with h | h
    · exact time.not_mem_timeStamp h
    · exact absurd h (by decide)
  have parted : front ++ (fileName time name page).toList =
      (front ++ (sanitizeName name).toList) ++ '_' :: (("page".toList ++ (toString page).toList) ++
        '_' :: (time.dateStamp ++ '_' :: (time.timeStamp ++ ".png".toList))) := by
    simp [fileName, Clock.stamp_eq]
  have number : ("page".toList ++ (toString page).toList).drop "page".length = (toString page).toList :=
    List.drop_left' rfl
  have last : (time.timeStamp ++ ".png".toList).take
      ((time.timeStamp ++ ".png".toList).length - ".png".length) = time.timeStamp := by
    refine List.take_left' ?_
    rw [List.length_append]
    exact (Nat.add_sub_cancel ..).symm
  rw [Label.read?, String.toList_ofList, parted, splitOnChar_append, splitOnChar_append,
    splitOnChar_append, splitOnChar_of_not_mem numeral, splitOnChar_of_not_mem time.not_mem_dateStamp,
    splitOnChar_of_not_mem ending]
  simp only [List.reverse_append, List.reverse_cons, List.reverse_nil, List.nil_append, List.cons_append]
  rw [number, last, ofSignedDecimal_toString, ← Clock.stamp_eq]

theorem read?_path (directory : String) :
    Label.read? (path time name page directory) = some ⟨page, time.stamp⟩ := by
  rw [path, joinPath, (isName_fileName time name page).join_eq, read?_fileName]

end Photographer

end Walkthrough
