import Walkthrough.Proofs.Basic
import Walkthrough.Yaml.Document

/-! The conversions that can fail while a YAML text is read (`Misfit`): whatever else is wrong with a
text is a character it may not hold or a problem on a line. What is `Sound` ends with such a fault at most,
as the values of scalars do. -/

namespace Walkthrough.Yaml

open Text

/-- The words of truth values in small letters. -/
def lowerTruthWords : List String := ["yes", "true", "on", "no", "false", "off"]

/-- The bases of integers. -/
def integerBases : List Nat := [2, 8, 10, 16]

/-- What can be wrong with the numbers of a date and a time of the day. -/
def clockFaults : List String :=
  ["year 0 is out of range", "month must be in 1..12", "day is out of range for month",
    "hour must be in 0..23", "minute must be in 0..59", "second must be in 0..59"]

/-- The failures of conversions: of scalars that do not fit their tags, of escapes that are no code points,
and of collections that stand too deep in others. -/
inductive Misfit : Foreign → Prop
  | truth {word : String} (untrue : word ∉ lowerTruthWords) : Misfit ⟨.key, quoted word⟩
  /-- A number without a character. -/
  | sign : Misfit ⟨.index, "string index out of range"⟩
  | digits {count : Nat} (long : Number.digitLimit < count) :
    Misfit ⟨.value, Number.IntFault.tooManyText count⟩
  | integer {base : Nat} {text : String} (h : base ∈ integerBases) :
    Misfit ⟨.value, Number.malformedText base text⟩
  | decimal {text : String} : Misfit ⟨.value, "could not convert string to float: " ++ quoted text⟩
  | sixties : Misfit ⟨.overflow, "int too large to convert to float"⟩
  | clock {message : String} (h : message ∈ clockFaults) : Misfit ⟨.value, message⟩
  | zone {seconds : Int} (far : 86400 ≤ seconds.natAbs) :
    Misfit ⟨.value, "offset must be a timedelta strictly between -timedelta(hours=24) and " ++
      "timedelta(hours=24), not " ++ displaySpan seconds ++ "."⟩
  | stamp : Misfit ⟨.attribute, "'NoneType' object has no attribute 'groupdict'"⟩
  /-- A mapping under the tag of dates, with a text under the key `=`. -/
  | stampMapping : Misfit ⟨.type, "expected string or bytes-like object, got 'list'"⟩
  | codePoint : Misfit ⟨.value, "chr() arg not in range(0x110000)"⟩
  | bigCodePoint : Misfit ⟨.overflow, "Python int too large to convert to C int"⟩
  | depth : Misfit ⟨.depth, "maximum recursion depth exceeded"⟩

/-- A fault that is a failure of a conversion is one of those known. -/
def Fault.Known : Fault → Prop
  | .conversion failure => Misfit failure
  | .badCharacter .. | .problem .. => True

/-- What does not come to a value ends with a known fault. -/
abbrev Sound {α : Type} (x : Except Fault α) : Prop := x.FailsBy Fault.Known

/-! ## Values -/

theorem sound_truthValue (units : CodePoints) : Sound (truthValue units) := by
  unfold truthValue
  split
  · exact .ok _
  · exact .ok _
  · exact .ok _
  · exact .ok _
  · exact .ok _
  · exact .ok _
  · refine .error (.truth ?_)
    simp_all [lowerTruthWords]

theorem sound_splitUnits (units : CodePoints) : Sound (splitUnits units) := by
  unfold splitUnits
  split
  · exact .error .sign
  · split
    · exact .ok _
    · split <;> exact .ok _

/-- Digits are too many only beyond the limit. -/
theorem long_of_readInt {base count : Nat} {cs : List Char}
    (h : Number.readInt base cs = .error (.tooManyDigits count)) : Number.digitLimit < count := by
  unfold Number.readInt at h
  grind

theorem sound_integer {base : Nat} (h : base ∈ integerBases) (units : CodePoints) :
    Sound (integer base units) := by
  unfold integer
  split
  · exact .ok _
  · next count hr =>
    refine .error (.digits ?_)
    cases hc : units.toChars? with
    | none => simp [hc] at hr
    | some cs => exact long_of_readInt (by simpa [hc] using hr)
  · exact .error (.integer h)

theorem sound_integerValue (units : CodePoints) : Sound (integerValue units) := by
  unfold integerValue
  refine .bind (sound_splitUnits _) fun (negative, units) => ?_
  refine .bind ?_ fun _ => .pure
  split
  · exact .ok _
  · exact sound_integer (by decide) _
  · exact sound_integer (by decide) _
  · exact sound_integer (by decide) _
  · exact .error .sign
  · split
    · exact .bind (.mapM (sound_integer (by decide)) _) fun _ => .pure
    · exact sound_integer (by decide) _

theorem sound_decimal (units : CodePoints) : Sound (decimal units) := by
  unfold decimal
  split
  · exact .ok _
  · exact .error .decimal

theorem sound_sixties (base : Nat) (sum : Binary64) (xs : List Binary64) :
    Sound (sixties base sum xs) := by
  induction xs generalizing base sum with
  | nil => exact .ok _
  | cons x xs ih =>
    unfold sixties
    split
    · exact .error .sixties
    · exact ih _ _

theorem sound_decimalValue (units : CodePoints) : Sound (decimalValue units) := by
  unfold decimalValue
  refine .bind (sound_splitUnits _) fun (negative, units) => ?_
  refine .bind ?_ fun _ => .pure
  split
  · exact .ok _
  · exact .ok _
  · split
    · exact .bind (.mapM sound_decimal _) fun _ => sound_sixties _ _ _
    · exact sound_decimal _

theorem sound_bytesValue (line : Nat) (units : CodePoints) : Sound (bytesValue line units) := by
  unfold bytesValue
  split
  · exact .error trivial
  · split
    · exact .ok _
    · exact .error trivial

theorem sound_checkDate (d : Date) : Sound (checkDate d) := by
  unfold checkDate
  split
  · exact .error (.clock (by decide))
  · split
    · exact .error (.clock (by decide))
    · split
      · exact .error (.clock (by decide))
      · exact .ok _

theorem sound_checkClock (c : Clock) : Sound (checkClock c) := by
  unfold checkClock
  split
  · exact .error (.clock (by decide))
  · split
    · exact .error (.clock (by decide))
    · split
      · exact .error (.clock (by decide))
      · exact .ok _

theorem sound_zone (z : Zone) : Sound z.seconds := by
  cases z with
  | utc => exact .ok _
  | offset negative hours minutes =>
    rw [Zone.seconds]
    generalize (if negative then -((hours : Int) * 3600 + minutes * 60) else hours * 3600 + minutes * 60) =
      seconds
    split
    · next far => exact .error (.zone far)
    · exact .ok _

theorem sound_stamp (s : Stamp) : Sound s.value := by
  unfold Stamp.value
  dsimp only
  split
  · exact .bind (sound_checkDate _) fun _ => .pure
  · next c _ =>
    refine .bind ?_ fun _ => .bind (sound_checkDate _) fun _ => .bind (sound_checkClock _) fun _ => .pure
    cases c.zone with
    | none => exact .ok _
    | some z => exact .bind (sound_zone z) fun _ => .pure

theorem sound_stampValue (units : CodePoints) : Sound (stampValue units) := by
  unfold stampValue
  dsimp only
  split
  · exact sound_stamp _
  · exact .error .stamp

end Walkthrough.Yaml
