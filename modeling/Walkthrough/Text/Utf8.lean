import Walkthrough.Text.CodePoints
import Walkthrough.Text.Digit

/-!
UTF-8. `decode` reads bytes strictly, without overlong forms and surrogates, and reports the first
fault with the range of bytes it concerns. `encode` writes code points, and `encodeText` a text, in
which there must be no surrogates.
-/

namespace Walkthrough.Text.Utf8

inductive FaultKind
  | invalidStart
  | invalidContinuation
  | unexpectedEnd
  deriving DecidableEq, Repr

/-- The first undecodable bytes: `count` bytes from position `start`, of which `first` is the
first. -/
structure Fault where
  kind : FaultKind
  start : Nat
  count : Nat
  first : UInt8
  deriving DecidableEq

def FaultKind.message : FaultKind → String
  | .invalidStart => "invalid start byte"
  | .invalidContinuation => "invalid continuation byte"
  | .unexpectedEnd => "unexpected end of data"

def Fault.message (f : Fault) : String :=
  (if f.count == 1 then
    "'utf-8' codec can't decode byte 0x" ++ String.ofList (hexPadded 2 f.first.toNat) ++
      " in position " ++ toString f.start
  else
    "'utf-8' codec can't decode bytes in position " ++ toString f.start ++ "-" ++
      toString (f.start + f.count - 1)) ++ ": " ++ f.kind.message

/-- The bytes that may follow each leading byte first, so that a character has one form only: the
lowest and highest second byte and the number of bytes after the leading one. -/
def continuation (b : UInt8) : Option (UInt8 × UInt8 × Nat) :=
  if 0xC2 ≤ b && b ≤ 0xDF then some (0x80, 0xBF, 1)
  else if b == 0xE0 then some (0xA0, 0xBF, 2)
  else if b == 0xED then some (0x80, 0x9F, 2)
  else if 0xE1 ≤ b && b ≤ 0xEF then some (0x80, 0xBF, 2)
  else if b == 0xF0 then some (0x90, 0xBF, 3)
  else if 0xF1 ≤ b && b ≤ 0xF3 then some (0x80, 0xBF, 3)
  else if b == 0xF4 then some (0x80, 0x8F, 3)
  else none

/-- Reads `n` continuation bytes, the first between `lo` and `hi`; `acc` holds the bits so far and
`taken` counts the bytes of the character so far. -/
def tail (lo hi : UInt8) (acc taken : Nat) : Nat → List UInt8 → Except (FaultKind × Nat) Nat
  | 0, _ => .ok acc
  | _ + 1, [] => .error (.unexpectedEnd, taken)
  | n + 1, b :: rest =>
    if lo ≤ b && b ≤ hi then tail 0x80 0xBF (acc * 64 + (b.toNat - 0x80)) (taken + 1) n rest
    else .error (.invalidContinuation, taken)

/-- The bits of a leading byte that belong to the character. -/
def leadBits (b : UInt8) (more : Nat) : Nat :=
  b.toNat - (match more with | 1 => 0xC0 | 2 => 0xE0 | _ => 0xF0)

/-- Decodes bytes from position `pos` on; `skip` bytes belong to the character before. -/
def decodeFrom (pos skip : Nat) : List UInt8 → Except Fault (List Char)
  | [] => .ok []
  | b :: rest =>
    match skip with
    | k + 1 => decodeFrom (pos + 1) k rest
    | 0 =>
      if b < 0x80 then (decodeFrom (pos + 1) 0 rest).map (Char.ofNat b.toNat :: ·)
      else match continuation b with
        | none => .error ⟨.invalidStart, pos, 1, b⟩
        | some (lo, hi, more) =>
          match tail lo hi (leadBits b more) 1 more rest with
          | .error (kind, count) => .error ⟨kind, pos, count, b⟩
          | .ok n => (decodeFrom (pos + 1) more rest).map (Char.ofNat n :: ·)

def decode (bs : List UInt8) : Except Fault (List Char) := decodeFrom 0 0 bs

/-- The bytes of one code point. -/
def encodePoint (n : Nat) : List UInt8 :=
  if n < 0x80 then [n.toUInt8]
  else if n < 0x800 then [(0xC0 + n / 64).toUInt8, (0x80 + n % 64).toUInt8]
  else if n < 0x10000 then
    [(0xE0 + n / 4096).toUInt8, (0x80 + n / 64 % 64).toUInt8, (0x80 + n % 64).toUInt8]
  else
    [(0xF0 + n / 262144).toUInt8, (0x80 + n / 4096 % 64).toUInt8, (0x80 + n / 64 % 64).toUInt8,
      (0x80 + n % 64).toUInt8]

def encode (ns : CodePoints) : List UInt8 := ns.flatMap encodePoint

/-- The first surrogates of a text that cannot be written: `count` of them from position `start`, of
which `first` is the first. -/
structure Unwritable where
  start : Nat
  count : Nat
  first : Nat
  deriving DecidableEq, Repr

def Unwritable.message (u : Unwritable) : String :=
  "'utf-8' codec can't encode " ++
    (if u.count == 1 then
      "character '\\u" ++ String.ofList (hexPadded 4 u.first) ++ "' in position " ++ toString u.start
    else
      "characters in position " ++ toString u.start ++ "-" ++ toString (u.start + u.count - 1)) ++
    ": surrogates not allowed"

/-- The first surrogates among code points. -/
def unwritable? (ns : CodePoints) : Option Unwritable :=
  let front := ns.takeWhile (fun n => !isSurrogate n)
  match (ns.drop front.length).takeWhile isSurrogate with
  | [] => none
  | first :: more => some ⟨front.length, more.length + 1, first⟩

/-- The bytes of a text. -/
def encodeText (s : String) : Except Unwritable (List UInt8) :=
  let ns := points s.toList
  match unwritable? ns with
  | some u => .error u
  | none => .ok (encode ns)

/-- The bytes of texts written one after the other, up to the first that cannot be written, and why
it cannot. -/
def encodeTexts : List String → List UInt8 × Option Unwritable
  | [] => ([], none)
  | s :: rest =>
    match encodeText s with
    | .error u => ([], some u)
    | .ok bytes =>
      let (more, u) := encodeTexts rest
      (bytes ++ more, u)

end Walkthrough.Text.Utf8
