import FlowLint.Number.Digits
import FlowLint.Text.Quoted

/-!
# Reading octets as UTF-8

A strict reader. The octets that begin a character but cannot complete it are reported together: a
fault covers the longest beginning of a character that stands at its place.
-/

namespace FlowLint.Utf8

/-- Why octets are no character. -/
inductive Reason where
  | badStart
  | badContinuation
  | endOfData
deriving DecidableEq, Repr

/-- Octets that are no character: where they start, how many they are, and the first of them. -/
structure Fault where
  start : Nat
  count : Nat
  octet : UInt8
  reason : Reason
deriving DecidableEq, Repr

/-- An octet that continues a character. -/
def isTail (b : UInt8) : Bool :=
  0x80 ≤ b && b ≤ 0xBF

/-- The six low bits of an octet. -/
def tailBits (b : UInt8) : Nat :=
  b.toNat % 0x40

/-- The second octet may follow the first one of three: no overlong form and no surrogate. -/
def isSecondOfThree (a b : UInt8) : Bool :=
  isTail b && !(a == 0xE0 && b < 0xA0) && !(a == 0xED && 0xA0 ≤ b)

/-- The second octet may follow the first one of four: no overlong form, and no code point beyond
the last. -/
def isSecondOfFour (a b : UInt8) : Bool :=
  isTail b && !(a == 0xF0 && b < 0x90) && !(a == 0xF4 && 0x90 ≤ b)

/-- How many octets a character has, by its first octet. -/
def size? (a : UInt8) : Option Nat :=
  if a < 0x80 then some 1
  else if 0xC2 ≤ a && a ≤ 0xDF then some 2
  else if 0xE0 ≤ a && a ≤ 0xEF then some 3
  else if 0xF0 ≤ a && a ≤ 0xF4 then some 4
  else none

/-- Reads the characters of octets that start at a position; `done` holds the characters before, the
last one first. -/
def decodeFrom (position : Nat) (done : List Char) :
    List UInt8 → Except Fault (List Char)
  | [] => .ok done.reverse
  | a :: rest =>
    let fail (count : Nat) (reason : Reason) : Except Fault (List Char) :=
      .error ⟨position, count, a, reason⟩
    let char (n : Nat) : Char := Char.ofNat n
    match size? a with
    | none => fail 1 .badStart
    | some 1 => decodeFrom (position + 1) (char a.toNat :: done) rest
    | some 2 =>
      match rest with
      | [] => fail 1 .endOfData
      | b :: rest =>
        if isTail b then
          decodeFrom (position + 2) (char (a.toNat % 0x20 * 0x40 + tailBits b) :: done) rest
        else fail 1 .badContinuation
    | some 3 =>
      match rest with
      | [] => fail 1 .endOfData
      | b :: rest =>
        if isSecondOfThree a b then
          match rest with
          | [] => fail 2 .endOfData
          | c :: rest =>
            if isTail c then
              decodeFrom (position + 3)
                (char ((a.toNat % 0x10 * 0x40 + tailBits b) * 0x40 + tailBits c) :: done) rest
            else fail 2 .badContinuation
        else fail 1 .badContinuation
    | some _ =>
      match rest with
      | [] => fail 1 .endOfData
      | b :: rest =>
        if isSecondOfFour a b then
          match rest with
          | [] => fail 2 .endOfData
          | c :: rest =>
            if isTail c then
              match rest with
              | [] => fail 3 .endOfData
              | d :: rest =>
                if isTail d then
                  decodeFrom (position + 4)
                    (char (((a.toNat % 0x08 * 0x40 + tailBits b) * 0x40 + tailBits c) * 0x40
                      + tailBits d) :: done) rest
                else fail 3 .badContinuation
            else fail 2 .badContinuation
        else fail 1 .badContinuation

/-- The text that octets are in UTF-8. -/
def decode (octets : List UInt8) : Except Fault (List Char) :=
  decodeFrom 0 [] octets

def Reason.message : Reason → String
  | .badStart => "invalid start byte"
  | .badContinuation => "invalid continuation byte"
  | .endOfData => "unexpected end of data"

/-- The wording of a fault: a single octet is shown, several are given by their places. -/
def Fault.message (f : Fault) : String :=
  let place :=
    if f.count = 1 then
      "byte 0x" ++ String.ofList (Text.hexText 2 f.octet.toNat) ++ " in position "
        ++ numberText f.start
    else
      "bytes in position " ++ numberText f.start ++ "-" ++ numberText (f.start + f.count - 1)
  "'utf-8' codec can't decode " ++ place ++ ": " ++ f.reason.message

end FlowLint.Utf8
