/-!
# Base 64

Octets written in letters of six bits. Four letters make three octets, and equals signs stand for
letters that are missing at the end. Characters that are no letters are passed over.
-/

namespace FlowLint.Base64

/-- The six bits of a letter. -/
def sextet? (c : Char) : Option Nat :=
  if 'A' ≤ c ∧ c ≤ 'Z' then some (c.toNat - 'A'.toNat)
  else if 'a' ≤ c ∧ c ≤ 'z' then some (c.toNat - 'a'.toNat + 26)
  else if '0' ≤ c ∧ c ≤ '9' then some (c.toNat - '0'.toNat + 52)
  else if c = '+' then some 62
  else if c = '/' then some 63
  else none

/-- How far the reading of a group of four letters has come: how many of them are read, the bits
that belong to the next octet, and how many equals signs stand behind them. -/
structure Group where
  letters : Nat := 0
  bits : Nat := 0
  signs : Nat := 0

/-- The group after a letter, and the octet that the letter completes. -/
def Group.take (group : Group) (sextet : Nat) : Group × Option UInt8 :=
  match group.letters with
  | 0 => (⟨1, sextet, 0⟩, none)
  | 1 => (⟨2, sextet % 16, 0⟩, some (UInt8.ofNat (group.bits * 4 + sextet / 16)))
  | 2 => (⟨3, sextet % 4, 0⟩, some (UInt8.ofNat (group.bits * 16 + sextet / 4)))
  | _ => (⟨0, 0, 0⟩, some (UInt8.ofNat (group.bits * 64 + sextet)))

/-- Reads letters up to the end or to the sign that completes a group; `done` holds the octets
before, the last one first. -/
def decodeFrom (group : Group) (done : List UInt8) : List Char → Option (List UInt8)
  | [] => if group.letters = 0 then some done.reverse else none
  | c :: rest =>
    if c = '=' then
      if group.letters < 2 then decodeFrom group done rest
      else if 4 ≤ group.letters + group.signs + 1 then some done.reverse
      else decodeFrom { group with signs := group.signs + 1 } done rest
    else
      match sextet? c with
      | none => decodeFrom group done rest
      | some sextet =>
        let (group, octet) := group.take sextet
        decodeFrom group (octet.toList ++ done) rest

/-- The octets of a text; `none` when its last group is not complete. -/
def decode? (cs : List Char) : Option (List UInt8) :=
  decodeFrom {} [] cs

end FlowLint.Base64
