import FlowLint.Number.Digits
import FlowLint.Text.Split

/-!
# Internet addresses

The texts that are addresses: four decimal numbers for version 4; for version 6 eight groups of
hexadecimal digits, of which one run may be left out and the last two may be a version 4 address.
-/

namespace FlowLint.Url

open FlowLint.Text

/-- A number below 256 of at most three ASCII digits, without leading zeros. -/
def isOctet (cs : List Char) : Bool :=
  match numeral? 10 cs with
  | some n => cs.length ≤ 3 && n ≤ 255 && (cs.head? != some '0' || cs.length == 1)
  | none => false

/-- An address of version 4. -/
def isVersion4 (cs : List Char) : Bool :=
  let parts := splitAll '.' cs
  parts.length == 4 && parts.all isOctet

/-- A group of one to four hexadecimal digits. -/
def isGroup (cs : List Char) : Bool :=
  cs.length ≤ 4 && (numeral? 16 cs).isSome

/-- The groups between the colons, the text of a version 4 address at the end standing for two. -/
def groups? (cs : List Char) : Option (List (List Char)) :=
  let parts := splitAll ':' cs
  if parts.length < 3 then none
  else
    match parts.getLast? with
    | some last =>
      if last.contains '.' then
        if isVersion4 last then some (parts.dropLast ++ [['0'], ['0']]) else none
      else some parts
    | none => none

/-- The groups before or after the place of a left out run. The outermost may be empty only when it
is the colon of the run itself. -/
def isSide (outerEmpty : Bool) (groups : List (List Char)) : Bool :=
  if outerEmpty then groups.length == 1 else groups.all isGroup

/-- The count of groups that a side contributes. -/
def sideCount (outerEmpty : Bool) (groups : List (List Char)) : Nat :=
  if outerEmpty then groups.length - 1 else groups.length

/-- An address of version 6 without its zone. -/
def isUnzonedVersion6 (cs : List Char) : Bool :=
  match groups? cs with
  | none => false
  | some groups =>
    let inner := (groups.drop 1).dropLast
    match inner.findIdx? (·.isEmpty) with
    | none => groups.length == 8 && groups.all isGroup
    | some position =>
      let before := groups.take (position + 1)
      let after := groups.drop (position + 2)
      let firstEmpty := (before.head?.map (·.isEmpty)).getD false
      let lastEmpty := (after.getLast?.map (·.isEmpty)).getD false
      groups.length ≤ 9
        && (inner.filter (·.isEmpty)).length == 1
        && isSide firstEmpty before && isSide lastEmpty after
        && sideCount firstEmpty before + sideCount lastEmpty after < 8

/-- An address of version 6, perhaps with a percent sign and a zone that has none. -/
def isVersion6 (cs : List Char) : Bool :=
  match splitFirst '%' cs with
  | (address, none) => isUnzonedVersion6 address
  | (address, some zone) => !zone.isEmpty && !zone.contains '%' && isUnzonedVersion6 address

/-- An address of a future version: the letter v, hexadecimal digits, a point and more text. -/
def isFutureVersion (cs : List Char) : Bool :=
  match cs with
  | 'v' :: rest =>
    let version := rest.takeWhile fun c => (digitValue? c).isSome
    match rest.drop version.length with
    | '.' :: address => !version.isEmpty && !address.isEmpty && !address.contains '\n'
    | _ => false
  | _ => false

end FlowLint.Url
