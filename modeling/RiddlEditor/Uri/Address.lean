import RiddlEditor.Text.Basic
import RiddlEditor.Text.HexDigit

/-!
# Internet addresses

The written forms of the addresses of a host. An IPv4 address is four numbers. An IPv6
address is eight groups of hexadecimal digits, of which one run of zeros may be left out;
the last two groups may be written as an IPv4 address, and a zone may follow.

## Main definitions

* `isIPv4`: Whether a text is an IPv4 address.
* `isIPv6`: Whether a text is an IPv6 address.
-/

namespace RiddlEditor

/-- Whether a text is a number below 256, in decimal digits without leading zeros. -/
def isOctet (s : Text) : Bool :=
  (List.range 256).any fun n => Text.ofNat n == s

/-- Whether a text is an IPv4 address: four octets between dots. -/
def isIPv4 (s : Text) : Bool :=
  let octets := s.separated '.'
  octets.length == 4 && octets.all isOctet

/-- Whether a text is a group of an IPv6 address. -/
def isHexGroup (s : Text) : Bool :=
  !s.isEmpty && decide (s.length ≤ 4) && s.all isHexDigit

/-- How many groups stand on one side of the gap. A side without groups is empty. -/
def groupCount? (side : List Text) : Option Nat :=
  if side = [[]] then some 0
  else if side.all isHexGroup then some side.length
  else none

/-- Whether groups make an IPv6 address: there are eight of them, or there is a gap between
    two colons that stands for at least one. -/
def fitGroups (groups : List Text) : Bool :=
  let inner := (groups.drop 1).dropLast
  if inner.contains [] then
    let before := groups.take 1 ++ inner.takeWhile (· ≠ [])
    match groupCount? before, groupCount? (groups.drop (before.length + 1)) with
    | some m, some n => decide (m + n < 8)
    | _, _ => false
  else groups.length == 8 && groups.all isHexGroup

/-- The groups of an address whose last two may be written as an IPv4 address. What is in
    the octets does not matter. -/
def hexGroups? (groups : List Text) : Option (List Text) :=
  match groups.getLast? with
  | none => none
  | some last =>
    if last.contains '.' then
      if isIPv4 last then some (groups.dropLast ++ [['0'], ['0']]) else none
    else some groups

/-- Whether a text, from a percent sign on, names a zone, or there is no text. -/
def isZone : Text → Bool
  | [] => true
  | _ :: name => !name.isEmpty && !name.contains '%'

/-- Whether a text is an IPv6 address, with or without a zone. -/
def isIPv6 (s : Text) : Bool :=
  let address : Text := s.takeWhile (· != '%')
  let groups := address.separated ':'
  isZone (s.drop address.length) && decide (3 ≤ groups.length) &&
    (hexGroups? groups).any fitGroups

end RiddlEditor
