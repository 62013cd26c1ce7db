/-
# Hosts in brackets

The host of an address may stand in brackets if it is the number of a machine:

| host | form |
| --- | --- |
| version 6 | eight groups of up to four hexadecimal digits between colons |
| version 6, shortened | a double colon, once, for one or more groups of zeros |
| version 6, mixed | a number of version 4 for the last two groups |
| version 6 with a zone | `%` and the name of the zone, which holds no `%`, at the end |
| of the future | `v`, hexadecimal digits, a dot, and one or more characters |

A number of version 4, four decimal numbers up to 255 between dots, needs no brackets
and may not have them. Its numbers have no zeros before them.
-/

import ApiGuide.Text.Digit
import ApiGuide.Text.Quoted
import ApiGuide.Text.Split

namespace ApiGuide
namespace Stock

/-- What is wrong with a host in brackets. -/
inductive HostFault where
  | notNumber (host : Text)
  | version4
  | future
deriving DecidableEq

/-- The report of a fault. -/
def HostFault.message : HostFault → Text
  | .notNumber host => host.quoted ++ " does not appear to be an IPv4 or IPv6 address"
  | .version4 => "An IPv4 address cannot be in brackets"
  | .future => "IPvFuture address is invalid"

namespace Host

/-- Whether a text is a decimal number up to 255 without zeros before it. -/
def isOctet (t : Text) : Bool :=
  match t with
  | [] => false
  | [c] => c.isAsciiDigit
  | c :: rest =>
    decide (c ≠ CodePoint.ofChar '0') && (c :: rest).all CodePoint.isAsciiDigit &&
      (decide (rest.length < 2) || decide (rest.length = 2) && Text.atMost (c :: rest) "255")

/-- Whether a text is a number of version 4. -/
def isVersion4 (t : Text) : Bool :=
  let parts := t.splitOn '.'
  decide (parts.length = 4) && parts.all isOctet

/-- Whether a text is a group of version 6. -/
def isGroup (t : Text) : Bool :=
  decide (t ≠ [] ∧ t.length ≤ 4) && t.all fun c => c.hexDigit?.isSome

/-- Groups between colons, those that a number of version 4 at the end stands for
shown as zeros. -/
def groups? (t : Text) : Option (List Text) :=
  let parts := t.splitOn ':'
  match parts.getLast? with
  | some last =>
    if CodePoint.ofChar '.' ∈ last then
      if isVersion4 last then some (parts.dropLast ++ [Text.ofString "0", Text.ofString "0"])
      else none
    else some parts
  | none => none

/-- The groups on one side of a double colon at the edge of a text, where there is an
empty one in place of none. -/
def beside (groups : List Text) : List Text := if groups = [[]] then [] else groups

/-- Whether groups make a number of version 6. An empty group between two others stands
for a double colon. -/
def isComplete (groups : List Text) : Bool :=
  let front := groups.take 1
  let behind := groups.drop 1
  let before := front ++ (behind.dropLast.takeWhile (· ≠ []))
  if before.length + 1 < groups.length then
    let high := beside before
    let low := beside (groups.drop (before.length + 1))
    decide (high.length + low.length < 8) && high.all isGroup && low.all isGroup
  else decide (groups.length = 8) && groups.all isGroup

/-- Whether a text is a number of version 6. -/
def isVersion6 (t : Text) : Bool :=
  let isZone := fun zone : Text => decide (zone ≠ [] ∧ CodePoint.ofChar '%' ∉ zone)
  (t.after? '%').all isZone && (groups? (t.upTo '%')).any isComplete

/-- Whether a text behind a `v` is a number of the future. -/
def isFuture (t : Text) : Bool :=
  let isHex := fun c : CodePoint => c.hexDigit?.isSome
  match t.takeWhile isHex, t.dropWhile isHex with
  | _ :: _, dot :: _ :: _ => decide (dot = '.')
  | _, _ => false

/-- What is wrong with a host in brackets, if anything. -/
def fault? (host : Text) : Option HostFault :=
  match host with
  | c :: rest =>
    if c = 'v' then if isFuture rest then none else some .future
    else if isVersion4 host then some .version4
    else if isVersion6 host then none
    else some (.notNumber host)
  | [] => some (.notNumber host)

example : isVersion6 "::1" ∧ isVersion6 "1:2:3:4:5:6:7::" ∧ isVersion6 "::ffff:1.2.3.4" ∧
    isVersion6 "fe80::1%a" ∧ isVersion6 "::" := by decide

example : ¬ isVersion6 ":1:2:3:4:5:6:7" ∧ ¬ isVersion6 "1::2::3" ∧
    ¬ isVersion6 "1:2:3:4:5:6:7:8::" ∧ ¬ isVersion6 ":::" ∧ ¬ isVersion6 "::1%" := by decide

end Host
end Stock
end ApiGuide
