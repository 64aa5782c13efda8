import AppCatalog.Text.Hex
import AppCatalog.Text.Split

/-!
# Bracketed hosts

A host in brackets is an IPv6 address, with an optional zone behind a percent sign, or an address of
a later version behind a `v`. `isBracketedHost` checks what stands between the brackets.
-/

namespace AppCatalog.Uri

open AppCatalog.Text

/-- A decimal part of an IPv4 address: at most 255, without a leading zero. -/
def isOctet (cs : List Char) : Bool :=
  cs != [] && cs.length ≤ 3 && cs.all (fun c => 48 ≤ c.toNat && c.toNat ≤ 57) &&
    (cs == ['0'] || cs.head? != some '0') && cs.foldl (fun n c => n * 10 + (c.toNat - 48)) 0 ≤ 255

def isIpv4 (cs : List Char) : Bool :=
  let parts := splitAll '.' cs
  parts.length == 4 && parts.all isOctet

/-- A group of an IPv6 address: one to four hexadecimal digits. -/
def isGroup (cs : List Char) : Bool :=
  cs != [] && cs.length ≤ 4 && cs.all fun c => (hexValue? c).isSome

/-- Parts between colons with a last part in IPv4 form counted as two groups. -/
def expandIpv4 (parts : List (List Char)) : Option (List (List Char)) :=
  match parts.getLast? with
  | some last =>
    if last.contains '.' then
      if isIpv4 last then some (parts.dropLast ++ [['0'], ['0']]) else none
    else some parts
  | none => some parts

/-- Whether the parts around the one gap of an IPv6 address are right: empty only at the very end,
and at most seven groups in all. -/
def gapFits (before after : List (List Char)) : Bool :=
  let front := if before.head? = some [] then before.tail else before
  let back := if after.getLast? = some [] then after.dropLast else after
  (before.head? != some [] || front == []) && (after.getLast? != some [] || back == []) &&
    front.length + back.length ≤ 7 && front.all isGroup && back.all isGroup

/-- The parts before and after each empty part that is neither first nor last. -/
def gaps (parts : List (List Char)) : List (List (List Char) × List (List Char)) :=
  (List.range parts.length).filterMap fun i =>
    if i ≠ 0 && i + 1 ≠ parts.length && parts[i]? == some [] then
      some (parts.take i, parts.drop (i + 1))
    else none

/-- The parts of an IPv6 address: eight groups, or fewer around one gap. -/
def isIpv6Parts (parts : List (List Char)) : Bool :=
  parts.length ≤ 9 &&
    match gaps parts with
    | [] => parts.length == 8 && parts.all isGroup
    | [(before, after)] => gapFits before after
    | _ => false

def isIpv6 (cs : List Char) : Bool :=
  let parts := splitAll ':' cs
  3 ≤ parts.length &&
    match expandIpv4 parts with
    | some parts => isIpv6Parts parts
    | none => false

/-- An IPv6 address, or one with a zone that is not empty and has no percent sign. -/
def isZonedIpv6 (cs : List Char) : Bool :=
  match cutAt? ['%'] cs with
  | none => isIpv6 cs
  | some (address, zone) => zone != [] && !zone.contains '%' && isIpv6 address

/-- An address of a later version: `v`, a hexadecimal version, a point and something more. -/
def isLaterAddress : List Char → Bool
  | 'v' :: cs =>
    let version := cs.takeWhile fun c => (hexValue? c).isSome
    match cs.drop version.length with
    | '.' :: _ :: _ => version != []
    | _ => false
  | _ => false

/-- What may stand between the brackets of a host. -/
def isBracketedHost (cs : List Char) : Bool :=
  if cs.head? = some 'v' then isLaterAddress cs else isZonedIpv6 cs

end AppCatalog.Uri
