import LanWatch.Address

namespace LanWatch

/-!
# IPv6 addresses

Interfaces are listed with all their addresses, so IPv6 addresses are read and written too. The
written form is the canonical short one: the first of the longest runs of at least two zero groups
becomes `::`, and an address that embeds an IPv4 one ends in dotted decimal.

* `Ipv6` — eight groups of sixteen bits;
* `Ipv6.text` — the canonical short form;
* `Ipv6.ofText?` — reads any written form;
* `Network` — an interface address with its mask length.
-/

/-- An IPv6 address: eight groups of sixteen bits. -/
structure Ipv6 where
  groups : Vector UInt16 8
  deriving DecidableEq

namespace Ipv6

/-! ### Writing -/

/-- Groups in hexadecimal with colons between them. -/
def groupsText (groups : List UInt16) : String :=
  Text.join ":" (groups.map fun g => Text.hexPlain g.toNat)

/-- A stretch of groups: where it starts and how long it is. -/
structure Run where
  start : Nat
  length : Nat

/-- The first of the longest runs of zero groups, where `here` is the run that ends before
    position `i` and `best` the longest one before it. -/
def longestZeroRun (i : Nat) (here best : Run) : List UInt16 → Run
  | [] => best
  | g :: gs =>
    if g = 0 then
      let here := if here.length = 0 then ⟨i, 1⟩ else ⟨here.start, here.length + 1⟩
      longestZeroRun (i + 1) here (if best.length < here.length then here else best) gs
    else longestZeroRun (i + 1) ⟨0, 0⟩ best gs

/-- The canonical short form. -/
def text (a : Ipv6) : String :=
  match a.groups.toList with
  | [0, 0, 0, 0, 0, 0xffff, hi, lo] =>
    let v4 : Ipv4 := ⟨UInt8.ofNat (hi.toNat / 256), UInt8.ofNat hi.toNat,
      UInt8.ofNat (lo.toNat / 256), UInt8.ofNat lo.toNat⟩
    "::ffff:" ++ v4.text
  | groups =>
    let run := longestZeroRun 0 ⟨0, 0⟩ ⟨0, 0⟩ groups
    if 1 < run.length then
      groupsText (groups.take run.start) ++ "::" ++
        groupsText (groups.drop (run.start + run.length))
    else groupsText groups

/-! ### Reading -/

/-- Eight groups make an address. -/
def ofGroups? (groups : List UInt16) : Option Ipv6 :=
  if h : groups.length = 8 then some ⟨⟨groups.toArray, by simpa using h⟩⟩ else none

/-- The groups that one part between colons stands for: dotted decimal counts as two. -/
def part? (cs : List Char) : Option (List UInt16) :=
  match Ipv4.ofText? (String.ofList cs) with
  | some v4 => some [be16 v4.b0 v4.b1, be16 v4.b2 v4.b3]
  | none => (Text.hexNumber? 4 cs).map fun n => [UInt16.ofNat n]

/-- The groups of a colon-separated list, which may be empty. -/
def side? : List Char → Option (List UInt16)
  | [] => some []
  | cs => ((Text.pieces ':' cs).mapM part?).map List.flatten

/-- What stands before and after the first double colon, if there is one. -/
def cutAtGap? : List Char → Option (List Char × List Char)
  | [] => none
  | c :: cs =>
    match c, cs with
    | ':', ':' :: rest => some ([], rest)
    | _, _ => (cutAtGap? cs).map fun (l, r) => (c :: l, r)

/-- Reads an address with at most one `::`. -/
def ofText? (s : String) : Option Ipv6 :=
  match cutAtGap? s.toList with
  | none => (side? s.toList).bind ofGroups?
  | some (left, right) =>
    match side? left, side? right with
    | some l, some r =>
      if l.length + r.length < 8 then
        ofGroups? (l ++ List.replicate (8 - l.length - r.length) 0 ++ r)
      else none
    | _, _ => none

end Ipv6

/-! ### Interface addresses -/

/-- An address of an interface, of either version. -/
inductive IpAddr where
  | v4 (a : Ipv4)
  | v6 (a : Ipv6)
  deriving DecidableEq

/-- The address in its canonical form. -/
def IpAddr.text : IpAddr → String
  | .v4 a => a.text
  | .v6 a => a.text

/-- An interface address with the length of its network mask. -/
structure Network where
  address : IpAddr
  maskLength : Nat
  deriving DecidableEq

/-- The address, a slash, and the mask length. -/
def Network.text (n : Network) : String :=
  n.address.text ++ "/" ++ Text.decimal n.maskLength

/-- Reads an address with its mask length. -/
def Network.ofText? (s : String) : Option Network :=
  (Text.cutAt? '/' s.toList).bind fun (a, m) =>
    let address? := match Ipv4.ofText? (String.ofList a) with
      | some v4 => some (IpAddr.v4 v4)
      | none => (Ipv6.ofText? (String.ofList a)).map IpAddr.v6
    match address?, Text.decimalNumber? m with
    | some address, some maskLength => some ⟨address, maskLength⟩
    | _, _ => none

example : (Network.ofText? "2001:db8:0:0:0:0:0:1/48").map Network.text = some "2001:db8::1/48" := by
  cbv
example : (Ipv6.ofText? "::ffff:10.0.0.1").map Ipv6.text = some "::ffff:10.0.0.1" := by cbv
example : (Ipv6.ofText? "1:0:0:2:0:0:0:3").map Ipv6.text = some "1:0:0:2::3" := by cbv
example : (Ipv6.ofText? "::").map Ipv6.text = some "::" := by cbv

end LanWatch
