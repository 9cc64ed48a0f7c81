import LanWatch.Bytes
import LanWatch.Text.Digits
import LanWatch.Text.Pieces

namespace LanWatch

/-!
# Addresses

Hardware and IPv4 addresses, and how they are written and read.

* `MacAddr` — a hardware address, written `02:00:00:00:00:0B`;
* `Ipv4` — an IPv4 address, written `10.0.0.1`.
-/

/-! ### Hardware addresses -/

/-- A hardware address: six bytes in wire order. -/
structure MacAddr where
  (b0 b1 b2 b3 b4 b5 : UInt8)
  deriving DecidableEq

namespace MacAddr

/-- The six bytes in wire order. -/
def bytes (m : MacAddr) : Bytes :=
  [m.b0, m.b1, m.b2, m.b3, m.b4, m.b5]

/-- The address that every host receives. -/
def broadcast : MacAddr := ⟨0xff, 0xff, 0xff, 0xff, 0xff, 0xff⟩

/-- The address that stands for an unknown one. -/
def zero : MacAddr := ⟨0, 0, 0, 0, 0, 0⟩

/-- Six bytes as two upper-case digits each, with colons between them. -/
def text (m : MacAddr) : String :=
  Text.join ":" (m.bytes.map fun b => String.ofList (Text.hexByte b))

/-- A byte written with exactly two hexadecimal digits. -/
def byte? (digits : List Char) : Option UInt8 :=
  if digits.length = 2 then (Text.hexNumber? 2 digits).map UInt8.ofNat else none

/-- Reads an address written in either case. -/
def ofText? (s : String) : Option MacAddr :=
  match (Text.pieces ':' s.toList).mapM byte? with
  | some [b0, b1, b2, b3, b4, b5] => some ⟨b0, b1, b2, b3, b4, b5⟩
  | _ => none

end MacAddr

/-! ### IPv4 addresses -/

/-- An IPv4 address: four bytes in wire order. -/
structure Ipv4 where
  (b0 b1 b2 b3 : UInt8)
  deriving DecidableEq

namespace Ipv4

/-- The address `0.0.0.0`, which stands for no address. -/
def unspecified : Ipv4 := ⟨0, 0, 0, 0⟩

/-- The address stands for no address. -/
def isUnspecified (a : Ipv4) : Bool :=
  a == unspecified

/-- Four decimal numbers with dots between them. -/
def text (a : Ipv4) : String :=
  Text.join "." ([a.b0, a.b1, a.b2, a.b3].map fun b => Text.decimal b.toNat)

/-- A decimal number below 256 without superfluous zeros. -/
def byte? (digits : List Char) : Option UInt8 :=
  if digits.length ≤ 3 ∧ ¬(1 < digits.length ∧ digits.head? = some '0') then
    ((Text.decimalNumber? digits).filter (· < 256)).map UInt8.ofNat
  else none

/-- Reads an address in dotted decimal. -/
def ofText? (s : String) : Option Ipv4 :=
  match (Text.pieces '.' s.toList).mapM byte? with
  | some [b0, b1, b2, b3] => some ⟨b0, b1, b2, b3⟩
  | _ => none

end Ipv4

example : (MacAddr.ofText? "0a:0B:0c:0D:0e:0F").map MacAddr.text = some "0A:0B:0C:0D:0E:0F" := by
  cbv
example : (Ipv4.ofText? "10.0.0.255").map Ipv4.text = some "10.0.0.255" := by cbv

end LanWatch
