namespace LanWatch.Text

/-!
# Digits

How numbers are written and read wherever this library writes or reads one.

* `decimal` and `paddedDecimal` — a natural number in base ten, plain or zero-padded on the left;
* `hexByte` and `hexPlain` — base sixteen, two digits for a byte or as few as possible;
* `unsigned?` — reads an unsigned decimal number below a bound;
* `hexNumber?` — reads up to a given count of hexadecimal digits.
-/

/-- The character of a digit below sixteen, in lower case. -/
def digitChar (d : Nat) : Char :=
  if d < 10 then Char.ofNat ('0'.toNat + d) else Char.ofNat ('a'.toNat + (d - 10))

/-- The character of a digit below sixteen, in upper case. -/
def upperDigitChar (d : Nat) : Char :=
  if d < 10 then Char.ofNat ('0'.toNat + d) else Char.ofNat ('A'.toNat + (d - 10))

/-! ### Writing -/

/-- The decimal digits of a number, most significant first, without leading zeros. -/
def decimalDigits (n : Nat) : List Char :=
  if n < 10 then [digitChar n] else decimalDigits (n / 10) ++ [digitChar (n % 10)]

/-- A number in decimal. -/
def decimal (n : Nat) : String :=
  String.ofList (decimalDigits n)

/-- A number in decimal, filled up with zeros on the left to at least `width` digits. -/
def paddedDecimal (width n : Nat) : String :=
  let digits := decimalDigits n
  String.ofList (List.replicate (width - digits.length) '0' ++ digits)

/-- An integer in decimal, with a minus sign if it is negative. -/
def signedDecimal (z : Int) : String :=
  if z < 0 then "-" ++ decimal z.natAbs else decimal z.natAbs

/-- The hexadecimal digits of a number, most significant first, without leading zeros. -/
def hexDigits (n : Nat) : List Char :=
  if n < 16 then [digitChar n] else hexDigits (n / 16) ++ [digitChar (n % 16)]

/-- A number in lower-case hexadecimal with as few digits as possible. -/
def hexPlain (n : Nat) : String :=
  String.ofList (hexDigits n)

/-- A byte as two upper-case hexadecimal digits. -/
def hexByte (b : UInt8) : List Char :=
  [upperDigitChar (b.toNat / 16), upperDigitChar (b.toNat % 16)]

/-! ### Reading -/

/-- The value of a decimal digit. -/
def digitValue? (c : Char) : Option Nat :=
  if '0' ≤ c ∧ c ≤ '9' then some (c.toNat - '0'.toNat) else none

/-- The value of a hexadecimal digit in either case. -/
def hexValue? (c : Char) : Option Nat :=
  if '0' ≤ c ∧ c ≤ '9' then some (c.toNat - '0'.toNat)
  else if 'a' ≤ c ∧ c ≤ 'f' then some (c.toNat - 'a'.toNat + 10)
  else if 'A' ≤ c ∧ c ≤ 'F' then some (c.toNat - 'A'.toNat + 10)
  else none

/-- Reads digits of a base after the value `acc` read so far. -/
def numeralFrom? (base : Nat) (value? : Char → Option Nat) (acc : Nat) : List Char → Option Nat
  | [] => some acc
  | c :: cs => (value? c).bind fun d => numeralFrom? base value? (acc * base + d) cs

/-- The number that a non-empty list of decimal digits spells. -/
def decimalNumber? : List Char → Option Nat
  | [] => none
  | cs => numeralFrom? 10 digitValue? 0 cs

/-- The number that one to `most` hexadecimal digits spell. -/
def hexNumber? (most : Nat) : List Char → Option Nat
  | [] => none
  | cs => if cs.length ≤ most then numeralFrom? 16 hexValue? 0 cs else none

/-- Reads an unsigned number below `bound`: decimal digits, after at most one plus sign. -/
def unsigned? (bound : Nat) (text : String) : Option Nat :=
  let digits := match text.toList with
    | '+' :: cs => cs
    | cs => cs
  (decimalNumber? digits).filter (· < bound)

example : unsigned? 65536 "+0065535" = some 65535 := by cbv
example : unsigned? 65536 "65536" = none := by cbv
example : unsigned? 65536 "-0" = none := by cbv

end LanWatch.Text
