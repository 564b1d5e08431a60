/-!
# Decimal numerals

The canonical decimal numeral of a number: no leading zero, and a minus sign in front of
negative numbers only.
-/

namespace IdentityClaims.Number

def digitChar (digit : Nat) : Char :=
  Char.ofNat (0x30 + digit)

/-- The decimal digits of a number, the most significant first; zero has one digit. -/
def digits (n : Nat) : List Char :=
  if n < 10 then [digitChar n]
  else digits (n / 10) ++ [digitChar (n % 10)]

def digitValue (c : Char) : Nat :=
  c.toNat - 0x30

/-- The number a list of digit characters writes in a base. -/
def ofDigits (base : Nat) (value : Char → Nat) (digits : List Char) : Nat :=
  digits.foldl (fun n c => n * base + value c) 0

def ofDecimal (digits : List Char) : Nat :=
  ofDigits 10 digitValue digits

def numeral (n : Int) : List Char :=
  if n < 0 then '-' :: digits n.natAbs else digits n.natAbs

end IdentityClaims.Number
