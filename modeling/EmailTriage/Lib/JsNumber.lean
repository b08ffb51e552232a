import Mathlib.Algebra.Group.Nat.Defs
import Mathlib.Data.Int.Notation
import Mathlib.Data.Nat.Notation

/-!
# Reading integers as JavaScript does

`parseInt` with radix 10 skips leading white space, takes a sign and the digits that follow, and rounds
the integer they spell to the nearest double, with 53 significant bits and ties to even. Integers
beyond 2 ^ 53 may therefore be read as their neighbours, and those beyond the largest double as
infinite. Without a radix it reads what follows `0x` in base 16.
-/

namespace Js

/-- The numbers `parseInt` returns. -/
inductive Number where
  | nan
  | finite (z : ℤ)
  | infinite (negative : Bool)
deriving DecidableEq

namespace Number

def isNaN (x : Number) : Bool := x = .nan

/-- `x < 0`. -/
def isNegative : Number → Bool
  | .nan => false
  | .finite z => z < 0
  | .infinite negative => negative

/-- `x <= y`; a comparison with NaN is false. -/
def le : Number → Number → Bool
  | .nan, _ => false
  | _, .nan => false
  | .finite x, .finite y => x ≤ y
  | .infinite true, _ => true
  | _, .infinite false => true
  | _, _ => false

/-- `x || fallback`. -/
def or : Number → ℤ → Number
  | .nan, fallback => .finite fallback
  | .finite z, fallback => .finite (if z = 0 then fallback else z)
  | x, _ => x

/-- `Math.min(x, y)`. -/
def min (x y : Number) : Number :=
  if x.isNaN || y.isNaN then .nan else if x.le y then x else y

end Number

/-- The characters `parseInt` skips. -/
def isWhiteSpace (c : Char) : Bool :=
  c.toNat ∈ [0x9, 0xa, 0xb, 0xc, 0xd, 0x20, 0xa0, 0x1680, 0x2028, 0x2029, 0x202f, 0x205f, 0x3000, 0xfeff]
    || (0x2000 ≤ c.toNat && c.toNat ≤ 0x200a)

/-- The number that decimal digits spell. -/
def digitsToNat (digits : List Char) : ℕ :=
  digits.foldl (fun n c => 10 * n + (c.toNat - '0'.toNat)) 0

/-- A natural number with 53 significant bits, the nearest one, or the one with the even significand of
two that are equally near. -/
def roundToDouble (n : ℕ) : ℕ :=
  let unit := 2 ^ (n.log2 - 52)
  let quotient := n / unit
  let remainder := n % unit
  if unit < 2 * remainder ∨ (2 * remainder = unit ∧ quotient % 2 = 1) then (quotient + 1) * unit
  else quotient * unit

/-- The double of an integer that was read with its sign. -/
def toNumber (negative : Bool) (n : ℕ) : Number :=
  let rounded := roundToDouble n
  if rounded.log2 < 1024 then .finite (if negative then -rounded else rounded) else .infinite negative

/-- `Number(z)` for a `BigInt`, read with its sign. -/
def ofBigInt (z : ℤ) : Number := toNumber (z < 0) z.natAbs

/-- `parseInt(s, 10)`. -/
def parseInt (s : String) : Number :=
  let trimmed := s.toList.dropWhile isWhiteSpace
  let (negative, rest) :=
    match trimmed with
    | '-' :: rest => (true, rest)
    | '+' :: rest => (false, rest)
    | rest => (false, rest)
  match rest.takeWhile Char.isDigit with
  | [] => .nan
  | digits => toNumber negative (digitsToNat digits)

/-- What comes after leading white space and a sign, and whether that is a minus. -/
def readSign (s : String) : Bool × List Char :=
  match s.toList.dropWhile isWhiteSpace with
  | '-' :: rest => (true, rest)
  | '+' :: rest => (false, rest)
  | rest => (false, rest)

def decimalDigit (c : Char) : Option ℕ :=
  if c.isDigit then some (c.toNat - '0'.toNat) else none

def hexDigit (c : Char) : Option ℕ :=
  if c.isDigit then some (c.toNat - '0'.toNat)
  else if 'a' ≤ c ∧ c ≤ 'f' then some (c.toNat - 'a'.toNat + 10)
  else if 'A' ≤ c ∧ c ≤ 'F' then some (c.toNat - 'A'.toNat + 10)
  else none

/-- The values of the digits that a text begins with. -/
def digitsWhile (digit : Char → Option ℕ) : List Char → List ℕ
  | [] => []
  | c :: cs =>
    match digit c with
    | some d => d :: digitsWhile digit cs
    | none => []

/-- The base of an unsigned integer, and its digits. -/
def leadingDigits : List Char → ℕ × List ℕ
  | '0' :: 'x' :: rest => (16, digitsWhile hexDigit rest)
  | '0' :: 'X' :: rest => (16, digitsWhile hexDigit rest)
  | rest => (10, digitsWhile decimalDigit rest)

/-- `parseInt(s)`, without a radix. -/
def parseIntAnyBase (s : String) : Number :=
  let (negative, rest) := readSign s
  match leadingDigits rest with
  | (_, []) => .nan
  | (base, digits) => toNumber negative (digits.foldl (fun n d => base * n + d) 0)

/-- The number a text of decimal digits spells. -/
def decimal (s : String) : Option ℕ :=
  if s.toList ≠ [] ∧ s.toList.all Char.isDigit then some (digitsToNat s.toList) else none

end Js
