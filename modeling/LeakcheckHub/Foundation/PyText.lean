import Mathlib.Data.Nat.Notation
import Mathlib.Data.Int.Notation
import Mathlib.Data.List.Basic
import Mathlib.Algebra.Group.Int.Defs
import Mathlib.Algebra.Group.Nat.Defs

/-!
# Python text and bytes

A Python `str` is a sequence of code points, lone surrogates included; a Lean
`String` cannot hold those, so text is a list of code points here.
-/

namespace LeakcheckHub.Foundation

abbrev Bytes : Type := List UInt8

abbrev CodePoint : Type := Fin 0x110000

abbrev PyStr : Type := List CodePoint

-- One name each for what literals and membership tests of text rest on.
instance CodePoint.neZero : @NeZero ℕ Zero.ofOfNat0 0x110000 := ⟨by decide⟩

instance : LawfulBEq PyStr := inferInstance

/-- Lower case. -/
def hexDigit (n : ℕ) : CodePoint :=
  if n < 10 then Fin.ofNat _ (48 + n) else Fin.ofNat _ (87 + n)

/-- Either case. -/
def hexValue (c : CodePoint) : Option ℕ :=
  if 48 ≤ c.val ∧ c.val ≤ 57 then some (c.val - 48)
  else if 97 ≤ c.val ∧ c.val ≤ 102 then some (c.val - 87)
  else if 65 ≤ c.val ∧ c.val ≤ 70 then some (c.val - 55)
  else none

namespace PyStr

def ofChar (c : Char) : CodePoint :=
  ⟨c.toNat, c.valid.elim (fun h => Nat.lt_trans h (by decide)) (·.2)⟩

/-- A Python literal without escapes. -/
def lit (s : String) : PyStr := s.toList.map ofChar

/-- A Python `bytes` literal in ASCII. -/
def asciiLit (s : String) : Bytes := s.toList.map fun c => UInt8.ofNat c.toNat

def isSurrogate (c : CodePoint) : Bool :=
  decide (0xD800 ≤ c.val) && decide (c.val ≤ 0xDFFF)

def utf8Char (c : CodePoint) : Bytes :=
  if c.val < 0x80 then [UInt8.ofNat c.val]
  else if c.val < 0x800 then
    [UInt8.ofNat (0xC0 + c.val / 0x40), UInt8.ofNat (0x80 + c.val % 0x40)]
  else if c.val < 0x10000 then
    [UInt8.ofNat (0xE0 + c.val / 0x1000),
      UInt8.ofNat (0x80 + c.val / 0x40 % 0x40),
      UInt8.ofNat (0x80 + c.val % 0x40)]
  else
    [UInt8.ofNat (0xF0 + c.val / 0x40000),
      UInt8.ofNat (0x80 + c.val / 0x1000 % 0x40),
      UInt8.ofNat (0x80 + c.val / 0x40 % 0x40),
      UInt8.ofNat (0x80 + c.val % 0x40)]

/-- `str.encode()`: strict UTF-8, which has no encoding for a surrogate. -/
def encode (s : PyStr) : Option Bytes :=
  if s.any isSurrogate then none else some (s.flatMap utf8Char)

/-- `str.isspace` of one character. -/
def isSpace (c : CodePoint) : Bool :=
  (9 ≤ c.val && c.val ≤ 13) || (28 ≤ c.val && c.val ≤ 32) ||
    (0x2000 ≤ c.val && c.val ≤ 0x200A) ||
    [0x85, 0xA0, 0x1680, 0x2028, 0x2029, 0x202F, 0x205F, 0x3000].contains c.val

/-- `str.strip()`. -/
def strip (s : PyStr) : PyStr :=
  ((s.dropWhile isSpace).reverse.dropWhile isSpace).reverse

def isAscii (s : PyStr) : Bool := s.all fun c => c.val < 128

def asciiLower (s : PyStr) : PyStr :=
  s.map fun c => if 65 ≤ c.val ∧ c.val ≤ 90 then c + 32 else c

/-- What `int` makes of a character: `decimal` is the value of a decimal
digit of any script. -/
def intChar (decimal : CodePoint → Option ℕ) (c : CodePoint) : CodePoint :=
  if c.val < 127 then c
  else if isSpace c then Fin.ofNat _ 32
  else
    match decimal c with
    | some d => Fin.ofNat _ (48 + d)
    | none => Fin.ofNat _ 63

def isAsciiSpace (c : CodePoint) : Bool :=
  (9 ≤ c.val && c.val ≤ 13) || c.val == 32

def isAsciiDigit (c : CodePoint) : Bool := 48 ≤ c.val && c.val ≤ 57

/-- Groups of digits between single underscores, of at most 4300 digits. -/
def decimalValue (s : PyStr) : Option ℕ :=
  let groups := s.splitOn (Fin.ofNat _ 95)
  let digits := groups.flatten
  if groups.all (fun g => !g.isEmpty && g.all isAsciiDigit) &&
      decide (digits.length ≤ 4300) then
    some (digits.foldl (fun n c => n * 10 + (c.val - 48)) 0)
  else none

/-- `int(s)`; `none` is the `ValueError`. -/
def toInt (decimal : CodePoint → Option ℕ) (s : PyStr) : Option ℤ :=
  let s := s.map (intChar decimal)
  let s := ((s.dropWhile isAsciiSpace).reverse.dropWhile isAsciiSpace).reverse
  match s with
  | [] => none
  | c :: rest =>
      if c.val = 43 then (decimalValue rest).map fun n => (n : ℤ)
      else if c.val = 45 then (decimalValue rest).map fun n => -(n : ℤ)
      else (decimalValue s).map fun n => (n : ℤ)

end PyStr

/-- The tables of Python's Unicode database that the code reads. -/
structure UnicodeData where
  casefold : PyStr → PyStr
  lower : PyStr → PyStr
  nfkc : PyStr → PyStr
  isPrintable : CodePoint → Bool
  isLower : CodePoint → Bool
  isUpper : CodePoint → Bool
  isDigit : CodePoint → Bool
  /-- The category is one of punctuation (`P…`) or of symbols (`S…`). -/
  isSymbol : CodePoint → Bool
  /-- `str.encode("idna").decode("ascii")`; `none` is the `UnicodeError`. -/
  idna : PyStr → Option PyStr

/-- The tables on ASCII text; `idna` on domains of lower-case labels. -/
def asciiData : UnicodeData where
  casefold := PyStr.asciiLower
  lower := PyStr.asciiLower
  nfkc := id
  isPrintable c := 32 ≤ c.val && c.val ≤ 126
  isLower c := 97 ≤ c.val && c.val ≤ 122
  isUpper c := 65 ≤ c.val && c.val ≤ 90
  isDigit c := 48 ≤ c.val && c.val ≤ 57
  isSymbol c := (33 ≤ c.val && c.val ≤ 47) || (58 ≤ c.val && c.val ≤ 64) ||
    (91 ≤ c.val && c.val ≤ 96) || (123 ≤ c.val && c.val ≤ 126)
  idna := some

end LeakcheckHub.Foundation
