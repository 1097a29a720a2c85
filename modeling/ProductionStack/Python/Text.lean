import Mathlib.Data.Rat.Floor
import Mathlib.Data.Nat.Log
import ProductionStack.Lib.Splitting

/-!
Strings and their encodings as Python writes them, on code point lists so that
they can be evaluated.
-/

namespace ProductionStack.Python

/-- `s.encode()`. -/
def encode (s : String) : List UInt8 := s.toList.flatMap String.utf8EncodeChar

/-- `s.lower()`, for the letters header names and media types are made of. -/
def lower (s : String) : String := String.ofList (s.toList.map Char.toLower)

theorem toLower_eq_self {c : Char} (h : ¬ ('A'.val ≤ c.val ∧ c.val ≤ 'Z'.val)) : c.toLower = c :=
  dif_neg h

theorem toLower_toLower (c : Char) : c.toLower.toLower = c.toLower := by
  by_cases h : 'A'.val ≤ c.val ∧ c.val ≤ 'Z'.val
  · apply toLower_eq_self
    have hlower : c.toLower.val = c.val + ('a'.val - 'A'.val) :=
      congrArg Char.val (dif_pos h)
    rw [hlower]
    rw [UInt32.le_iff_toNat_le, UInt32.le_iff_toNat_le] at h ⊢
    have hA : 'A'.val.toNat = 65 := rfl
    have hZ : 'Z'.val.toNat = 90 := rfl
    have hshift : ('a'.val - 'A'.val).toNat = 32 := rfl
    rw [UInt32.toNat_add, hshift]
    omega
  · rw [toLower_eq_self h, toLower_eq_self h]

def startsWith (s start : String) : Bool := start.toList.isPrefixOf s.toList

/-- `s.strip()`. -/
def strip (s : String) : String :=
  String.ofList ((s.toList.dropWhile Char.isWhitespace).reverse.dropWhile Char.isWhitespace).reverse

def endsWith (s ending : String) : Bool := ending.toList.reverse.isPrefixOf s.toList.reverse

/-- `s.split(sep)`, for a separator that is not empty. -/
def splitText (s sep : String) : List String :=
  (Lib.splitBy sep.toList s.toList).map String.ofList

/-- `s.partition(sep)[0]`, for a one-character separator. -/
def beforeFirst (s : String) (sep : Char) : String := String.ofList (s.toList.takeWhile (· ≠ sep))

/-- The power of ten of the leading digit of a positive number. -/
def leadingPower (q : ℚ) : Int :=
  if 1 ≤ q then Nat.log 10 ⌊q⌋₊ else -Nat.clog 10 ⌈1 / q⌉₊

def roundHalfEven (q : ℚ) : Nat :=
  let low := ⌊q⌋₊
  let rest := q - low
  if rest < 1 / 2 then low
  else if 1 / 2 < rest then low + 1
  else if low % 2 = 0 then low else low + 1

/-- Six significant digits and the power of ten of the first. -/
def sixDigits (q : ℚ) : Nat × Int :=
  let power := leadingPower q
  let scaled := roundHalfEven (q * (10 : ℚ) ^ (5 - power))
  if scaled = 1000000 then (100000, power + 1) else (scaled, power)

def stripZeros (digits : List Char) : List Char := (digits.reverse.dropWhile (· = '0')).reverse

def pointed (whole fraction : List Char) : List Char :=
  if fraction.isEmpty then whole else whole ++ '.' :: fraction

/-- A UTF-16 unit as `json.dumps` escapes it. -/
def unitEscape (unit : Nat) : String :=
  let digits := Nat.toDigits 16 unit
  "\\u" ++ String.ofList (List.replicate (4 - digits.length) '0' ++ digits)

/-- A character inside a string that `json.dumps` writes. -/
def escapeChar (c : Char) : String :=
  match c.toNat with
  | 8 => "\\b"
  | 9 => "\\t"
  | 10 => "\\n"
  | 12 => "\\f"
  | 13 => "\\r"
  | 34 => "\\\""
  | 92 => "\\\\"
  | n =>
    if 32 ≤ n && n < 127 then String.singleton c
    else if n < 65536 then unitEscape n
    else unitEscape (0xD800 + (n - 65536) / 1024) ++ unitEscape (0xDC00 + (n - 65536) % 1024)

/-- `json.dumps(s)`. -/
def dumpString (s : String) : String := "\"" ++ String.join (s.toList.map escapeChar) ++ "\""

/-- `f"{q:g}"`, for a positive number. -/
def formatG (q : ℚ) : String :=
  let (scaled, power) := sixDigits q
  let digits := stripZeros (Nat.toDigits 10 scaled)
  if 0 ≤ power && power < 6 then
    let width := power.toNat + 1
    let whole := (digits ++ List.replicate 6 '0').take width
    String.ofList (pointed whole (digits.drop width))
  else if -4 ≤ power && power < 0 then
    String.ofList (pointed ['0'] (List.replicate (-power - 1).toNat '0' ++ digits))
  else
    let exponent := Nat.toDigits 10 power.natAbs
    let exponent := if exponent.length < 2 then '0' :: exponent else exponent
    String.ofList (pointed (digits.take 1) (digits.drop 1) ++
      'e' :: (if power < 0 then '-' else '+') :: exponent)

end ProductionStack.Python
