import Mathlib.Algebra.Order.Ring.Rat
import ProductionStack.Lib.Dict
import ProductionStack.Python.Exceptions

/-!
`json.loads` and the Python operations the router applies to its results.

The reader is a machine that takes one code point at a time, as the scanner of
the standard library does, so the first error in the text is the one raised.
A float keeps the exact value of its literal; only overflow to infinity is
modelled. A surrogate without its partner reads as U+FFFD.
-/

namespace ProductionStack.Python

open Lib

abbrev Bytes := List UInt8

inductive PyFloat where
  | finite (value : ℚ)
  | inf
  | negInf
  | nan
  deriving DecidableEq

inductive Json where
  | null
  | bool (value : Bool)
  | int (value : Int)
  | float (value : PyFloat)
  | str (value : String)
  | arr (items : List Json)
  | obj (fields : List (String × Json))

def decodeError : PyExc := .new .unicodeDecodeError "cannot decode byte"

def jsonError (message : String) : PyExc := .new .jsonDecodeError message

/-! Decoding the bytes. Surrogates are let through, as `surrogatepass` does. -/

def isTail (b : UInt8) : Bool := 0x80 ≤ b && b < 0xC0

def tailBits (b : UInt8) : Nat := b.toNat - 0x80

def decodeUtf8 : Bytes → Option (List Nat)
  | [] => some []
  | b0 :: rest =>
    if b0 < 0x80 then (b0.toNat :: ·) <$> decodeUtf8 rest
    else match rest with
      | [] => none
      | b1 :: rest =>
        if !isTail b1 then none
        else if 0xC2 ≤ b0 && b0 < 0xE0 then
          let c := (b0.toNat - 0xC0) * 64 + tailBits b1
          (c :: ·) <$> decodeUtf8 rest
        else match rest with
          | [] => none
          | b2 :: rest =>
            if !isTail b2 then none
            else if 0xE0 ≤ b0 && b0 < 0xF0 then
              let c := (b0.toNat - 0xE0) * 4096 + tailBits b1 * 64 + tailBits b2
              if c < 0x800 then none else (c :: ·) <$> decodeUtf8 rest
            else match rest with
              | [] => none
              | b3 :: rest =>
                let c := (b0.toNat - 0xF0) * 262144 + tailBits b1 * 4096 +
                  tailBits b2 * 64 + tailBits b3
                if isTail b3 && 0xF0 ≤ b0 && b0 < 0xF8 && 0x10000 ≤ c && c ≤ 0x10FFFF
                then (c :: ·) <$> decodeUtf8 rest
                else none

def units16 (bigEndian : Bool) : Bytes → Option (List Nat)
  | [] => some []
  | [_] => none
  | a :: b :: rest =>
    let unit := if bigEndian then a.toNat * 256 + b.toNat else b.toNat * 256 + a.toNat
    (unit :: ·) <$> units16 bigEndian rest

/-- Join each high surrogate with the low surrogate after it. -/
def joinSurrogates : List Nat → List Nat
  | [] => []
  | [c] => [c]
  | hi :: lo :: rest =>
    if 0xD800 ≤ hi && hi < 0xDC00 && 0xDC00 ≤ lo && lo < 0xE000 then
      (0x10000 + (hi - 0xD800) * 1024 + (lo - 0xDC00)) :: joinSurrogates rest
    else hi :: joinSurrogates (lo :: rest)

def units32 (bigEndian : Bool) : Bytes → Option (List Nat)
  | [] => some []
  | a :: b :: c :: d :: rest =>
    let word := fun (w x y z : UInt8) =>
      ((w.toNat * 256 + x.toNat) * 256 + y.toNat) * 256 + z.toNat
    let unit := if bigEndian then word a b c d else word d c b a
    if unit ≤ 0x10FFFF then (unit :: ·) <$> units32 bigEndian rest else none
  | _ => none

/-- `bytes.decode(json.detect_encoding(b), "surrogatepass")`. -/
def decodeJsonBytes : Bytes → Option (List Nat)
  | 0x00 :: 0x00 :: 0xFE :: 0xFF :: rest => units32 true rest
  | 0xFF :: 0xFE :: 0x00 :: 0x00 :: rest => units32 false rest
  | 0xFE :: 0xFF :: rest => joinSurrogates <$> units16 true rest
  | 0xFF :: 0xFE :: rest => joinSurrogates <$> units16 false rest
  | 0xEF :: 0xBB :: 0xBF :: rest => decodeUtf8 rest
  | a :: b :: c :: d :: rest =>
    let body := a :: b :: c :: d :: rest
    if a = 0 then
      if b = 0 then units32 true body else joinSurrogates <$> units16 true body
    else if b = 0 then
      if c = 0 && d = 0 then units32 false body else joinSurrogates <$> units16 false body
    else decodeUtf8 body
  | [a, b] =>
    if a = 0 then joinSurrogates <$> units16 true [a, b]
    else if b = 0 then joinSurrogates <$> units16 false [a, b]
    else decodeUtf8 [a, b]
  | body => decodeUtf8 body

/-! Numbers and the three literals. -/

def isDigit (c : Nat) : Bool := 48 ≤ c && c ≤ 57

def digitsValue (digits : List Nat) : Nat := digits.foldl (fun n c => n * 10 + (c - 48)) 0

/-- From this magnitude on, a decimal literal is read as an infinity and an
integer is too large to become a float. -/
def floatOverflow : ℚ := 2 ^ 1024 - 2 ^ 970

def toFloat (q : ℚ) : PyFloat :=
  if floatOverflow ≤ q then .inf else if q ≤ -floatOverflow then .negInf else .finite q

/-- The interpreter's limit on the digits of an integer literal. -/
def maxIntDigits : Nat := 4300

def readInt (negative : Bool) (digits : List Nat) : Except PyExc Json :=
  if maxIntDigits < digits.length then
    .error (.new .valueError "Exceeds the limit (4300 digits) for integer string conversion")
  else
    let n : Int := digitsValue digits
    .ok (.int (if negative then -n else n))

/-- The `e` part of a number, if it is one. -/
def readExponent : List Nat → Option Int
  | [] => some 0
  | mark :: rest =>
    if mark = 101 || mark = 69 then
      let (negative, digits) := match rest with
        | 43 :: digits => (false, digits)
        | 45 :: digits => (true, digits)
        | digits => (false, digits)
      if digits.isEmpty || !digits.all isDigit then none
      else
        let n : Int := digitsValue digits
        some (if negative then -n else n)
    else none

/-- The digits after a decimal point, and what follows them. -/
def readFraction : List Nat → Option (List Nat × List Nat)
  | 46 :: rest =>
    let (fraction, rest) := rest.span isDigit
    if fraction.isEmpty then none else some (fraction, rest)
  | rest => some ([], rest)

def readNumber (word : List Nat) : Except PyExc Json :=
  let (negative, body) := match word with
    | 45 :: body => (true, body)
    | body => (false, body)
  let (whole, rest) := body.span isDigit
  if whole.isEmpty || (whole.head? = some 48 && whole.length ≠ 1) then
    .error (jsonError "Expecting value")
  else if rest.isEmpty then readInt negative whole
  else match readFraction rest with
    | none => .error (jsonError "Expecting value")
    | some (fraction, rest) =>
      match readExponent rest with
      | none => .error (jsonError "Expecting value")
      | some e =>
        let q : ℚ := (digitsValue (whole ++ fraction) : ℚ) *
          (10 : ℚ) ^ (e - fraction.length)
        .ok (.float (toFloat (if negative then -q else q)))

def codes (s : String) : List Nat := s.toList.map Char.toNat

def readWord (word : List Nat) : Except PyExc Json :=
  if word = codes "null" then .ok .null
  else if word = codes "true" then .ok (.bool true)
  else if word = codes "false" then .ok (.bool false)
  else if word = codes "NaN" then .ok (.float .nan)
  else if word = codes "Infinity" then .ok (.float .inf)
  else if word = codes "-Infinity" then .ok (.float .negInf)
  else readNumber word

/-! The machine. `Frame` is a container that is still open. -/

inductive Frame where
  | arr (items : List Json)
  | obj (fields : List (String × Json)) (key : Option String)

inductive Expect where
  | value
  | valueOrEnd
  | key
  | keyOrEnd
  | colon
  | commaOrEnd
  | done (value : Json)

/-- Where the scanner stands inside a token; collected code points are reversed. -/
inductive Scan where
  | between
  | word (acc : List Nat)
  | string (acc : List Nat)
  | escape (acc : List Nat)
  | unicode (acc : List Nat) (missing value : Nat)

structure Reader where
  scan : Scan
  stack : List Frame
  expect : Expect

namespace Reader

def start : Reader := ⟨.between, [], .value⟩

/-- A value is complete: it goes into the innermost open container. -/
def complete (r : Reader) (v : Json) : Except PyExc Reader :=
  match r.expect, r.stack with
  | .value, [] | .valueOrEnd, [] => .ok ⟨.between, [], .done v⟩
  | .value, .arr items :: rest | .valueOrEnd, .arr items :: rest =>
    .ok ⟨.between, .arr (v :: items) :: rest, .commaOrEnd⟩
  | .value, .obj fields (some key) :: rest =>
    .ok ⟨.between, .obj (upsert key v fields) none :: rest, .commaOrEnd⟩
  | .done _, _ => .error (jsonError "Extra data")
  | _, _ => .error (jsonError "Expecting value")

def completeString (r : Reader) (s : String) : Except PyExc Reader :=
  match r.expect, r.stack with
  | .key, .obj fields none :: rest | .keyOrEnd, .obj fields none :: rest =>
    .ok ⟨.between, .obj fields (some s) :: rest, .colon⟩
  | _, _ => r.complete (.str s)

/-- Open a container; the interpreter bounds how deep they nest. -/
def push (limit : Nat) (r : Reader) (frame : Frame) (expect : Expect) : Except PyExc Reader :=
  match r.expect with
  | .value | .valueOrEnd =>
    if limit ≤ r.stack.length then
      .error (.new .recursionError "maximum recursion depth exceeded")
    else .ok ⟨.between, frame :: r.stack, expect⟩
  | .done _ => .error (jsonError "Extra data")
  | _ => .error (jsonError "Expecting value")

def close (r : Reader) (bracket : Nat) : Except PyExc Reader :=
  match bracket, r.expect, r.stack with
  | 93, .valueOrEnd, .arr items :: rest | 93, .commaOrEnd, .arr items :: rest =>
    complete ⟨.between, rest, .value⟩ (.arr items.reverse)
  | 125, .keyOrEnd, .obj fields none :: rest | 125, .commaOrEnd, .obj fields none :: rest =>
    complete ⟨.between, rest, .value⟩ (.obj fields)
  | _, _, _ => .error (jsonError "Expecting ',' delimiter")

def separate (r : Reader) (mark : Nat) : Except PyExc Reader :=
  match mark, r.expect, r.stack with
  | 44, .commaOrEnd, .arr items :: rest => .ok ⟨.between, .arr items :: rest, .value⟩
  | 44, .commaOrEnd, .obj fields key :: rest => .ok ⟨.between, .obj fields key :: rest, .key⟩
  | 58, .colon, stack => .ok ⟨.between, stack, .value⟩
  | _, _, _ => .error (jsonError "Expecting value")

def toText (points : List Nat) : String :=
  String.ofList (points.map fun c => if c.isValidChar then Char.ofNat c else Char.ofNat 0xFFFD)

def isSpace (c : Nat) : Bool := c = 32 || c = 9 || c = 10 || c = 13

/-- A code point outside strings. -/
def plain (limit : Nat) (r : Reader) (c : Nat) : Except PyExc Reader :=
  if isSpace c then .ok { r with scan := .between }
  else if c = 91 then r.push limit (.arr []) .valueOrEnd
  else if c = 123 then r.push limit (.obj [] none) .keyOrEnd
  else if c = 93 || c = 125 then r.close c
  else if c = 44 || c = 58 then r.separate c
  else if c = 34 then .ok { r with scan := .string [] }
  else .ok { r with scan := .word [c] }

def endsWord (c : Nat) : Bool :=
  isSpace c || c = 91 || c = 123 || c = 93 || c = 125 || c = 44 || c = 58 || c = 34

def hexDigit (c : Nat) : Option Nat :=
  if isDigit c then some (c - 48)
  else if 97 ≤ c && c ≤ 102 then some (c - 87)
  else if 65 ≤ c && c ≤ 70 then some (c - 55)
  else none

def escaped (c : Nat) : Option Nat :=
  match c with
  | 34 | 92 | 47 => some c
  | 98 => some 8
  | 102 => some 12
  | 110 => some 10
  | 114 => some 13
  | 116 => some 9
  | _ => none

def feed (limit : Nat) (r : Reader) (c : Nat) : Except PyExc Reader :=
  match r.scan with
  | .between => r.plain limit c
  | .word acc =>
    if endsWord c then do
      let v ← readWord acc.reverse
      let r ← r.complete v
      r.plain limit c
    else .ok { r with scan := .word (c :: acc) }
  | .string acc =>
    if c = 34 then r.completeString (toText (joinSurrogates acc.reverse))
    else if c = 92 then .ok { r with scan := .escape acc }
    else if c < 32 then .error (jsonError "Invalid control character at")
    else .ok { r with scan := .string (c :: acc) }
  | .escape acc =>
    if c = 117 then .ok { r with scan := .unicode acc 4 0 }
    else match escaped c with
      | some c => .ok { r with scan := .string (c :: acc) }
      | none => .error (jsonError "Invalid \\escape")
  | .unicode acc missing value =>
    match hexDigit c with
    | none => .error (jsonError "Invalid \\uXXXX escape")
    | some digit =>
      let value := value * 16 + digit
      if missing ≤ 1 then .ok { r with scan := .string (value :: acc) }
      else .ok { r with scan := .unicode acc (missing - 1) value }

/-- The text is over: a number or literal at its end is complete now. -/
def endText (r : Reader) : Except PyExc Reader :=
  match r.scan with
  | .between => .ok r
  | .word acc => do
      let v ← readWord acc.reverse
      r.complete v
  | _ => .error (jsonError "Unterminated string starting at")

def result (r : Reader) : Except PyExc Json :=
  match r.expect, r.stack with
  | .done v, [] => .ok v
  | _, _ => .error (jsonError "Expecting value")

end Reader

/-- `json.loads` on bytes, in an interpreter that lets containers nest `limit`
deep. -/
def jsonLoads (limit : Nat) (body : Bytes) : Except PyExc Json :=
  match decodeJsonBytes body with
  | none => .error decodeError
  | some points => do
      let r ← points.foldlM (Reader.feed limit) Reader.start
      let r ← r.endText
      r.result

/-- The classes `json.loads` raises. -/
def LoadsError (e : PyExc) : Prop :=
  e.cls ∈ [.jsonDecodeError, .unicodeDecodeError, .valueError, .recursionError]

/-- A computation that raises nothing else. -/
def OnlyLoadsErrors {α : Type} (x : Except PyExc α) : Prop := ∀ e, x = .error e → LoadsError e

section Errors

variable {α β : Type}

theorem onlyLoadsErrors_ok (a : α) : OnlyLoadsErrors (.ok a) := nofun

theorem onlyLoadsErrors_json (message : String) :
    OnlyLoadsErrors (.error (jsonError message) : Except PyExc α) := by
  rintro e ⟨⟩
  simp [LoadsError, jsonError, PyExc.new]

variable {x : Except PyExc α} (word : List Nat) (r : Reader) (limit : Nat)

theorem OnlyLoadsErrors.bind {f : α → Except PyExc β} (hx : OnlyLoadsErrors x)
    (hf : ∀ a, OnlyLoadsErrors (f a)) : OnlyLoadsErrors (x >>= f) := by
  cases x with
  | ok a => exact hf a
  | error e' =>
    intro e h
    cases h
    exact hx e' rfl

theorem OnlyLoadsErrors.ite {c : Prop} [Decidable c] {y : Except PyExc α} (hx : OnlyLoadsErrors x)
    (hy : OnlyLoadsErrors y) : OnlyLoadsErrors (if c then x else y) := by
  split
  · exact hx
  · exact hy

theorem onlyLoadsErrors_readInt (negative : Bool) (digits : List Nat) :
    OnlyLoadsErrors (readInt negative digits) := by
  refine .ite ?_ (onlyLoadsErrors_ok _)
  rintro e ⟨⟩
  simp [LoadsError, PyExc.new]

theorem onlyLoadsErrors_readNumber : OnlyLoadsErrors (readNumber word) := by
  refine .ite (onlyLoadsErrors_json _) (.ite (onlyLoadsErrors_readInt _ _) ?_)
  split
  · exact onlyLoadsErrors_json _
  · split
    · exact onlyLoadsErrors_json _
    · exact onlyLoadsErrors_ok _

theorem onlyLoadsErrors_readWord : OnlyLoadsErrors (readWord word) := by
  iterate 6 refine .ite (onlyLoadsErrors_ok _) ?_
  exact onlyLoadsErrors_readNumber word

theorem onlyLoadsErrors_complete (v : Json) : OnlyLoadsErrors (r.complete v) := by
  unfold Reader.complete
  split
  all_goals first
    | exact onlyLoadsErrors_ok _
    | exact onlyLoadsErrors_json _

theorem onlyLoadsErrors_completeString (s : String) : OnlyLoadsErrors (r.completeString s) := by
  unfold Reader.completeString
  split
  all_goals first
    | exact onlyLoadsErrors_ok _
    | exact onlyLoadsErrors_complete r (.str s)

theorem onlyLoadsErrors_push (r : Reader) (frame : Frame) (expect : Expect) :
    OnlyLoadsErrors (r.push limit frame expect) := by
  unfold Reader.push
  repeat' split
  all_goals first
    | exact onlyLoadsErrors_ok _
    | exact onlyLoadsErrors_json _
    | (rintro e ⟨⟩; simp [LoadsError, PyExc.new])

theorem onlyLoadsErrors_close (bracket : Nat) : OnlyLoadsErrors (r.close bracket) := by
  unfold Reader.close
  split
  all_goals first
    | exact onlyLoadsErrors_complete _ _
    | exact onlyLoadsErrors_json _

theorem onlyLoadsErrors_separate (mark : Nat) : OnlyLoadsErrors (r.separate mark) := by
  unfold Reader.separate
  split
  all_goals first
    | exact onlyLoadsErrors_ok _
    | exact onlyLoadsErrors_json _

theorem onlyLoadsErrors_plain (r : Reader) (c : Nat) : OnlyLoadsErrors (r.plain limit c) := by
  unfold Reader.plain
  repeat' split
  all_goals first
    | exact onlyLoadsErrors_ok _
    | exact onlyLoadsErrors_push _ _ _ _
    | exact onlyLoadsErrors_close _ _
    | exact onlyLoadsErrors_separate _ _

theorem onlyLoadsErrors_feed (r : Reader) (c : Nat) : OnlyLoadsErrors (r.feed limit c) := by
  unfold Reader.feed
  cases hscan : r.scan with
  | between => exact onlyLoadsErrors_plain limit r c
  | word acc =>
    dsimp only
    split
    · apply (onlyLoadsErrors_readWord _).bind
      intro v
      apply (onlyLoadsErrors_complete r v).bind
      intro r
      exact onlyLoadsErrors_plain limit r c
    · exact onlyLoadsErrors_ok _
  | string acc =>
    dsimp only
    repeat' split
    all_goals first
      | exact onlyLoadsErrors_ok _
      | exact onlyLoadsErrors_json _
      | exact onlyLoadsErrors_completeString _ _
  | escape acc | unicode acc missing value =>
    dsimp only
    repeat' split
    all_goals first
      | exact onlyLoadsErrors_ok _
      | exact onlyLoadsErrors_json _

theorem onlyLoadsErrors_endText : OnlyLoadsErrors r.endText := by
  unfold Reader.endText
  split
  · exact onlyLoadsErrors_ok _
  · apply (onlyLoadsErrors_readWord _).bind
    intro v
    exact onlyLoadsErrors_complete r v
  · exact onlyLoadsErrors_json _

theorem onlyLoadsErrors_result : OnlyLoadsErrors r.result := by
  unfold Reader.result
  split
  · exact onlyLoadsErrors_ok _
  · exact onlyLoadsErrors_json _

theorem onlyLoadsErrors_foldlM (points : List Nat) (r : Reader) :
    OnlyLoadsErrors (points.foldlM (Reader.feed limit) r) := by
  induction points generalizing r with
  | nil => exact onlyLoadsErrors_ok r
  | cons c rest ih =>
    exact (onlyLoadsErrors_feed limit r c).bind ih

theorem onlyLoadsErrors_jsonLoads (body : Bytes) : OnlyLoadsErrors (jsonLoads limit body) := by
  unfold jsonLoads
  split
  · rintro e ⟨⟩
    simp [LoadsError, decodeError, PyExc.new]
  · apply (onlyLoadsErrors_foldlM limit _ _).bind
    intro r
    exact (onlyLoadsErrors_endText r).bind onlyLoadsErrors_result

end Errors

namespace Json

/-- `key in j`, for a string `key`. -/
def contains (j : Json) (key : String) : Except PyExc Bool :=
  match j with
  | .obj fields => .ok (fields.any (fun field => field.1 = key))
  | .arr items => .ok (items.any fun
      | .str s => s = key
      | _ => false)
  | .str s => .ok (s.toList.tails.any key.toList.isPrefixOf)
  | .null | .bool _ | .int _ | .float _ =>
    .error (.new .typeError "argument is not iterable")

/-- `j[key]`, for a string `key`. -/
def item (j : Json) (key : String) : Except PyExc Json :=
  match j with
  | .obj fields =>
    match fields.lookup key with
    | some v => .ok v
    | none => .error (.new .keyError key)
  | .arr _ => .error (.new .typeError "list indices must be integers or slices, not str")
  | .str _ => .error (.new .typeError "string indices must be integers, not 'str'")
  | .null | .bool _ | .int _ | .float _ =>
    .error (.new .typeError "object is not subscriptable")

/-- `j.get(key, default)`. -/
def get (j : Json) (key : String) (fallback : Json) : Except PyExc Json :=
  match j with
  | .obj fields => .ok ((fields.lookup key).getD fallback)
  | _ => .error (.new .attributeError "object has no attribute 'get'")

/-- `bool(j)`. -/
def truthy : Json → Bool
  | .null => false
  | .bool b => b
  | .int n => n ≠ 0
  | .float x => x ≠ .finite 0
  | .str s => s ≠ ""
  | .arr items => !items.isEmpty
  | .obj fields => !fields.isEmpty

/-- The number that a value is, if it is one. `True` and `False` are numbers. -/
def number? : Json → Option PyFloat
  | .bool b => some (.finite (if b then 1 else 0))
  | .int n => some (.finite n)
  | .float x => some x
  | .null | .str _ | .arr _ | .obj _ => none

mutual

/-- `a == b`. The loaders have one NaN object each, and an object is equal to
itself inside a container. -/
def pyEq : Json → Json → Bool
  | .null, .null => true
  | .str s, .str t => s = t
  | .arr items, .arr items' => pyEqItems items items'
  | .obj fields, .obj fields' =>
    fields.length = fields'.length && pyEqFields fields fields'
  | a, b => match number? a, number? b with
      | some x, some y => x = y
      | _, _ => false

def pyEqItems : List Json → List Json → Bool
  | [], [] => true
  | a :: rest, b :: rest' => pyEq a b && pyEqItems rest rest'
  | _, _ => false

/-- Every field is one of the other dictionary. -/
def pyEqFields : List (String × Json) → List (String × Json) → Bool
  | [], _ => true
  | (key, a) :: rest, fields =>
    fields.any (fun field => field.1 = key && pyEq a field.2) && pyEqFields rest fields

end

mutual
theorem pyEq_refl : ∀ a : Json, a.pyEq a = true
  | .null => rfl
  | .bool _ | .int _ | .float _ => by simp [pyEq, number?]
  | .str _ => by simp [pyEq]
  | .arr items => by
      simp only [pyEq]
      exact pyEqItems_refl items
  | .obj fields => by
      simp only [pyEq, decide_true, Bool.true_and]
      exact pyEqFields_of_subset fields fields fun _ h => h

theorem pyEqItems_refl : ∀ items : List Json, pyEqItems items items = true
  | [] => rfl
  | a :: rest => by
      simp only [pyEqItems, Bool.and_eq_true]
      exact ⟨pyEq_refl a, pyEqItems_refl rest⟩

theorem pyEqFields_of_subset : ∀ fields all : List (String × Json),
    (∀ field ∈ fields, field ∈ all) → pyEqFields fields all = true
  | [], _, _ => rfl
  | (key, a) :: rest, all, h => by
      simp only [pyEqFields, Bool.and_eq_true]
      constructor
      · refine List.any_eq_true.mpr ⟨(key, a), h _ List.mem_cons_self, ?_⟩
        simp [pyEq_refl a]
      · exact pyEqFields_of_subset rest all fun field hmem => h field (List.mem_cons_of_mem _ hmem)
end

end Json

end ProductionStack.Python
