/-
**Texts as bytes.**

* `asciiBytes`: the bytes of a text of ASCII characters;
* `Encoding.decode`: the characters that bytes stand for under an encoding. Surrogates that stand
  alone are accepted and read as replacement characters;
* `Encoding.detect`: the encoding of bytes that hold a JSON text, told by a byte order mark or by
  the places of zeros among the first bytes;
* `decodeJsonBytes`: the characters of a JSON text.
-/

import DocQuery.Text.Surrogate

namespace DocQuery

/-- The bytes of a text of ASCII characters. -/
def asciiBytes (cs : List Char) : List UInt8 := cs.map fun c => c.toNat.toUInt8

/-! ### One byte and more -/

/-- The six bits of a continuation byte. -/
def continuationBits? (byte : UInt8) : Option Nat :=
  if 0x80 ≤ byte.toNat && byte.toNat < 0xC0 then some (byte.toNat - 0x80) else none

/-- The code point of two bytes. -/
def twoBytes? (a b : UInt8) : Option Nat := do
  let code := (a.toNat - 0xC0) * 0x40 + (← continuationBits? b)
  if 0xC2 ≤ a.toNat && a.toNat < 0xE0 then some code else none

/-- The code point of three bytes. -/
def threeBytes? (a b c : UInt8) : Option Nat := do
  let code := ((a.toNat - 0xE0) * 0x40 + (← continuationBits? b)) * 0x40 + (← continuationBits? c)
  if 0xE0 ≤ a.toNat && a.toNat < 0xF0 && 0x800 ≤ code then some code else none

/-- The code point of four bytes. -/
def fourBytes? (a b c d : UInt8) : Option Nat := do
  let code := (((a.toNat - 0xF0) * 0x40 + (← continuationBits? b)) * 0x40 +
    (← continuationBits? c)) * 0x40 + (← continuationBits? d)
  if 0xF0 ≤ a.toNat && 0x10000 ≤ code && code < 0x110000 then some code else none

/-- The characters of bytes in groups of one to four, told apart by the first byte of each. -/
def decodeUtf8 : List UInt8 → Option (List Char)
  | [] => some []
  | a :: rest =>
    if a.toNat < 0x80 then (scalarChar a.toNat :: ·) <$> decodeUtf8 rest
    else
      match rest with
      | [] => none
      | b :: rest =>
        match twoBytes? a b with
        | some code => (scalarChar code :: ·) <$> decodeUtf8 rest
        | none =>
          match rest with
          | [] => none
          | c :: rest =>
            match threeBytes? a b c with
            | some code => (scalarChar code :: ·) <$> decodeUtf8 rest
            | none =>
              match rest with
              | [] => none
              | d :: rest =>
                match fourBytes? a b c d with
                | some code => (scalarChar code :: ·) <$> decodeUtf8 rest
                | none => none

/-! ### Units of two and four bytes -/

/-- The number that two bytes form. -/
def unitOfTwo (little : Bool) (a b : UInt8) : Nat :=
  if little then b.toNat * 0x100 + a.toNat else a.toNat * 0x100 + b.toNat

/-- The numbers that pairs of bytes form. -/
def unitsOfTwo (little : Bool) : List UInt8 → Option (List Nat)
  | [] => some []
  | [_] => none
  | a :: b :: rest => (unitOfTwo little a b :: ·) <$> unitsOfTwo little rest

/-- The characters of bytes in pairs. -/
def decodeUtf16 (little : Bool) (bytes : List UInt8) : Option (List Char) :=
  joinSurrogates <$> unitsOfTwo little bytes

/-- The characters of bytes in groups of four. -/
def decodeUtf32 (little : Bool) : List UInt8 → Option (List Char)
  | [] => some []
  | a :: b :: c :: d :: rest =>
    let code :=
      if little then unitOfTwo true c d * 0x10000 + unitOfTwo true a b
      else unitOfTwo false a b * 0x10000 + unitOfTwo false c d
    if code < 0x110000 then (scalarChar code :: ·) <$> decodeUtf32 little rest else none
  | _ => none

/-! ### Encodings of JSON texts -/

/-- An encoding of characters as bytes. -/
inductive Encoding where
  | utf8
  | utf16 (little : Bool)
  | utf32 (little : Bool)
deriving DecidableEq, Repr

namespace Encoding

/-- The characters of bytes. -/
def decode : Encoding → List UInt8 → Option (List Char)
  | .utf8 => decodeUtf8
  | .utf16 little => decodeUtf16 little
  | .utf32 little => decodeUtf32 little

/-- The encoding that a byte order mark announces, and the bytes behind it. -/
def ofMark? : List UInt8 → Option (Encoding × List UInt8)
  | 0x00 :: 0x00 :: 0xFE :: 0xFF :: rest => some (.utf32 false, rest)
  | 0xFF :: 0xFE :: 0x00 :: 0x00 :: rest => some (.utf32 true, rest)
  | 0xFE :: 0xFF :: rest => some (.utf16 false, rest)
  | 0xFF :: 0xFE :: rest => some (.utf16 true, rest)
  | 0xEF :: 0xBB :: 0xBF :: rest => some (.utf8, rest)
  | _ => none

/-- The encoding of a text that begins with two ASCII characters, or consists of one. -/
def ofZeros : List UInt8 → Encoding
  | a :: b :: c :: d :: _ =>
    if a = 0 then (if b = 0 then .utf32 false else .utf16 false)
    else if b = 0 then (if c = 0 ∧ d = 0 then .utf32 true else .utf16 true)
    else .utf8
  | [a, b] => if a = 0 then .utf16 false else if b = 0 then .utf16 true else .utf8
  | _ => .utf8

/-- The encoding of bytes, and the bytes without a byte order mark. -/
def detect (bytes : List UInt8) : Encoding × List UInt8 :=
  (ofMark? bytes).getD (ofZeros bytes, bytes)

end Encoding

/-- The characters of a JSON text that is given as bytes. -/
def decodeJsonBytes (bytes : List UInt8) : Option (List Char) :=
  (Encoding.detect bytes).1.decode (Encoding.detect bytes).2

end DocQuery
