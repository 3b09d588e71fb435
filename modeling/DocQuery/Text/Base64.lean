/-
**Bytes as text of 64 characters.**

Three bytes are written as four characters of an alphabet that is safe in addresses: letters,
digits, `-` and `_`. A shorter group at the end is filled up with `=`.

* `encodeBase64`: the written form of bytes;
* `decodeBase64`: the bytes of a text. Reading is lenient: `+` and `/` stand for `-` and `_`,
  characters outside the alphabet are skipped, and nothing is read behind the padding of the last
  group.
-/

import DocQuery.Text.CharClass

namespace DocQuery

/-! ### The alphabet -/

/-- The character for six bits. -/
def sextetChar (bits : Nat) : Char :=
  if bits < 26 then .ofNat ('A'.toNat + bits)
  else if bits < 52 then .ofNat ('a'.toNat + (bits - 26))
  else if bits < 62 then .ofNat ('0'.toNat + (bits - 52))
  else if bits = 62 then '-'
  else '_'

/-- The six bits that a character stands for. -/
def sextetValue? (c : Char) : Option Nat :=
  if 'A' ≤ c ∧ c ≤ 'Z' then some (c.toNat - 'A'.toNat)
  else if 'a' ≤ c ∧ c ≤ 'z' then some (c.toNat - 'a'.toNat + 26)
  else if '0' ≤ c ∧ c ≤ '9' then some (c.toNat - '0'.toNat + 52)
  else if c = '-' ∨ c = '+' then some 62
  else if c = '_' ∨ c = '/' then some 63
  else none

theorem sextetValue?_sextetChar {bits : Nat} (small : bits < 64) :
    sextetValue? (sextetChar bits) = some bits := by
  have all : ∀ n : Fin 64, sextetValue? (sextetChar n) = some n.val := by decide
  exact all ⟨bits, small⟩

/-! ### Groups -/

/-- The characters of groups of three bytes. -/
def encodeBase64 : List UInt8 → List Char
  | [] => []
  | [a] => [sextetChar (a.toNat / 4), sextetChar (a.toNat % 4 * 16), '=', '=']
  | [a, b] =>
    [sextetChar (a.toNat / 4), sextetChar (a.toNat % 4 * 16 + b.toNat / 16),
      sextetChar (b.toNat % 16 * 4), '=']
  | a :: b :: c :: rest =>
    sextetChar (a.toNat / 4) :: sextetChar (a.toNat % 4 * 16 + b.toNat / 16) ::
      sextetChar (b.toNat % 16 * 4 + c.toNat / 64) :: sextetChar (c.toNat % 64) ::
      encodeBase64 rest

/-- The bytes that are complete in a group of up to four characters. -/
def groupBytes : List Nat → List UInt8
  | [w, x] => [(w * 4 + x / 16).toUInt8]
  | [w, x, y] => [(w * 4 + x / 16).toUInt8, (x % 16 * 16 + y / 4).toUInt8]
  | [w, x, y, z] =>
    [(w * 4 + x / 16).toUInt8, (x % 16 * 16 + y / 4).toUInt8, (y % 4 * 64 + z).toUInt8]
  | _ => []

/-- Reads on from within a group of which some characters and some padding have been seen. -/
def decodeGroups (group : List Nat) (padding : Nat) : List Char → Option (List UInt8)
  | [] => if group.isEmpty then some [] else none
  | c :: rest =>
    if c = '=' then
      if group.length < 2 then decodeGroups group padding rest
      else if 4 ≤ group.length + padding + 1 then some (groupBytes group)
      else decodeGroups group (padding + 1) rest
    else
      match sextetValue? c with
      | none => decodeGroups group padding rest
      | some bits =>
        if group.length = 3 then (groupBytes (group ++ [bits]) ++ ·) <$> decodeGroups [] 0 rest
        else decodeGroups (group ++ [bits]) 0 rest

/-- The bytes that a text stands for. -/
def decodeBase64 (cs : List Char) : Option (List UInt8) := decodeGroups [] 0 cs

end DocQuery
