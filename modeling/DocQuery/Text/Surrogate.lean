/-
**Characters and surrogates.**

Some code points, the surrogates, are no characters: two of them in a row, of the right kinds, stand
for one character beyond the first 65536.

* `scalarChar`: the character of a code point, where a surrogate is replaced;
* `pairChar?`: the character that two surrogates stand for;
* `joinSurrogates`: the characters of a sequence of code points and pairs.
-/

namespace DocQuery

/-- The character with a code point. A surrogate on its own stands for none, and is replaced. -/
def scalarChar (code : Nat) : Char :=
  if 0xD800 ≤ code ∧ code < 0xE000 then '\uFFFD' else Char.ofNat code

/-- The character that a pair of surrogates stands for, if it is one. -/
def pairChar? (high low : Nat) : Option Char :=
  if 0xD800 ≤ high ∧ high < 0xDC00 ∧ 0xDC00 ≤ low ∧ low < 0xE000 then
    some (Char.ofNat (0x10000 + (high - 0xD800) * 0x400 + (low - 0xDC00)))
  else none

/-- The characters of code points, of which two surrogates may form one. -/
def joinSurrogates : List Nat → List Char
  | [] => []
  | [code] => [scalarChar code]
  | high :: low :: rest =>
    match pairChar? high low with
    | some c => c :: joinSurrogates rest
    | none => scalarChar high :: joinSurrogates (low :: rest)

end DocQuery
