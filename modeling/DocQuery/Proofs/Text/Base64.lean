/-
**Bytes written as characters are read back.**

* `decodeBase64_encodeBase64`: reading gives back the bytes that were written;
* `encodeBase64_subset`: what is written are characters of the alphabet and padding, hence ASCII
  characters (`isAscii_encodeBase64`);
* `decodeJsonBytes_asciiBytes`: ASCII characters are read back from their bytes where two of them
  stand in front that mark no other encoding.
-/

import DocQuery.Text.Base64
import DocQuery.Text.Bytes

namespace DocQuery

/-! ### Sextets -/

/-- A character of seven bits. -/
def IsAscii (c : Char) : Prop := c.toNat < 0x80

instance : DecidablePred IsAscii := fun c => inferInstanceAs (Decidable (c.toNat < 0x80))

theorem isAscii_of_isAsciiDigit {c : Char} (digit : isAsciiDigit c) : IsAscii c := by
  simp only [isAsciiDigit, Bool.and_eq_true, decide_eq_true_eq] at digit
  have most : c.toNat ≤ '9'.toNat := digit.2
  exact Nat.lt_of_le_of_lt most (by decide)

theorem isAscii_sextetChar {bits : Nat} (small : bits < 64) : IsAscii (sextetChar bits) := by
  have all : ∀ n : Fin 64, IsAscii (sextetChar n) := by decide
  exact all ⟨bits, small⟩

/-- A character for six bits is no padding. -/
theorem sextetChar_ne_padding {bits : Nat} (small : bits < 64) : sextetChar bits ≠ '=' := by
  have all : ∀ n : Fin 64, sextetChar n ≠ '=' := by decide
  exact all ⟨bits, small⟩

section

variable {bits : Nat} (small : bits < 64) {group : List Nat} (padding : Nat) (rest : List Char)

include small

/-- A character for six bits adds them to a group. -/
theorem decodeGroups_open (isOpen : group.length ≠ 3) :
    decodeGroups group padding (sextetChar bits :: rest) =
      decodeGroups (group ++ [bits]) 0 rest := by
  rw [decodeGroups, if_neg (sextetChar_ne_padding small), sextetValue?_sextetChar small]
  exact if_neg isOpen

/-- The fourth one completes the group. -/
theorem decodeGroups_fourth (isLast : group.length = 3) :
    decodeGroups group padding (sextetChar bits :: rest) =
      (groupBytes (group ++ [bits]) ++ ·) <$> decodeGroups [] 0 rest := by
  rw [decodeGroups, if_neg (sextetChar_ne_padding small), sextetValue?_sextetChar small]
  exact if_pos isLast

end

/-! ### Bytes -/

/-- A number that is the value of a byte makes that byte. -/
theorem toUInt8_of_eq {n : Nat} {byte : UInt8} (same : n = byte.toNat) : n.toUInt8 = byte := by
  subst same
  exact UInt8.ofNat_toNat

section

variable (a b c : UInt8)

theorem groupBytes_one : groupBytes [a.toNat / 4, a.toNat % 4 * 16] = [a] := by
  rw [groupBytes, @toUInt8_of_eq _ a (by omega)]

theorem groupBytes_two :
    groupBytes [a.toNat / 4, a.toNat % 4 * 16 + b.toNat / 16, b.toNat % 16 * 4] = [a, b] := by
  have bound := b.toNat_lt
  rw [groupBytes, @toUInt8_of_eq _ a (by omega), @toUInt8_of_eq _ b (by omega)]

theorem groupBytes_three :
    groupBytes [a.toNat / 4, a.toNat % 4 * 16 + b.toNat / 16, b.toNat % 16 * 4 + c.toNat / 64,
      c.toNat % 64] = [a, b, c] := by
  have boundB := b.toNat_lt
  have boundC := c.toNat_lt
  rw [groupBytes, @toUInt8_of_eq _ a (by omega), @toUInt8_of_eq _ b (by omega),
    @toUInt8_of_eq _ c (by omega)]

end

/-- **Bytes are read back from the characters for them.** -/
theorem decodeBase64_encodeBase64 (bytes : List UInt8) :
    decodeBase64 (encodeBase64 bytes) = some bytes := by
  unfold decodeBase64
  fun_induction encodeBase64 bytes with
  | case1 => rfl
  | case2 a =>
    have boundA := a.toNat_lt
    rw [decodeGroups_open (by omega) _ _ (by simp), decodeGroups_open (by omega) _ _ (by simp)]
    exact congrArg some (groupBytes_one a)
  | case3 a b =>
    have boundA := a.toNat_lt
    have boundB := b.toNat_lt
    rw [decodeGroups_open (by omega) _ _ (by simp), decodeGroups_open (by omega) _ _ (by simp),
      decodeGroups_open (by omega) _ _ (by simp)]
    exact congrArg some (groupBytes_two a b)
  | case4 a b c rest ih =>
    have boundA := a.toNat_lt
    have boundB := b.toNat_lt
    have boundC := c.toNat_lt
    rw [decodeGroups_open (by omega) _ _ (by simp), decodeGroups_open (by omega) _ _ (by simp),
      decodeGroups_open (by omega) _ _ (by simp), decodeGroups_fourth (by omega) _ _ rfl, ih]
    exact congrArg (fun group => some (group ++ rest)) (groupBytes_three a b c)

/-- Some bytes are written as some characters. -/
theorem encodeBase64_ne_nil {bytes : List UInt8} (some : bytes ≠ []) :
    encodeBase64 bytes ≠ [] := by
  match bytes with
  | [] => exact absurd rfl some
  | [_] | [_, _] | _ :: _ :: _ :: _ => simp [encodeBase64]

/-! ### Characters of seven bits -/

/-- What holds of the padding and of the character for any six bits holds of all that is written. -/
theorem forall_mem_encodeBase64 {property : Char → Prop} (padding : property '=')
    (sextet : ∀ bits, bits < 64 → property (sextetChar bits)) (bytes : List UInt8) :
    ∀ c ∈ encodeBase64 bytes, property c := by
  fun_induction encodeBase64 bytes with
  | case1 => exact List.forall_mem_nil _
  | case2 a =>
    have boundA := a.toNat_lt
    simp only [List.forall_mem_cons]
    exact ⟨sextet _ (by omega), sextet _ (by omega), padding, padding, List.forall_mem_nil _⟩
  | case3 a b =>
    have boundA := a.toNat_lt
    have boundB := b.toNat_lt
    simp only [List.forall_mem_cons]
    exact ⟨sextet _ (by omega), sextet _ (by omega), sextet _ (by omega), padding,
      List.forall_mem_nil _⟩
  | case4 a b c rest ih =>
    have boundA := a.toNat_lt
    have boundB := b.toNat_lt
    have boundC := c.toNat_lt
    simp only [List.forall_mem_cons]
    exact ⟨sextet _ (by omega), sextet _ (by omega), sextet _ (by omega), sextet _ (by omega), ih⟩

theorem isAscii_encodeBase64 (bytes : List UInt8) : ∀ c ∈ encodeBase64 bytes, IsAscii c :=
  forall_mem_encodeBase64 (by decide) (fun _ small => isAscii_sextetChar small) bytes

/-- The characters that are safe in addresses, one for each six bits. -/
def safeAlphabet : List Char :=
  "ABCDEFGHIJKLMNOPQRSTUVWXYZabcdefghijklmnopqrstuvwxyz0123456789-_".toList

/-- The characters for six bits stand in the alphabet in their order. -/
theorem sextetChar_eq {bits : Nat} (small : bits < 64) :
    safeAlphabet[bits]? = some (sextetChar bits) := by
  have all : ∀ n : Fin 64, safeAlphabet[n.val]? = some (sextetChar n) := by decide +kernel
  exact all ⟨bits, small⟩

/-- **Only characters of the alphabet and padding are written.** -/
theorem encodeBase64_subset (bytes : List UInt8) : encodeBase64 bytes ⊆ '=' :: safeAlphabet :=
  fun c member => forall_mem_encodeBase64 List.mem_cons_self
    (fun _ small => List.mem_cons_of_mem _ (List.mem_of_getElem? (sextetChar_eq small)))
    bytes c member

/-- The byte of an ASCII character has its number. -/
theorem toNat_toUInt8_of_isAscii {c : Char} (ascii : IsAscii c) :
    c.toNat.toUInt8.toNat = c.toNat :=
  UInt8.toNat_ofNat_of_lt' (Nat.lt_trans ascii (by decide))

theorem scalarChar_of_isAscii {c : Char} (ascii : IsAscii c) : scalarChar c.toNat = c := by
  have below : c.toNat < 0x80 := ascii
  rw [scalarChar, if_neg (by omega), Char.ofNat_toNat]

theorem decodeUtf8_asciiBytes {cs : List Char} (ascii : ∀ c ∈ cs, IsAscii c) :
    decodeUtf8 (asciiBytes cs) = some cs := by
  induction cs with
  | nil => rfl
  | cons c more ih =>
    obtain ⟨first, others⟩ := List.forall_mem_cons.mp ascii
    have same := toNat_toUInt8_of_isAscii first
    rw [asciiBytes, List.map_cons, decodeUtf8.eq_def]
    simp only [same]
    rw [if_pos (show c.toNat < 128 from first), ← asciiBytes, ih others,
      scalarChar_of_isAscii first]
    rfl

/-- Bytes that begin with a positive one of seven bits have no byte order mark. -/
theorem ofMark?_eq_none {byte : UInt8} (positive : byte ≠ 0) (small : byte.toNat < 0x80)
    (rest : List UInt8) : Encoding.ofMark? (byte :: rest) = none := by
  have other {large : UInt8} (isLarge : 0x80 ≤ large.toNat) : byte ≠ large := by
    rintro rfl
    omega
  unfold Encoding.ofMark?
  split
  · next marked => exact absurd (List.cons_eq_cons.mp marked).1 positive
  iterate 4
    · next marked => exact absurd (List.cons_eq_cons.mp marked).1 (other (by decide))
  · rfl

/-- Bytes that begin with two positive ones are in units of one byte. -/
theorem ofZeros_eq_utf8 {a b : UInt8} (first : a ≠ 0) (second : b ≠ 0) (rest : List UInt8) :
    Encoding.ofZeros (a :: b :: rest) = .utf8 := by
  match rest with
  | [] | [_] | _ :: _ :: _ => simp [Encoding.ofZeros, first, second]

/-- The byte of a character is zero for the null character only. -/
theorem toUInt8_ne_zero {c : Char} (ascii : IsAscii c) (visible : c ≠ '\x00') :
    c.toNat.toUInt8 ≠ 0 := by
  intro same
  have zero := congrArg UInt8.toNat same
  rw [toNat_toUInt8_of_isAscii ascii] at zero
  exact visible (Char.toNat_inj.mp zero)

/-- **Characters of seven bits are read back from their bytes**, unless one of the first two is
zero. -/
theorem decodeJsonBytes_asciiBytes {a b : Char} {more : List Char}
    (ascii : ∀ c ∈ a :: b :: more, IsAscii c) (first : a ≠ '\x00') (second : b ≠ '\x00') :
    decodeJsonBytes (asciiBytes (a :: b :: more)) = some (a :: b :: more) := by
  have asciiA : IsAscii a := ascii a (by simp)
  have asciiB : IsAscii b := ascii b (by simp)
  have noMark : Encoding.ofMark? (asciiBytes (a :: b :: more)) = none :=
    ofMark?_eq_none (toUInt8_ne_zero asciiA first)
      (by rw [toNat_toUInt8_of_isAscii asciiA]; exact asciiA) _
  have noZeros : Encoding.ofZeros (asciiBytes (a :: b :: more)) = .utf8 :=
    ofZeros_eq_utf8 (toUInt8_ne_zero asciiA first) (toUInt8_ne_zero asciiB second) _
  rw [decodeJsonBytes, Encoding.detect, noMark, Option.getD_none, noZeros]
  exact decodeUtf8_asciiBytes ascii

end DocQuery
