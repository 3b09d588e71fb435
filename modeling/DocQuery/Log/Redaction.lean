/-
**Secrets in log messages.**

A message may hold secrets behind certain markers. They are replaced by a mask before the message is
written.

* `Marker`: what announces a secret, what may stand between the two, and of which characters the
  secret consists;
* `Marker.redact`: a text with all secrets behind a marker masked, found from left to right;
* `redactText`: the same for all four markers in turn.
-/

import DocQuery.Text.CharClass
import DocQuery.Text.Trim

namespace DocQuery

/-- What a secret is replaced by. -/
def mask : List Char := "***REDACTED***".toList

/-! ### Letter case -/

/-- Whether a character is a small letter of a marker, or counts as one where case is ignored. Two
letters have a relative outside the alphabet, and one has two. -/
def matchesLetter (letter c : Char) : Bool :=
  c == letter || c.toLower == letter ||
    (letter == 'i' && (c == 'İ' || c == 'ı')) || (letter == 's' && c == 'ſ') ||
    (letter == 'k' && c.toNat == 0x212A)

/-- The beginning of a text that is a given word in any case, and what is behind it. -/
def splitWord? : List Char → List Char → Option (List Char × List Char)
  | [], text => some ([], text)
  | _ :: _, [] => none
  | letter :: word, c :: text =>
    if matchesLetter letter c then
      (splitWord? word text).map fun (found, rest) => (c :: found, rest)
    else none

/-! ### Gaps -/

/-- What may stand between the name of a secret and the secret. -/
inductive Gap where
  | empty
  /-- White space. -/
  | space
  /-- A colon or an equals sign, with white space and quotation marks around it. -/
  | assignment
deriving DecidableEq, Repr

/-- Whether a character is a quotation mark. -/
def isQuotationMark (c : Char) : Bool := c == '"' || c == '\''

/-- A quotation mark, if there is one, and what is behind it. -/
def splitMark (text : List Char) : List Char × List Char :=
  match text with
  | c :: rest => if isQuotationMark c then ([c], rest) else ([], text)
  | [] => ([], [])

/-- White space at the beginning of a text, and what is behind it. -/
def splitBlanks (text : List Char) : List Char × List Char :=
  (text.takeWhile isBlank, text.dropWhile isBlank)

/-- A gap at the beginning of a text, and what is behind it. -/
def Gap.split? (gap : Gap) (text : List Char) : Option (List Char × List Char) :=
  match gap with
  | .empty => some ([], text)
  | .space =>
    let (blanks, rest) := splitBlanks text
    if blanks.isEmpty then none else some (blanks, rest)
  | .assignment =>
    let (mark, rest) := splitMark text
    let (blanks, rest) := splitBlanks rest
    match rest with
    | c :: rest =>
      if c = ':' ∨ c = '=' then
        let (blanks', rest) := splitBlanks rest
        let (mark', rest) := splitMark rest
        some (mark ++ blanks ++ c :: blanks' ++ mark', rest)
      else none
    | [] => none

/-! ### Markers -/

/-- What announces a secret. -/
structure Marker where
  /-- A word in small letters, which is recognised in any case. -/
  word : List Char
  gap : Gap
  /-- The characters of which the secret consists. -/
  isSecret : Char → Bool

namespace Marker

/-- A secret at the beginning of a text: what stays in front of it, and what is behind it. -/
def split? (marker : Marker) (text : List Char) : Option (List Char × List Char) :=
  match splitWord? marker.word text with
  | none => none
  | some (word, rest) =>
    match marker.gap.split? rest with
    | none => none
    | some (gap, rest) =>
      if (rest.takeWhile marker.isSecret).isEmpty then none
      else some (word ++ gap, rest.dropWhile marker.isSecret)

/-- A text with the secrets behind a marker masked, of which the first characters belong to what has
been dealt with already. -/
def redactAfter (marker : Marker) : Nat → List Char → List Char
  | _, [] => []
  | skipped + 1, _ :: text => redactAfter marker skipped text
  | 0, c :: text =>
    match marker.split? (c :: text) with
    | some (kept, rest) => kept ++ mask ++ redactAfter marker (text.length - rest.length) text
    | none => c :: redactAfter marker 0 text

/-- A text with the secrets behind a marker masked. -/
def redact (marker : Marker) (text : List Char) : List Char := marker.redactAfter 0 text

end Marker

/-- A character of a secret that is assigned to a name. -/
def isAssigned (c : Char) : Bool := !isQuotationMark c && !isBlank c && c != ',' && c != '\x7d'

/-- The markers: account keys, which end at a semicolon, authorizations, which end at white space,
and two kinds of keys that are assigned to a name. -/
def markers : List Marker :=
  [⟨"accountkey=".toList, .empty, fun c => c != ';'⟩,
    ⟨"authorization:".toList, .space, fun c => !isBlank c⟩,
    ⟨"masterkey".toList, .assignment, isAssigned⟩,
    ⟨"resourcetoken".toList, .assignment, isAssigned⟩]

/-- A text with all secrets masked. -/
def redactText (text : String) : String :=
  String.ofList (markers.foldl (fun text marker => marker.redact text) text.toList)

end DocQuery
