/-
**Continuation tokens.**

A token says where the next page begins. It is the written form of a small JSON object with the
number of results before that page, so that nothing has to be remembered between two pages.

* `continuationToken`: the token for a place;
* `continuationContent`: the JSON value that a text is the written form of, or the layer in which it
  fails;
* `continuationOffset?`: the place that a token stands for, and none for a text that is no token.
-/

import DocQuery.Json.Printer
import DocQuery.Json.Reader
import DocQuery.Text.Base64
import DocQuery.Text.Bytes

namespace DocQuery

/-- The name of the field that holds the place. -/
def offsetName : String := "offset"

/-- The object that a token stands for. -/
def continuationJson (offset : Int) : Json := .object [(offsetName, .int offset)]

/-- The token for a place. -/
def continuationToken (offset : Int) : String :=
  String.ofList (encodeBase64 (asciiBytes (continuationJson offset).compact.toList))

/-- The place that an object stands for: a natural number. -/
def offsetOf? (value : Json) : Option Nat :=
  match value.field? offsetName with
  | some (.int offset) => if 0 ≤ offset then some offset.toNat else none
  | _ => none

/-- Why a text is not the written form of a JSON value, one cause for each layer. -/
inductive TokenFault where
  /-- A character is beyond ASCII. -/
  | character
  /-- The last group of characters is not complete. -/
  | group
  /-- The bytes are no text under the encoding that they show. -/
  | encoding
  | content (cause : JsonError)
deriving DecidableEq, Repr

/-- The JSON value that a text is the written form of. -/
def continuationContent (bound : DigitBound) (token : String) : Except TokenFault Json :=
  if token.toList.any fun c => 0x80 ≤ c.toNat then .error .character
  else
    match decodeBase64 token.toList with
    | none => .error .group
    | some bytes =>
      match decodeJsonBytes bytes with
      | none => .error .encoding
      | some cs => (Json.parseWithin bound (String.ofList cs)).mapError .content

/-- The place that a token stands for, under a bound on the digits of integers. A text that fails in
any layer is no token. -/
def continuationOffsetWithin? (bound : DigitBound) (token : String) : Option Nat :=
  match continuationContent bound token with
  | .ok value => offsetOf? value
  | .error _ => none

/-- The place that a token stands for. -/
def continuationOffset? (token : String) : Option Nat :=
  continuationOffsetWithin? (some maxIntegerDigits) token

end DocQuery
