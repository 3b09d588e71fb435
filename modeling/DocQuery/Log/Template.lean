/-
**Message templates.**

A template is a text with places for arguments. A place is written `%` and a letter that says how
the argument is written. Between them may stand the name of an argument in parentheses, flags, a
width and a precision. Width and precision may be `*` and are then arguments themselves. `%%` is a
per cent sign.

* `Supply`: the arguments that are left;
* `readPlace`: the place at the beginning of a text, with what it takes of the arguments;
* `Place.write`: an argument as a place asks for it;
* `fillTemplate`: a template with its arguments.
-/

import DocQuery.Number.Rounded
import DocQuery.Text.CharClass
import DocQuery.Text.Quoted

namespace DocQuery

/-- Why a template cannot be filled. -/
inductive TemplateError where
  /-- An argument is missing, left over or of the wrong kind. -/
  | argument
  /-- A place is not well formed, or a number cannot be written in it. -/
  | malformed
  /-- There is no argument with a name. -/
  | unnamed
  /-- A number is too large. -/
  | tooLarge
deriving DecidableEq, Repr

/-- A place for an argument. -/
structure Place where
  flags : List Char
  width : Nat
  precision : Option Nat
  letter : Char

/-- A step of reading or writing that may fail. -/
abbrev Filling (α : Type) := Except TemplateError α

/-! ### Arguments -/

/-- The arguments that are left. -/
structure Supply where
  /-- The arguments with names, if there are such. -/
  fields : Option Fields := none
  /-- The arguments for places without a name. -/
  rest : List Json

namespace Supply

/-- The arguments that values give. A single object that is not empty also gives its fields. -/
def ofValues : List Json → Supply
  | [.object (field :: more)] => ⟨some (field :: more), [.object (field :: more)]⟩
  | values => ⟨none, values⟩

/-- The next argument. -/
def next (supply : Supply) : Filling (Json × Supply) :=
  match supply.rest with
  | value :: rest => .ok (value, { supply with rest })
  | [] => .error .argument

/-- The next argument, which has to be a whole number. -/
def nextInteger (supply : Supply) : Filling (Int × Supply) := do
  match ← supply.next with
  | (.int value, supply) => return (value, supply)
  | (.bool value, supply) => return (value.toNat, supply)
  | _ => .error .argument

/-- Makes the argument with a name the only one for what follows. -/
def choose (supply : Supply) (fields : Fields) (name : String) : Filling Supply :=
  match fields.get? name with
  | some value => .ok { supply with rest := [value] }
  | none => .error .unnamed

/-- Whether no argument is left over. With named arguments none ever is. -/
def isExhausted (supply : Supply) : Bool := supply.fields.isSome || supply.rest.isEmpty

end Supply

/-! ### Reading places -/

/-- The text up to the parenthesis that closes as many as are open, and what is behind it. -/
def splitClosing : Nat → List Char → Option (List Char × List Char)
  | _, [] => none
  | depth, c :: rest =>
    if c = ')' ∧ depth = 0 then some ([], rest)
    else
      let depth := if c = ')' then depth - 1 else if c = '(' then depth + 1 else depth
      (splitClosing depth rest).map fun (inside, rest) => (c :: inside, rest)

/-- The name at the beginning of a text, if one is there: the arguments after it, and what is behind
it. -/
def readName (supply : Supply) (text : List Char) : Filling (Supply × List Char) :=
  match text, supply.fields with
  | '(' :: _, none => .error .argument
  | '(' :: rest, some fields =>
    match splitClosing 0 rest with
    | some (name, rest) => do return (← supply.choose fields (String.ofList name), rest)
    | none => .error .malformed
  | text, _ => .ok (supply, text)

/-- The number that digits at the beginning of a text form, which is zero without any, and what is
behind them. -/
def splitNumber (text : List Char) : Nat × List Char :=
  ((text.takeWhile isAsciiDigit).foldl (fun n c => 10 * n + asciiDigitValue c) 0,
    text.dropWhile isAsciiDigit)

/-- A count at the beginning of a text, which may be an argument and is less than `limit`. -/
def readCount (limit : Nat) (supply : Supply) (text : List Char) :
    Filling (Int × Supply × List Char) :=
  match text with
  | '*' :: rest => do
    let (count, supply) ← supply.nextInteger
    if count.natAbs < limit then return (count, supply, rest) else .error .tooLarge
  | text =>
    let (count, rest) := splitNumber text
    if count < limit then .ok (count, supply, rest) else .error .malformed

/-- A precision at the beginning of a text, if one is there. A negative one counts as zero. -/
def readPrecision (supply : Supply) (text : List Char) :
    Filling (Option Nat × Supply × List Char) :=
  match text with
  | '.' :: rest => do
    let (count, supply, rest) ← readCount (power 2 31) supply rest
    return (some count.toNat, supply, rest)
  | text => .ok (none, supply, text)

/-- A text without the letter for the size of a number at its beginning. -/
def dropSize : List Char → List Char
  | c :: rest => if "hlL".toList.contains c then rest else c :: rest
  | [] => []

/-- The place behind a per cent sign, with the arguments that are left and what is behind it. A
negative width is a width with the flag for the left side. -/
def readPlace (supply : Supply) (text : List Char) : Filling (Place × Supply × List Char) := do
  let (supply, text) ← readName supply text
  let flags := text.takeWhile ("#0- +".toList.contains ·)
  let (width, supply, text) ←
    readCount (power 2 63) supply (text.dropWhile ("#0- +".toList.contains ·))
  let (precision, supply, text) ← readPrecision supply text
  let flags := if width < 0 then '-' :: flags else flags
  match dropSize text with
  | letter :: rest => return (⟨flags, width.natAbs, precision, letter⟩, supply, rest)
  | [] => .error .malformed

/-! ### Writing arguments -/

/-- A value as it is shown, with characters outside ASCII escaped. -/
def asciiShown (value : Json) : String :=
  String.ofList (value.shown.toList.flatMap fun c =>
    if c.toNat < 0x80 then [c]
    else if c.toNat < 0x100 then ['\\', 'x'] ++ hexDigits 2 c.toNat
    else if c.toNat < 0x10000 then ['\\', 'u'] ++ hexDigits 4 c.toNat
    else ['\\', 'U'] ++ hexDigits 8 c.toNat)

/-- The whole number that an argument is. -/
def wholeArgument : Json → Filling Int
  | .int value => .ok value
  | .bool value => .ok value.toNat
  | _ => .error .argument

/-- The whole number that an argument stands for, without the fraction that it may have. -/
def truncatedArgument : Json → Filling Int
  | .float .nan => .error .malformed
  | .float (.infinite _) => .error .tooLarge
  | .float (.finite negative units _) =>
    .ok (if negative then -(units / unitsPerOne : Nat) else (units / unitsPerOne : Nat))
  | value => wholeArgument value

/-- The number that an argument stands for. -/
def numberArgument : Json → Filling Binary64
  | .float value => .ok value
  | value => do
    match Binary64.ofInt (← wholeArgument value) with
    | .infinite _ => .error .tooLarge
    | number => return number

/-- The character that an argument stands for. -/
def characterArgument : Json → Filling String
  | .string text => if text.length = 1 then .ok text else .error .argument
  | value => do
    let code ← wholeArgument value
    if 0 ≤ code ∧ code < 0x110000 then return (Char.ofNat code.toNat).toString
    else .error .tooLarge

namespace Place

/-- Whether a flag is set. -/
def has (place : Place) (flag : Char) : Bool := place.flags.contains flag

/-- The spaces or zeros that are missing in a text of a given length. -/
def filler (place : Place) (c : Char) (length : Nat) : String :=
  String.ofList (List.replicate (place.width - length) c)

/-- A text filled up to the width of a place, after it has been cut to the precision. -/
def text (place : Place) (text : String) : String :=
  let cut := match place.precision with
    | some count => String.ofList (text.toList.take count)
    | none => text
  if place.has '-' then cut ++ place.filler ' ' cut.length
  else place.filler ' ' cut.length ++ cut

/-- A number filled up to the width of a place. Zeros stand between what is in front of the digits
and the digits. -/
def number (place : Place) (front digits : String) : String :=
  let length := front.length + digits.length
  if place.has '-' then front ++ digits ++ place.filler ' ' length
  else if place.has '0' then front ++ place.filler '0' length ++ digits
  else place.filler ' ' length ++ front ++ digits

/-- The sign of a number. -/
def sign (place : Place) (negative : Bool) : String :=
  if negative then "-" else if place.has '+' then "+" else if place.has ' ' then " " else ""

/-- A whole number written to a base, behind a mark for the base if it is asked for. -/
def integer (place : Place) (base : Nat) (mark : String) (value : Int) : String :=
  let digits := Nat.toDigits base value.natAbs
  let zeros := List.replicate (place.precision.getD 0 - digits.length) '0'
  place.number (place.sign (value < 0) ++ if place.has '#' then mark else "")
    (String.ofList (zeros ++ digits))

/-- A number with a fraction, written in a given way with six digits or as many as are asked for. -/
def fraction (place : Place) (write : Bool → Nat → Binary64 → String) (value : Binary64) : String :=
  let written := write (place.has '#') (place.precision.getD 6) value
  let negative := written.startsWith "-"
  place.number (place.sign negative) (if negative then (written.drop 1).toString else written)

/-- A text with capital letters of the Latin alphabet. -/
def capital (text : String) : String := text.map Char.toUpper

/-- An argument as a place asks for it. -/
def write (place : Place) (argument : Json) : Filling String :=
  match place.letter with
  | 's' => .ok (place.text argument.plain)
  | 'r' => .ok (place.text argument.shown)
  | 'a' => .ok (place.text (asciiShown argument))
  | 'd' | 'i' | 'u' => (truncatedArgument argument).map (place.integer 10 "")
  | 'x' => (wholeArgument argument).map (place.integer 16 "0x")
  | 'X' => (wholeArgument argument).map (capital ∘ place.integer 16 "0x")
  | 'o' => (wholeArgument argument).map (place.integer 8 "0o")
  | 'c' => (characterArgument argument).map ({ place with precision := none }).text
  | 'e' => (numberArgument argument).map (place.fraction Binary64.scientificText)
  | 'E' => (numberArgument argument).map (capital ∘ place.fraction Binary64.scientificText)
  | 'f' => (numberArgument argument).map (place.fraction Binary64.fixedText)
  | 'F' => (numberArgument argument).map (capital ∘ place.fraction Binary64.fixedText)
  | 'g' => (numberArgument argument).map (place.fraction Binary64.generalText)
  | 'G' => (numberArgument argument).map (capital ∘ place.fraction Binary64.generalText)
  | _ => .error .malformed

end Place

/-! ### Filling templates -/

/-- Fills the places of a template, of which fewer than `fuel` characters are left. -/
def fillFrom : Nat → List Char → Supply → Filling (List Char)
  | 0, _, _ => .ok []
  | _, [], supply => if supply.isExhausted then .ok [] else .error .argument
  | fuel + 1, '%' :: '%' :: text, supply => do return '%' :: (← fillFrom fuel text supply)
  | fuel + 1, '%' :: text, supply => do
    let (place, supply, rest) ← readPlace supply text
    let (argument, supply) ← supply.next
    let written ← place.write argument
    return written.toList ++ (← fillFrom fuel rest supply)
  | fuel + 1, c :: text, supply => do return c :: (← fillFrom fuel text supply)

/-- A template with its arguments. Without any arguments it stays as it is. -/
def fillTemplate (template : String) (values : List Json) : Filling String :=
  if values.isEmpty then .ok template
  else String.ofList <$> fillFrom (template.length + 1) template.toList (.ofValues values)

end DocQuery
