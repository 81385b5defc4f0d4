/-
Module: Parley.Json.Token
Layer: Json
Purpose: The words of JSON text.  Some words are well formed without having a value: a number too
  large to be finite, and text with half of a surrogate pair.  They are kept as words without a
  value, since text that is passed over may hold them.
Main exports: Json.Token, Json.Token.ofChars?, Json.Literal, Json.Literal.value?, Json.Numeral
-/
import Parley.Json.Value

namespace Parley.Json

/-- The value of a number: integers that fit 64 bits are exact, all others are floats. -/
inductive Numeral where
  | int (value : Int)
  | float (value : Binary64)
deriving DecidableEq, Inhabited

/-- The value of a numeral. -/
def Numeral.toJson : Numeral → Json
  | .int value => .int value
  | .float value => .float value

/-- The parts of a number as written, each digit as its value. -/
structure Literal where
  negative : Bool
  whole : List Nat
  /-- The digits after the point, if there is a point. -/
  fraction : Option (List Nat)
  /-- The sign (`true` for minus) and the digits of the exponent, if there is one. -/
  exponent : Option (Bool × List Nat)
deriving DecidableEq, Inhabited

/-! ### The value of a number

The digits before and after the point are read into one 64-bit significand for as long as they fit.
Once a digit does not fit, no later digit of its group is read.  The significand is rounded to a
float and then scaled by powers of ten that are floats themselves, each step rounded. -/

/-- The greatest significand. -/
def greatestSignificand : Nat := Nat.pow 2 64 - 1

/-- The greatest exponent that is read digit by digit. -/
def greatestExponent : Nat := Nat.pow 2 31 - 1

/-- Append digits to a significand for as long as the result fits; the digits left over come back.
-/
def appendDigits (significand : Nat) : List Nat → Nat × List Nat
  | [] => (significand, [])
  | digit :: digits =>
      if significand * 10 + digit ≤ greatestSignificand then
        appendDigits (significand * 10 + digit) digits
      else (significand, digit :: digits)

/-- The value of an exponent, `none` when it is too large to be read. -/
def exponentValue? (digits : List Nat) : Option Nat :=
  digits.foldl (fun sum? digit =>
    sum?.bind fun sum =>
      if sum * 10 + digit ≤ greatestExponent then some (sum * 10 + digit) else none)
    (some 0)

/-- The float nearest to a power of ten from `10 ^ 0` to `10 ^ 308`. -/
def powerOfTen? (exponent : Nat) : Option Binary64 :=
  if exponent ≤ 308 then Binary64.ofNat? (Nat.pow 10 exponent) else none

/-- Divide by `10 ^ places`, in steps of `10 ^ 308` while more places than that are left. -/
def shrink (value : Binary64) (places : Nat) : Option Binary64 :=
  if places ≤ 308 then
    (powerOfTen? places).bind value.over?
  else if value.isZero then some value
  else
    ((powerOfTen? 308).bind value.over?).bind fun less => shrink less (places - 308)
termination_by places

/-- Scale a significand by a power of ten; `none` when the result is not finite. -/
def scaled? (significand : Nat) (exponent : Int) : Option Binary64 :=
  (Binary64.ofNat? significand).bind fun value =>
    if exponent < 0 then shrink value exponent.natAbs
    else if exponent ≤ 308 then (powerOfTen? exponent.toNat).bind value.times?
    else if value.isZero then some value
    else none

/-- A float with the sign of a literal. -/
def signed (negative : Bool) (value : Binary64) : Binary64 :=
  if negative then value.neg else value

namespace Literal

/-- The significand of a literal and its power of ten, exponent part aside. -/
def significand (l : Literal) : Nat × Int :=
  let (start, left) := appendDigits 0 l.whole
  match l.fraction with
  | none => (start, left.length)
  | some digits =>
      let (full, unread) := appendDigits start digits
      (full, (left.length : Int) - ((digits.length : Int) - unread.length))

/-- Whether the literal is written as an integer and its digits fit. -/
def isInteger (l : Literal) : Bool :=
  l.fraction.isNone && l.exponent.isNone && (appendDigits 0 l.whole).2.isEmpty

/-- The value of a literal, `none` when it is too large.  Minus zero is a float. -/
def value? (l : Literal) : Option Numeral :=
  let (digits, places) := l.significand
  if l.isInteger then
    if !l.negative then some (.int digits)
    else if 1 ≤ digits ∧ digits ≤ Nat.pow 2 63 then some (.int (-digits))
    else (Binary64.ofNat? digits).map fun value => .float value.neg
  else
    match l.exponent with
    | none => (scaled? digits places).map fun value => .float (signed l.negative value)
    | some (down, exponent) =>
        match exponentValue? exponent with
        | some shift =>
            (scaled? digits (if down then places - shift else places + shift)).map fun value =>
              .float (signed l.negative value)
        | none =>
            if digits = 0 ∨ down then some (.float (Binary64.zero l.negative)) else none

end Literal

/-! ### Words -/

/-- One word of JSON text. -/
inductive Token where
  | braceOpen
  | braceClose
  | bracketOpen
  | bracketClose
  | colon
  | comma
  | null
  | bool (value : Bool)
  /-- A number; `none` when it is too large to have a value. -/
  | number (value? : Option Numeral)
  /-- Quoted text; `none` when it holds half of a surrogate pair. -/
  | text (value? : Option String)
deriving DecidableEq, Inhabited

/-- What stands for one piece of quoted text: a character, or a 16-bit unit written by number. -/
inductive Piece where
  | char (c : Char)
  | unit (code : Nat)
deriving DecidableEq, Inhabited

/-- The value of a hexadecimal digit. -/
def hexValue? (c : Char) : Option Nat :=
  if '0' ≤ c ∧ c ≤ '9' then some (c.toNat - 48)
  else if 'a' ≤ c ∧ c ≤ 'f' then some (c.toNat - 87)
  else if 'A' ≤ c ∧ c ≤ 'F' then some (c.toNat - 55)
  else none

/-- The value of a decimal digit. -/
def digitValue? (c : Char) : Option Nat :=
  if '0' ≤ c ∧ c ≤ '9' then some (c.toNat - 48) else none

/-- The character of a one-letter escape. -/
def escapeValue? (c : Char) : Option Char :=
  if c = '"' then some '"'
  else if c = '\\' then some '\\'
  else if c = '/' then some '/'
  else if c = 'b' then some '\x08'
  else if c = 'f' then some '\x0c'
  else if c = 'n' then some '\n'
  else if c = 'r' then some '\r'
  else if c = 't' then some '\t'
  else none

/-- The unit of four hexadecimal digits. -/
def unitValue? (a b c d : Char) : Option Nat := do
  let a ← hexValue? a
  let b ← hexValue? b
  let c ← hexValue? c
  let d ← hexValue? d
  pure (((a * 16 + b) * 16 + c) * 16 + d)

/-- The first half of a surrogate pair. -/
def isHighHalf (code : Nat) : Bool := 0xD800 ≤ code && code ≤ 0xDBFF

/-- The second half of a surrogate pair. -/
def isLowHalf (code : Nat) : Bool := 0xDC00 ≤ code && code ≤ 0xDFFF

/-- The text of a list of pieces, given last piece first: two halves in a row are one character, and
a half alone has no text. -/
def joinPieces? (done : List Char) : List Piece → Option (List Char)
  | [] => some done
  | .char c :: rest => joinPieces? (c :: done) rest
  | .unit low :: .unit high :: rest =>
      if isLowHalf low then
        if isHighHalf high then
          joinPieces? (Char.ofNat (0x10000 + (high - 0xD800) * 0x400 + (low - 0xDC00)) :: done) rest
        else none
      else if isHighHalf low then none
      else joinPieces? (Char.ofNat low :: done) (.unit high :: rest)
  | .unit code :: rest =>
      if isHighHalf code || isLowHalf code then none
      else joinPieces? (Char.ofNat code :: done) rest

/-- The pieces of quoted text up to its closing quote, in reverse, and what follows the quote. -/
def scanPieces (done : List Piece) : List Char → Option (List Piece × List Char)
  | [] => none
  | '"' :: rest => some (done, rest)
  | '\\' :: 'u' :: a :: b :: c :: d :: rest =>
      match unitValue? a b c d with
      | some code => scanPieces (.unit code :: done) rest
      | none => none
  | '\\' :: c :: rest =>
      match escapeValue? c with
      | some meant => scanPieces (.char meant :: done) rest
      | none => none
  | c :: rest =>
      if c.toNat < 32 ∨ c = '\\' then none else scanPieces (.char c :: done) rest

/-- The digits at the start of a text, as values, and what follows them. -/
def scanDigits : List Char → List Nat × List Char
  | [] => ([], [])
  | c :: rest =>
      match digitValue? c with
      | some digit =>
          let (digits, after) := scanDigits rest
          (digit :: digits, after)
      | none => ([], c :: rest)

/-- One or more digits. -/
def scanSomeDigits? (text : List Char) : Option (List Nat × List Char) :=
  match scanDigits text with
  | ([], _) => none
  | found => some found

/-- The digits before the point: a single zero, or digits that do not start with one. -/
def scanWhole? (text : List Char) : Option (List Nat × List Char) :=
  match scanDigits text with
  | ([], _) => none
  | (0 :: _ :: _, _) => none
  | found => some found

/-- An exponent part, if there is one: `e` or `E`, a sign or none, digits. -/
def scanExponent? : List Char → Option (Option (Bool × List Nat) × List Char)
  | [] => some (none, [])
  | c :: rest =>
      if c = 'e' ∨ c = 'E' then
        let (down, digits) := match rest with
          | '-' :: after => (true, after)
          | '+' :: after => (false, after)
          | after => (false, after)
        (scanSomeDigits? digits).map fun found => (some (down, found.1), found.2)
      else some (none, c :: rest)

/-- A number after its sign. -/
def scanNumber? (negative : Bool) (text : List Char) : Option (Literal × List Char) := do
  let (whole, rest) ← scanWhole? text
  let (fraction, rest) ← match rest with
    | '.' :: after => (scanSomeDigits? after).map fun found => (some found.1, found.2)
    | _ => some (none, rest)
  let (exponent, rest) ← scanExponent? rest
  pure (⟨negative, whole, fraction, exponent⟩, rest)

/-- Blank characters between words. -/
def isBlank (c : Char) : Bool :=
  c = ' ' || c = '\t' || c = '\n' || c = '\r'

/-- The word at the start of a text that is not blank there, and what follows it. -/
def nextToken? : List Char → Option (Token × List Char)
  | '{' :: rest => some (.braceOpen, rest)
  | '}' :: rest => some (.braceClose, rest)
  | '[' :: rest => some (.bracketOpen, rest)
  | ']' :: rest => some (.bracketClose, rest)
  | ':' :: rest => some (.colon, rest)
  | ',' :: rest => some (.comma, rest)
  | 'n' :: 'u' :: 'l' :: 'l' :: rest => some (.null, rest)
  | 't' :: 'r' :: 'u' :: 'e' :: rest => some (.bool true, rest)
  | 'f' :: 'a' :: 'l' :: 's' :: 'e' :: rest => some (.bool false, rest)
  | '"' :: rest =>
      (scanPieces [] rest).map fun found =>
        (.text ((joinPieces? [] found.1).map String.ofList), found.2)
  | '-' :: rest => (scanNumber? true rest).map fun found => (.number found.1.value?, found.2)
  | text => (scanNumber? false text).map fun found => (.number found.1.value?, found.2)

/-- The words of a text, in reverse.  The fuel bounds the number of words and blanks; the length of
the text is enough, since each of them takes a character. -/
def scanTokens (done : List Token) : Nat → List Char → Option (List Token)
  | _, [] => some done
  | 0, _ :: _ => none
  | fuel + 1, c :: rest =>
      if isBlank c then scanTokens done fuel rest
      else
        match nextToken? (c :: rest) with
        | some (token, after) => scanTokens (token :: done) fuel after
        | none => none

/-- The words of a text, if it consists of words and blanks. -/
def Token.ofChars? (text : List Char) : Option (List Token) :=
  (scanTokens [] text.length text).map List.reverse

end Parley.Json
