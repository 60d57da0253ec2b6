import SchemaBridge.Text.Digits
import SchemaBridge.Toml.Basic

/-!
# TOML scalars

Strings in their four notations, numbers, dates and times. String readers take the characters after the
opening quote and return what follows the closing one; number readers take a word that has been cut out
already.
-/

namespace SchemaBridge.Toml

/-! ## Strings -/

/-- What a backslash at the end of a line does to the blanks after it. -/
inductive Trim where
  | off
  /-- Up to the end of the line. -/
  | line
  /-- Up to the next character that is not blank. -/
  | on
deriving DecidableEq, Repr

/-- The character of a code point that is written in hexadecimal digits. -/
def codePoint? (digits : List Char) : Option Char := do
  let value ← digits.foldlM (fun n c => (Text.hexValue? c).map (16 * n + ·)) 0
  if h : value.isValidChar then some (Char.ofNatAux value h) else none

/-- Whether a character may stand for itself in a string. -/
def isTextChar (c : Char) : Bool := c == '\t' || (0x20 ≤ c.toNat && c.toNat != 0x7F)

/-- The character that a one-letter escape stands for. -/
def escaped? : Char → Option Char
  | '"' => some '"'
  | '\\' => some '\\'
  | 'b' => some '\x08'
  | 'f' => some '\x0c'
  | 'n' => some '\n'
  | 'r' => some '\r'
  | 't' => some '\t'
  | _ => none

/-- The rest of a string between quotes `delim`; `read` holds what has been read, last first. Escapes
have a meaning between double quotes only. -/
def textRest (delim : Char) (multi : Bool) :
    Trim → List Char → List Char → Option (String × List Char)
  | .line, read, c :: cs =>
    if c = ' ' ∨ c = '\t' then textRest delim multi .line read cs
    else if c = '\n' then textRest delim multi .on read cs
    else none
  | trim, read, c :: cs =>
    if trim = .on ∧ (c = ' ' ∨ c = '\t' ∨ c = '\n') then textRest delim multi .on read cs
    else if c = delim then
      if multi then
        match cs with
        | d :: e :: rest =>
          if d = delim ∧ e = delim then
            let extra := (rest.take 2).takeWhile (· = delim)
            some (String.ofList (extra ++ read).reverse, rest.drop extra.length)
          else textRest delim multi .off (c :: read) (d :: e :: rest)
        | cs => textRest delim multi .off (c :: read) cs
      else some (String.ofList read.reverse, cs)
    else if c = '\n' then
      if multi then textRest delim multi .off (c :: read) cs else none
    else if c = '\\' ∧ delim = '"' then
      match cs with
      | 'u' :: a :: b :: c :: d :: cs => do
        textRest delim multi .off ((← codePoint? [a, b, c, d]) :: read) cs
      | 'U' :: a :: b :: c :: d :: e :: f :: g :: h :: cs => do
        textRest delim multi .off ((← codePoint? [a, b, c, d, e, f, g, h]) :: read) cs
      | e :: cs =>
        if multi ∧ e = '\n' then textRest delim multi .on read cs
        else if multi ∧ (e = ' ' ∨ e = '\t') then textRest delim multi .line read cs
        else do textRest delim multi .off ((← escaped? e) :: read) cs
      | [] => none
    else if isTextChar c then textRest delim multi .off (c :: read) cs
    else none
  | _, _, [] => none

/-- A string, and whether it has several lines, after its first quote. A line break after three
quotes is not part of the string. -/
def text? (delim : Char) (cs : List Char) : Option ((String × Bool) × List Char) :=
  match cs with
  | d :: e :: rest =>
    if d = delim ∧ e = delim then
      let rest := match rest with
        | '\n' :: rest => rest
        | rest => rest
      (textRest delim true .off [] rest).map fun (text, rest) => ((text, true), rest)
    else (textRest delim false .off [] cs).map fun (text, rest) => ((text, false), rest)
  | cs => (textRest delim false .off [] cs).map fun (text, rest) => ((text, false), rest)

/-! ## Numbers -/

/-- The pairs of characters that stand side by side. -/
def neighbours (cs : List Char) : List (Char × Char) := cs.zip cs.tail

/-- The digits at the front of a word, without underscores, and what follows them. An underscore
stands between two digits; `zeros` allows needless zeros in front. -/
def digitRun? (isDigit : Char → Bool) (zeros : Bool) (cs : List Char) :
    Option (List Char × List Char) :=
  let run := cs.takeWhile fun c => isDigit c || c == '_'
  let digits := run.filter (· != '_')
  if run.head? = some '_' ∨ run.getLast? = some '_' ∨ ('_', '_') ∈ neighbours run ∨ digits = [] then
    none
  else if !zeros && digits.head? = some '0' && 1 < digits.length then none
  else some (digits, cs.drop run.length)

/-- A word without its sign, and whether the sign is a minus. -/
def unsigned (cs : List Char) : Bool × List Char :=
  match cs with
  | '-' :: cs => (true, cs)
  | '+' :: cs => (false, cs)
  | cs => (false, cs)

/-- An integer of 64 bits from its sign and its magnitude. -/
def int64? (negative : Bool) (n : Nat) : Option Int :=
  let value : Int := if negative then -(n : Int) else n
  if -9223372036854775808 ≤ value ∧ value ≤ 9223372036854775807 then some value else none

/-- A whole number in base ten. -/
def decimalInteger? (cs : List Char) : Option Int := do
  let (negative, cs) := unsigned cs
  let (digits, rest) ← digitRun? Char.isDigit false cs
  if rest.isEmpty then int64? negative (← Text.natOfDigits? digits) else none

/-- A whole number in another base, after its mark. Zeros may stand in front. -/
def basedInteger? (base : Nat) (cs : List Char) : Option Int := do
  let isDigit := fun c => (Text.hexValue? c).any (· < base)
  let (digits, rest) ← digitRun? isDigit true cs
  if rest.isEmpty then
    int64? false (digits.foldl (fun n c => base * n + (Text.hexValue? c).getD 0) 0)
  else none

/-- Whether a decimal number, given by its digits and the power of ten of the last one, lies in
the range of double precision. -/
def isFinite (digits : List Char) (exponent : Int) : Bool :=
  let n := (Text.natOfDigits? digits).getD 0
  let places := exponent + (digits.dropWhile (· == '0')).length
  if n = 0 ∨ places < 0 then true
  else if 400 < places then false
  else
    let bound := Nat.pow 2 1024 - Nat.pow 2 970
    if 0 ≤ exponent then n * Nat.pow 10 exponent.toNat < bound
    else n < bound * Nat.pow 10 (-exponent).toNat

/-- The exponent of a number after its letter. -/
def exponent? (cs : List Char) : Option Int := do
  let (negative, cs) := unsigned cs
  let (digits, rest) ← digitRun? Char.isDigit true cs
  let n ← Text.natOfDigits? digits
  if rest.isEmpty then some (if negative then -(n : Int) else n) else none

/-- A number with a fraction or an exponent. -/
def float? (cs : List Char) : Option Toml := do
  let (_, magnitude) := unsigned cs
  let (whole, rest) ← digitRun? Char.isDigit false magnitude
  let (fraction, rest) ← match rest with
    | '.' :: rest => digitRun? Char.isDigit true rest
    | rest => some ([], rest)
  let exponent ← match rest with
    | [] => some 0
    | c :: rest => if Text.isExponentMark c then exponent? rest else none
  if isFinite (whole ++ fraction) (exponent - fraction.length) then
    some (.float (String.ofList cs))
  else none

/-- A number. -/
def number? (cs : List Char) : Option Toml :=
  match cs with
  | '0' :: 'x' :: cs => (basedInteger? 16 cs).map .integer
  | '0' :: 'o' :: cs => (basedInteger? 8 cs).map .integer
  | '0' :: 'b' :: cs => (basedInteger? 2 cs).map .integer
  | cs =>
    if (unsigned cs).2 ∈ ["inf".toList, "nan".toList] then some (.float (String.ofList cs))
    else if cs.any fun c => Text.isExponentMark c || c == '.' then float? cs
    else (decimalInteger? cs).map .integer

/-! ## Dates and times -/

/-- A two-digit number within bounds at the front of a text. -/
def twoDigits? (low high : Nat) : List Char → Option (List Char)
  | a :: b :: rest => do
    let n ← Text.natOfDigits? [a, b]
    if low ≤ n ∧ n ≤ high then some rest else none
  | _ => none

/-- A character that must come next. -/
def after? (c : Char) : List Char → Option (List Char)
  | d :: rest => if d = c then some rest else none
  | [] => none

/-- A date at the front of a text. -/
def date? : List Char → Option (List Char)
  | a :: b :: c :: d :: rest => do
    let _ ← Text.natOfDigits? [a, b, c, d]
    let rest ← twoDigits? 1 12 (← after? '-' rest)
    twoDigits? 1 31 (← after? '-' rest)
  | _ => none

/-- A time of day at the front of a text. -/
def time? (cs : List Char) : Option (List Char) := do
  let rest ← twoDigits? 0 24 cs
  let rest ← twoDigits? 0 59 (← after? ':' rest)
  let rest ← twoDigits? 0 59 (← after? ':' rest)
  match rest with
  | '.' :: fraction =>
    if (fraction.takeWhile Char.isDigit).isEmpty then none
    else some (fraction.dropWhile Char.isDigit)
  | rest => some rest

/-- Whether characters are the distance of a local time from universal time. -/
def isOffset : List Char → Bool
  | [] => true
  | ['Z'] => true
  | ['z'] => true
  | sign :: rest =>
    (sign == '+' || sign == '-') &&
      ((do twoDigits? 0 99 (← after? ':' (← twoDigits? 0 99 rest)) : Option (List Char)) == some [])

/-- Whether characters are a date, a time of day, or both. The distance from universal time needs
both. -/
def isDatetime (cs : List Char) : Bool :=
  if cs[2]? = some ':' then time? cs == some []
  else match date? cs with
    | none => false
    | some [] => true
    | some (c :: rest) => (c == 'T' || c == 't' || c == ' ') && (time? rest).any isOffset

end SchemaBridge.Toml
