import SchemaBridge.Json.Basic
import SchemaBridge.Text.Digits

/-!
# Reading JSON

`Json.read?` reads a text in two passes, each from left to right and without looking back: `Scan` cuts
the text into tokens, `Place` puts tokens together. The containers that are open at a token form
a stack of `Frame`s.
-/

namespace SchemaBridge.Json

/-- A token; scalars are read whole. -/
inductive Token where
  | openArray
  | closeArray
  | openObject
  | closeObject
  | comma
  | colon
  | scalar (value : Json)
deriving Repr

/-! ## Tokens -/

/-- Whether characters are digits, with nothing in front that starts with a needless zero. -/
def isWhole : List Char → Bool
  | [] => false
  | ['0'] => true
  | '0' :: _ => false
  | cs => cs.all Char.isDigit

def isDigits (cs : List Char) : Bool := !cs.isEmpty && cs.all Char.isDigit

/-- The exponent of a number, its letter taken off. -/
def isExponent : List Char → Bool
  | '+' :: cs => isDigits cs
  | '-' :: cs => isDigits cs
  | cs => isDigits cs

/-- What follows the whole part of a number. -/
def isNumberTail : List Char → Bool
  | [] => true
  | '.' :: cs =>
    isDigits (cs.takeWhile (!Text.isExponentMark ·)) &&
      match cs.dropWhile (!Text.isExponentMark ·) with
      | [] => true
      | _ :: exponent => isExponent exponent
  | c :: cs => Text.isExponentMark c && isExponent cs

/-- A number, its sign taken off. -/
def isMagnitude (cs : List Char) : Bool :=
  isWhole (cs.takeWhile Char.isDigit) && isNumberTail (cs.dropWhile Char.isDigit)

/-- The number that characters spell. A negative zero is no integer. -/
def number? (cs : List Char) : Option Number :=
  match cs with
  | '-' :: magnitude =>
    if magnitude == ['0'] then some (.real (String.ofList cs))
    else if isWhole magnitude then
      (Text.digitsValue? 0 magnitude).map fun n => .integer (-(n : Int))
    else if isMagnitude magnitude then some (.real (String.ofList cs))
    else none
  | _ =>
    if isWhole cs then (Text.digitsValue? 0 cs).map fun n => .integer (n : Int)
    else if isMagnitude cs then some (.real (String.ofList cs))
    else none

/-- The value that an unquoted word spells. -/
def bareValue? (cs : List Char) : Option Json :=
  if cs == "null".toList then some .null
  else if cs == "true".toList then some (.bool true)
  else if cs == "false".toList then some (.bool false)
  else (number? cs).map .number

/-- What is open between two characters. Characters read so far are held last first. -/
inductive Scan where
  | gap
  | bare (read : List Char)
  | text (read : List Char)
  /-- After a backslash. -/
  | escape (read : List Char)
  /-- Inside a four-digit escape, `left` digits from its end; `high` is the first half of a pair. -/
  | unicode (read : List Char) (high : Option Nat) (left value : Nat)
  /-- The second half of a pair must start. -/
  | pair (read : List Char) (high : Nat)
  | pairEscape (read : List Char) (high : Nat)
deriving Repr

namespace Scan

def isGap (c : Char) : Bool := c == ' ' || c == '\n' || c == '\r' || c == '\t'

/-- The tokens of one character. -/
def mark? : Char → Option Token
  | '[' => some .openArray
  | ']' => some .closeArray
  | '\x7b' => some .openObject
  | '\x7d' => some .closeObject
  | ',' => some .comma
  | ':' => some .colon
  | _ => none

/-- The character that a one-letter escape stands for. -/
def escaped? : Char → Option Char
  | '"' => some '"'
  | '\\' => some '\\'
  | '/' => some '/'
  | 'b' => some '\x08'
  | 'f' => some '\x0c'
  | 'n' => some '\n'
  | 'r' => some '\r'
  | 't' => some '\t'
  | _ => none

/-- What is open after the last digit of an escape. -/
def unicodeEnd (read : List Char) (high : Option Nat) (value : Nat) : Option Scan :=
  match high with
  | some h =>
    if 0xDC00 ≤ value ∧ value ≤ 0xDFFF then
      some (.text (Char.ofNat (0x10000 + (h - 0xD800) * 0x400 + (value - 0xDC00)) :: read))
    else none
  | none =>
    if 0xD800 ≤ value ∧ value ≤ 0xDBFF then some (.pair read value)
    else if 0xDC00 ≤ value ∧ value ≤ 0xDFFF then none
    else some (.text (Char.ofNat value :: read))

/-- Reads a character between tokens. -/
def start (c : Char) : Option (List Token × Scan) :=
  if isGap c then some ([], .gap)
  else if c = '"' then some ([], .text [])
  else match mark? c with
    | some mark => some ([mark], .gap)
    | none => some ([], .bare [c])

/-- Reads a character that may end a bare word. -/
def bareStep (read : List Char) (c : Char) : Option (List Token × Scan) :=
  if isGap c || c == '"' || (mark? c).isSome then do
    let value ← bareValue? read.reverse
    let (tokens, next) ← start c
    return (.scalar value :: tokens, next)
  else some ([], .bare (c :: read))

/-- Reads a character of a string. -/
def textStep (read : List Char) (c : Char) : Option (List Token × Scan) :=
  if c = '"' then some ([.scalar (.string (String.ofList read.reverse))], .gap)
  else if c = '\\' then some ([], .escape read)
  else if c.toNat < 0x20 then none
  else some ([], .text (c :: read))

/-- Reads one character: the tokens that it ends, and what is open after it. -/
def step (c : Char) : Scan → Option (List Token × Scan)
  | .gap => start c
  | .bare read => bareStep read c
  | .text read => textStep read c
  | .escape read =>
    if c = 'u' then some ([], .unicode read none 3 0)
    else (escaped? c).map fun e => ([], .text (e :: read))
  | .unicode read high left value => do
    let digit ← Text.hexValue? c
    match left with
    | 0 => (unicodeEnd read high (16 * value + digit)).map (([], ·))
    | left + 1 => return ([], .unicode read high left (16 * value + digit))
  | .pair read high => if c = '\\' then some ([], .pairEscape read high) else none
  | .pairEscape read high => if c = 'u' then some ([], .unicode read (some high) 3 0) else none

/-- The token that the end of the text ends. -/
def finish : Scan → Option (List Token)
  | .gap => some []
  | .bare read => (bareValue? read.reverse).map fun value => [.scalar value]
  | _ => none

/-- Reads characters to the end. -/
def run (s : Scan) : List Char → Option (List Token)
  | [] => s.finish
  | c :: cs =>
    match s.step c with
    | none => none
    | some (tokens, next) => (next.run cs).map (tokens ++ ·)

end Scan

/-! ## Values -/

/-- An open container: what it holds so far, last first. -/
inductive Frame where
  | items (done : List Json)
  | member (done : List (String × Json)) (key : String)
deriving Repr

/-- What may come next; `stack` holds the open containers, innermost first. -/
inductive Place where
  | value (stack : List Frame)
  /-- An array has just been opened. -/
  | firstItem (stack : List Frame)
  /-- An object has just been opened. -/
  | firstKey (stack : List Frame)
  | key (done : List (String × Json)) (stack : List Frame)
  | colon (done : List (String × Json)) (key : String) (stack : List Frame)
  /-- A value is complete. -/
  | after (value : Json) (stack : List Frame)
deriving Repr

namespace Place

/-- Reads the first token of a value. -/
def valueStep (stack : List Frame) : Token → Option Place
  | .scalar v => some (.after v stack)
  | .openArray => some (.firstItem stack)
  | .openObject => some (.firstKey stack)
  | _ => none

/-- Reads the name of a member. -/
def keyStep (done : List (String × Json)) (stack : List Frame) : Token → Option Place
  | .scalar (.string k) => some (.colon done k stack)
  | _ => none

/-- Reads one token. -/
def step (t : Token) : Place → Option Place
  | .value stack => valueStep stack t
  | .firstItem stack =>
    match t with
    | .closeArray => some (.after (.array []) stack)
    | t => valueStep (.items [] :: stack) t
  | .firstKey stack =>
    match t with
    | .closeObject => some (.after (.object []) stack)
    | t => keyStep [] stack t
  | .key done stack => keyStep done stack t
  | .colon done k stack =>
    match t with
    | .colon => some (.value (.member done k :: stack))
    | _ => none
  | .after v (.items done :: stack) =>
    match t with
    | .comma => some (.value (.items (v :: done) :: stack))
    | .closeArray => some (.after (.array (v :: done).reverse) stack)
    | _ => none
  | .after v (.member done k :: stack) =>
    match t with
    | .comma => some (.key ((k, v) :: done) stack)
    | .closeObject => some (.after (.object ((k, v) :: done).reverse) stack)
    | _ => none
  | .after _ [] => none

/-- Reads tokens to the end. -/
def run (p : Place) : List Token → Option Json
  | [] =>
    match p with
    | .after v [] => some v
    | _ => none
  | t :: ts =>
    match p.step t with
    | none => none
    | some next => next.run ts

end Place

/-- The value that a text spells. -/
def read? (text : String) : Option Json :=
  (Scan.gap.run text.toList).bind (Place.value []).run

end SchemaBridge.Json
