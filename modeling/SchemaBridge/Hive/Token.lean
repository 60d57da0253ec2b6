import SchemaBridge.Error
import SchemaBridge.Text.Blank

/-!
# Tokens of Hive type texts

A type text is a sequence of words, quoted names and marks, separated by white space where needed.
`Hive.scan` cuts a text into tokens and keeps the byte offset of each one. It reads the text once,
from left to right: `Scan` is what it remembers between two characters, and `Scan.step` reads one.
-/

namespace SchemaBridge.Hive

/-- What a token says. -/
inductive Lexeme where
  /-- A keyword, a plain name or a numeral. -/
  | word (text : String)
  /-- A name in back-quotes, with doubled back-quotes undone. -/
  | quoted (name : String)
  | langle
  | rangle
  | lparen
  | rparen
  | comma
  | colon
deriving DecidableEq, Repr

/-- A lexeme and the byte offset at which it starts. -/
structure Token where
  lexeme : Lexeme
  position : Nat
deriving DecidableEq, Repr

/-- A character that no token starts with, or a quoted name without an end. -/
inductive ScanReason where
  | strayCharacter (c : Char)
  | openQuote
deriving DecidableEq, Repr

def ScanReason.message : ScanReason → String
  | .strayCharacter c => "unexpected character '" ++ c.toString ++ "'"
  | .openQuote => "unterminated quoted identifier"

/-- The first place at which a text is not a sequence of tokens. -/
structure ScanFault where
  position : Nat
  reason : ScanReason
deriving DecidableEq, Repr

/-- The back-quote that encloses a quoted name. -/
def quote : Char := '\x60'

/-- Words consist of ASCII letters, ASCII digits and underscores. -/
def isWordChar (c : Char) : Bool := c.isAlphanum || c == '_'

/-- The one-character tokens. -/
def mark? : Char → Option Lexeme
  | '<' => some .langle
  | '>' => some .rangle
  | '(' => some .lparen
  | ')' => some .rparen
  | ',' => some .comma
  | ':' => some .colon
  | _ => none

/-- What is open between two characters. Characters read so far are held last first. -/
inductive Scan where
  | blank
  /-- Inside a word. -/
  | word (start : Nat) (read : List Char)
  /-- Inside a quoted name. -/
  | quoted (start : Nat) (read : List Char)
  /-- After a back-quote inside a quoted name: it ends the name unless another one follows. -/
  | quotedEnd (start : Nat) (read : List Char)
deriving DecidableEq, Repr

namespace Scan

def wordToken (start : Nat) (read : List Char) : Token :=
  ⟨.word (String.ofList read.reverse), start⟩

def quotedToken (start : Nat) (read : List Char) : Token :=
  ⟨.quoted (String.ofList read.reverse), start⟩

/-- Reads a character outside words and quoted names. -/
def start (position : Nat) (c : Char) : Except ScanFault (List Token × Scan) :=
  if Text.isBlank c then .ok ([], .blank)
  else if isWordChar c then .ok ([], .word position [c])
  else if c = quote then .ok ([], .quoted position [])
  else match mark? c with
    | some mark => .ok ([⟨mark, position⟩], .blank)
    | none => .error ⟨position, .strayCharacter c⟩

/-- Reads one character: the tokens that it ends, and what is open after it. -/
def step (position : Nat) (c : Char) : Scan → Except ScanFault (List Token × Scan)
  | .blank => start position c
  | .word s read =>
    if isWordChar c then .ok ([], .word s (c :: read))
    else (start position c).map fun (tokens, next) => (wordToken s read :: tokens, next)
  | .quoted s read =>
    if c = quote then .ok ([], .quotedEnd s read) else .ok ([], .quoted s (c :: read))
  | .quotedEnd s read =>
    if c = quote then .ok ([], .quoted s (quote :: read))
    else (start position c).map fun (tokens, next) => (quotedToken s read :: tokens, next)

/-- The token that the end of the text ends. -/
def finish : Scan → Except ScanFault (List Token)
  | .blank => .ok []
  | .word s read => .ok [wordToken s read]
  | .quoted s _ => .error ⟨s, .openQuote⟩
  | .quotedEnd s read => .ok [quotedToken s read]

/-- Reads the characters from byte offset `position` on. -/
def run (s : Scan) (position : Nat) : List Char → Except ScanFault (List Token)
  | [] => s.finish
  | c :: cs =>
    match s.step position c with
    | .error fault => .error fault
    | .ok (tokens, next) => (next.run (position + c.utf8Size) cs).map (tokens ++ ·)

end Scan

/-- The tokens of a text. -/
def scan (text : List Char) : Except ScanFault (List Token) := Scan.blank.run 0 text

end SchemaBridge.Hive
