import RecordFilter.Filter.NumberLiteral
import RecordFilter.Text.Escaped

/-!
# Tokens

The words and signs of the filter language.
-/

set_option autoImplicit false

namespace RecordFilter.Filter

inductive Keyword where
  | and
  | or
  | not
  | oneOf
  | like
  | true
  | false
  | key
  | metadata
  deriving DecidableEq, Repr

namespace Keyword

def name : Keyword → String
  | and => "And"
  | or => "Or"
  | not => "Not"
  | oneOf => "In"
  | like => "Like"
  | true => "True"
  | false => "False"
  | key => "Key"
  | metadata => "Meta"

/-- A letter as it stands in a reserved word written in capitals. Of the letters beyond
ASCII only the dotless i and the long s have a capital that occurs there. -/
def capital (c : Char) : Char :=
  if c = '\u0131' then 'I'
  else if c = '\u017f' then 'S'
  else c.toUpper

/-- The reserved word that a word spells in letters of either case. -/
def ofWord? (word : List Char) : Option Keyword :=
  match String.ofList (word.map capital) with
  | "AND" => some and
  | "OR" => some or
  | "NOT" => some not
  | "IN" => some oneOf
  | "LIKE" => some like
  | "TRUE" => some true
  | "FALSE" => some false
  | "KEY" => some key
  | "META" => some metadata
  | _ => none

end Keyword

inductive Symbol where
  | minus
  | equal
  | notEqual
  | less
  | greater
  | lessOrEqual
  | greaterOrEqual
  | leftParen
  | rightParen
  | comma
  | dot
  deriving DecidableEq, Repr

def Symbol.name : Symbol → String
  | minus => "Minus"
  | equal => "Equal"
  | notEqual => "NotEqual"
  | less => "Less"
  | greater => "Greater"
  | lessOrEqual => "LessEqual"
  | greaterOrEqual => "GreaterEqual"
  | leftParen => "LeftParen"
  | rightParen => "RightParen"
  | comma => "Comma"
  | dot => "Dot"

inductive Token where
  | identifier (name : String)
  | number (literal : NumberLiteral)
  | string (text : String)
  | keyword (word : Keyword)
  | symbol (sign : Symbol)
  | endOfText
  deriving DecidableEq

namespace Token

def isKeyword : Token → Bool
  | keyword _ => true
  | _ => false

def name : Token → String
  | identifier _ => "Identifier"
  | number _ => "Number"
  | string _ => "String"
  | keyword word => word.name
  | symbol sign => sign.name
  | endOfText => "Eof"

/-- The text that a token carries, if its kind alone does not tell all. -/
def text? : Token → Option String
  | identifier name => some name
  | number literal => some literal.text
  | string text => some text
  | keyword _ | symbol _ | endOfText => none

def inspect (token : Token) : String :=
  match token.text? with
  | some text => token.name ++ "(" ++ Text.escaped text ++ ")"
  | none => token.name

end Token

structure PlacedToken where
  token : Token
  position : Nat
  deriving DecidableEq

end RecordFilter.Filter
