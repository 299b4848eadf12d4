import RecordFilter.Filter.Token

/-!
# Syntax errors

Why a text is not a filter, and the offset of the first character or token that cannot
be right.
-/

set_option autoImplicit false

namespace RecordFilter.Filter

inductive Expectation where
  | sign (expected : Symbol)
  | property
  | identifier
  | comparisonOperator
  | literal
  | negatedNumber
  | pattern
  deriving DecidableEq

def Expectation.text : Expectation → String
  | sign expected => expected.name
  | property => "property"
  | identifier => "identifier"
  | comparisonOperator => "comparison operator"
  | literal => "literal"
  | negatedNumber => "number after '-'"
  | pattern => "pattern"

inductive SyntaxFault where
  | loneExclamation
  | strayCharacter (found : Char)
  | unterminatedString
  | unterminatedIdentifier
  | expected (expectation : Expectation) (found : Token)
  /-- A negated comparison that is neither membership nor a pattern. -/
  | negatedOperator
  /-- A whole number outside the range of the words. -/
  | outOfRange (text : String)
  /-- A token behind a complete filter. -/
  | trailing (found : Token)
  deriving DecidableEq

def SyntaxFault.message : SyntaxFault → String
  | loneExclamation => "expected '=' after '!'"
  | strayCharacter found => "unexpected character '" ++ found.toString ++ "'"
  | unterminatedString => "unterminated string literal"
  | unterminatedIdentifier => "unterminated quoted identifier"
  | expected expectation found =>
    "expected " ++ expectation.text ++ ", found " ++ found.inspect
  | negatedOperator => "expected 'in' or 'like' after 'not'"
  | outOfRange text => "integer '" ++ text ++ "' out of range"
  | trailing found => "unexpected " ++ found.inspect ++ " after filter"

structure SyntaxError where
  position : Nat
  fault : SyntaxFault
  deriving DecidableEq

end RecordFilter.Filter
