import RecordFilter.Error
import RecordFilter.Filter.Lexer
import RecordFilter.Filter.ParserState

/-!
# Reading filters

A text is read into tokens and the tokens into a predicate. The grammar, loosest first:

```text
or         := and ("or" and)*
and        := not ("and" not)*
not        := "not" not | primary
primary    := "(" or ")" | "true" | "false" | comparison
comparison := target op literal
            | target ["not"] "in" "(" [literal ("," literal)*] ")"
            | target ["not"] "like" string
target     := "key" | "meta" "." identifier | identifier
literal    := string | "true" | "false" | ["-"] number
```
-/

set_option autoImplicit false

namespace RecordFilter.Filter

def readPlaced (state : State) (placed : PlacedToken) : Except SyntaxError State :=
  (state.advance placed.token).mapError (⟨placed.position, ·⟩)

def parseTokens (tokens : List PlacedToken) (stop : Nat) : Except SyntaxError Predicate := do
  let state ← tokens.foldlM readPlaced .start
  state.finish.mapError (⟨stop, ·⟩)

/-- The predicate that a text spells. A text that is not all tokens is refused at its
first fault before any of its tokens are read as a filter. -/
def parse (text : String) : Except SyntaxError Predicate := do
  let lexed := lex text
  let stop ← lexed.stop
  parseTokens lexed.tokens stop

end RecordFilter.Filter

def RecordFilter.Predicate.ofText (text : String) : RecordFilter.Result RecordFilter.Predicate :=
  (RecordFilter.Filter.parse text).mapError .parse
