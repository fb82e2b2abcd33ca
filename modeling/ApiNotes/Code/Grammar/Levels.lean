/-
The grammar, level by level.
The grammar of level zero takes nothing, and the one of the next level refers to it. Every step to a
lower level is soon followed by a token, so a level that exceeds the number of tokens a few times
over reads everything there is to read.
-/
import ApiNotes.Code.Grammar.Item
import ApiNotes.Code.Grammar.Statement

namespace ApiNotes.Code

/-- The grammar whose parts may refer to each other to a given depth. -/
def Grammar.upTo : Nat → Grammar
  | 0 =>
    { type := fun _ => failure
      bound := fun _ => failure
      pattern := failure
      unary := fun _ => failure
      operators := fun _ _ _ => failure
      conditional := failure
      leading := failure
      statements := failure
      item := fun _ => failure
      importTree := fun _ => failure }
  | n + 1 =>
    { type := fun allowPlus => Code.type (upTo n) allowPlus
      bound := fun rules => Code.bound (upTo n) rules
      pattern := fun ts => Code.pattern (upTo n) ts
      unary := fun allowStruct => Code.unary (upTo n) allowStruct
      operators := fun allowStruct base e => Code.operators (upTo n) allowStruct base e
      conditional := fun ts => Code.conditional (upTo n) ts
      leading := fun ts => Code.leading (upTo n) ts
      statements := fun ts => Code.statements (upTo n) ts
      item := fun attributes => Code.item (upTo n) attributes
      importTree := fun allowRoot => Code.importTree (upTo n) allowRoot }

/-- How many steps to a lower level a token may stand for. -/
def levelsPerToken : Nat :=
  4

/-- The grammar that suffices for a list of tokens. -/
def Grammar.forTokens (ts : List Token) : Grammar :=
  .upTo (levelsPerToken * (sizeOfTokens ts + 2))

end ApiNotes.Code
