/-
Reading a list of tokens from the front.
A reading takes tokens off the front of a list and gives a result, or fails. Decisions look at the
tokens ahead without taking them. A group is read as a whole: what is read inside it has to use up
its content.
-/
import ApiNotes.Code.Token

namespace ApiNotes.Code

/-- Takes tokens off the front of a list, or fails. -/
abbrev Reading (α : Type) := StateT (List Token) Option α

/-! ## Looking ahead -/

/-- Whether a certain word is next. -/
def atWord (word : String) : List Token → Bool
  | .word w :: _ => w == word
  | _ => false

/-- Whether one of certain words is next. -/
def atWordOf (words : List String) : List Token → Bool
  | .word w :: _ => words.contains w
  | _ => false

/-- Whether a word is next, be it a name or a keyword. -/
def atAnyWord : List Token → Bool
  | .word _ :: _ => true
  | _ => false

/-- Whether a name is next. -/
def atName : List Token → Bool
  | .word w :: _ => isName w
  | _ => false

/-- Whether an operator is next, or a longer one that starts like it. -/
def atOperator : List Char → List Token → Bool
  | [c], .mark d _ :: _ => c == d
  | c :: rest, .mark d true :: ts => c == d && atOperator rest ts
  | _, _ => false

/-- Whether a mark is next, or an operator that starts with it. -/
def atMark (c : Char) : List Token → Bool
  | .mark d _ :: _ => c == d
  | _ => false

/-- Whether an operator is next, or a longer one that starts like it. -/
def atOp (operator : String) (ts : List Token) : Bool :=
  atOperator operator.toList ts

/-- Whether a double colon is next. -/
def atColons (ts : List Token) : Bool :=
  atOp "::" ts

/-- Whether a lifetime is next. -/
def atLifetime : List Token → Bool
  | .lifetime _ :: _ => true
  | _ => false

/-- Whether a group is next. -/
def atGroup (d : Delimiter) : List Token → Bool
  | .group d' _ :: _ => d == d'
  | _ => false

/-- Whether a number is next. -/
def atNumber : List Token → Bool
  | .literal (.integer _ _) :: _ => true
  | .literal (.decimal _) :: _ => true
  | _ => false

/-- Whether a text is next. -/
def atText : List Token → Bool
  | .literal (.text _) :: _ => true
  | _ => false

/-- Whether a literal is next: true, false, or a number with a sign count as literals. -/
def atLiteral : List Token → Bool
  | .literal _ :: _ => true
  | .word w :: _ => w == "true" || w == "false"
  | .mark '-' _ :: rest => atNumber rest
  | _ => false

/-! ## Taking tokens -/

namespace Reading

variable {α : Type}

/-- Looks ahead. -/
def ahead (test : List Token → Bool) : Reading Bool :=
  return test (← get)

/-- Fails unless the tokens ahead pass a test. -/
def check (test : List Token → Bool) : Reading Unit := do
  if test (← get) then pure () else failure

/-- Takes a number of tokens that are known to be there. -/
def skip (n : Nat) : Reading Unit :=
  modify (·.drop n)

/-- Takes a certain word. -/
def word (w : String) : Reading Unit := do
  check (atWord w)
  skip 1

/-- Takes a certain word if it is next. -/
def word? (w : String) : Reading Bool := do
  if ← ahead (atWord w) then
    skip 1
    return true
  else return false

/-- Takes a mark. -/
def mark (c : Char) : Reading Unit := do
  check (atMark c)
  skip 1

/-- Takes a mark if it is next. -/
def mark? (c : Char) : Reading Bool := do
  if ← ahead (atMark c) then
    skip 1
    return true
  else return false

/-- Takes an operator. -/
def op (operator : String) : Reading Unit := do
  check (atOp operator)
  skip operator.length

/-- Takes an operator if it is next. -/
def op? (operator : String) : Reading Bool := do
  if ← ahead (atOp operator) then
    skip operator.length
    return true
  else return false

/-- Takes any word. -/
def anyWord : Reading String := do
  match ← get with
  | .word w :: rest =>
    set rest
    return w
  | _ => failure

/-- Takes a name. -/
def name : Reading String := do
  check atName
  anyWord

/-- Takes a name or an underscore. -/
def nameOrBlank : Reading String := do
  check fun ts => atName ts || atWord "_" ts
  anyWord

/-- Takes a lifetime. -/
def lifetime : Reading Unit := do
  check atLifetime
  skip 1

/-- Takes a lifetime if it is next. -/
def lifetime? : Reading Bool := do
  if ← ahead atLifetime then
    skip 1
    return true
  else return false

/-- Takes a literal. -/
def literal : Reading Unit := do
  check atLiteral
  if ← ahead (atMark '-') then skip 2 else skip 1

/-! ## Groups and lists -/

/-- Takes a group and gives its content. -/
def content (d : Delimiter) : Reading (List Token) := do
  match ← get with
  | .group d' inner :: rest =>
    if d = d' then
      set rest
      return inner
    else failure
  | _ => failure

/-- Takes a group with any brackets, and gives these and its content. -/
def anyGroup : Reading (Delimiter × List Token) := do
  match ← get with
  | .group d inner :: rest =>
    set rest
    return (d, inner)
  | _ => failure

/-- Reads a list of tokens to its end. -/
def whole (p : Reading α) (ts : List Token) : Option α :=
  match p.run ts with
  | some (a, []) => some a
  | _ => none

/-- Takes a group and reads its content to its end. -/
def inside (d : Delimiter) (p : Reading α) : Reading α := do
  match whole p (← content d) with
  | some a => return a
  | none => failure

/-- Reads again and again, until a test of the tokens ahead says to stop. -/
def untilLoop (stop : List Token → Bool) (p : Reading α) : Nat → Reading (List α)
  | 0 => failure
  | fuel + 1 => do
    if ← ahead stop then return []
    let a ← p
    let rest ← untilLoop stop p fuel
    return a :: rest

/-- Reads again and again, until a test of the tokens ahead says to stop. Each reading takes at
least one token. -/
def untilStop (stop : List Token → Bool) (p : Reading α) : Reading (List α) := do
  let ts ← get
  if stop ts then return [] else untilLoop stop p (ts.length + 1)

/-- Reads again and again, until no token is left. -/
def untilEnd (p : Reading α) : Reading (List α) :=
  untilStop List.isEmpty p

/-- Reads one or more, with separators between them and perhaps after the last one. -/
def separatedLoop (stop : List Token → Bool) (separator : Reading Unit) (p : Reading α) :
    Nat → Reading (List α)
  | 0 => failure
  | fuel + 1 => do
    if ← ahead stop then return []
    let a ← p
    if ← ahead stop then return [a]
    separator
    let rest ← separatedLoop stop separator p fuel
    return a :: rest

/-- Reads any number with separators between them, and perhaps one after the last, until a test
says to stop. -/
def separated (stop : List Token → Bool) (separator : Reading Unit) (p : Reading α) :
    Reading (List α) := do
  separatedLoop stop separator p ((← get).length + 1)

/-- Reads any number with commas between them, and perhaps one after the last, until no token is
left. -/
def commaList (p : Reading α) : Reading (List α) :=
  separated List.isEmpty (mark ',') p

/-- Reads any number that are joined by pluses, until a test says to stop or no plus follows. -/
def plusLoop (stop : List Token → Bool) (p : Reading α) : Nat → Reading (List α)
  | 0 => failure
  | fuel + 1 => do
    if ← ahead stop then return []
    let a ← p
    if ← mark? '+' then
      let rest ← plusLoop stop p fuel
      return a :: rest
    else return [a]

/-- Reads any number that are joined by pluses, until a test says to stop or no plus follows. -/
def plusList (stop : List Token → Bool) (p : Reading α) : Reading (List α) := do
  plusLoop stop p ((← get).length + 1)

end Reading

end ApiNotes.Code
