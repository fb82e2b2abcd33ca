/-
Patterns, expressions and statements keep to the law of readings. They have no names of their own,
and what they hold of types and declarations they hold from their parts.
-/
import ApiNotes.Proofs.Code.Grammar.Types
import ApiNotes.Code.Grammar.Statement

namespace ApiNotes.Code

open Reading

variable {P : String → Prop} {g : Grammar}

section

variable (h : g.Keeps P)
include h

/-! ## Patterns -/

omit h in
@[grind ←]
theorem wordsAll_plainPattern {parts : List Tree} (hparts : WordsAll P parts) :
    WordsAll P (plainPattern parts) := by
  unfold plainPattern
  grind

@[grind ←]
theorem keeps_alternatives : Keeps P (alternatives g) := by
  unfold alternatives
  grind

omit h in
@[grind .]
theorem keeps_rangeDots : Keeps P rangeDots := by
  unfold rangeDots
  grind

omit h in
@[grind .]
theorem keeps_patternRangeDots : Keeps P patternRangeDots := by
  unfold patternRangeDots
  grind

@[grind ←]
theorem keeps_pathExpression : Keeps P (pathExpression g) := by
  unfold pathExpression
  grind

@[grind ←]
theorem keeps_rangeBound? : Keeps P (rangeBound? g) := by
  unfold rangeBound?
  grind

@[grind ←]
theorem keeps_rangeFrom {start : Tree} (hstart : WordsAll P start) :
    Keeps P (rangeFrom g start) := by
  unfold rangeFrom
  grind

@[grind ←]
theorem keeps_rangeWithoutStart : Keeps P (rangeWithoutStart g) := by
  unfold rangeWithoutStart
  grind

omit h in
@[grind .]
theorem keeps_member : Keeps P member := by
  refine keeps_get_bind fun ts hts named rest hread => ?_
  split at hread
  · split at hread
    · cases hread
      exact ⟨List.suffix_cons .., trivial⟩
    · cases hread
  · split at hread
    · cases hread
      exact ⟨List.suffix_cons .., trivial⟩
    · cases hread
  · cases hread

@[grind ←]
theorem keeps_fieldPattern : Keeps P (fieldPattern g) := by
  unfold fieldPattern
  refine (keeps_word? _).bind fun boxed _ => (keeps_word? _).bind fun byReference _ =>
    (keeps_word? _).bind fun mutable _ => keeps_member.bind fun named _ => ?_
  grind

theorem keeps_fieldPatterns (fuel : Nat) : Keeps P (fieldPatterns g fuel) := by
  induction fuel with
  | zero => exact keeps_failure
  | succ fuel ih =>
    unfold fieldPatterns
    refine (keeps_ahead _).bind fun isEnd _ => keeps_ite (by grind) ?_
    refine (keeps_skipAttributes h).bind fun attributes ha => ?_
    grind

@[grind ←]
theorem keeps_pathPattern : Keeps P (pathPattern g) := by
  unfold pathPattern
  grind [keeps_fieldPatterns]

@[grind ←]
theorem keeps_namePattern : Keeps P (namePattern g) := by
  unfold namePattern
  refine (keeps_word? _).next <| (keeps_word? _).next <| (keeps_ahead _).bind fun isSelf _ => ?_
  grind

@[grind ←]
theorem keeps_literalPattern : Keeps P (literalPattern g) := by
  unfold literalPattern
  grind

@[grind ←]
theorem keeps_pattern : Keeps P (pattern g) := by
  unfold pattern
  grind

/-! ## Operators -/

omit h in
@[grind ←]
theorem wordsAll_plainExpr {parts : List Tree} (hparts : WordsAll P parts) :
    WordsAll P (plainExpr parts) := by
  unfold plainExpr
  grind

omit h in
@[grind ←]
theorem wordsAll_rangeExpr {parts : List Tree} (hparts : WordsAll P parts) :
    WordsAll P (rangeExpr parts) := by
  unfold rangeExpr
  grind

omit h in
@[grind ←]
theorem wordsAll_blockExpr {parts : List Tree} (hparts : WordsAll P parts) :
    WordsAll P (blockExpr parts) := by
  unfold blockExpr
  grind

omit h in
@[grind .]
theorem wordsAll_verbatimExpr : WordsAll P verbatimExpr := by
  unfold verbatimExpr
  grind

omit h in
@[grind ←]
theorem wordsAll_attributed {attributes : List Tree} {e : ExprFound}
    (hattributes : WordsAll P attributes) (he : WordsAll P e) :
    WordsAll P (e.attributed attributes) := by
  unfold ExprFound.attributed
  grind

theorem keeps_tighterLoop (allowStruct : Bool) (p : Precedence) (fuel : Nat) {e : ExprFound}
    (he : WordsAll P e) : Keeps P (tighterLoop g allowStruct p fuel e) := by
  induction fuel generalizing e with
  | zero => exact keeps_failure
  | succ fuel ih =>
    unfold tighterLoop
    grind

@[grind ←]
theorem keeps_operand (allowStruct : Bool) (p : Precedence) :
    Keeps P (operand g allowStruct p) := by
  unfold operand
  grind [keeps_tighterLoop]

@[grind ←]
theorem keeps_rangeEnd (allowStruct closed : Bool) : Keeps P (rangeEnd g allowStruct closed) := by
  unfold rangeEnd
  grind

theorem keeps_operatorsLoop (allowStruct : Bool) (base : Precedence) (fuel : Nat) {e : ExprFound}
    (he : WordsAll P e) : Keeps P (operatorsLoop g allowStruct base fuel e) := by
  induction fuel generalizing e with
  | zero => exact keeps_failure
  | succ fuel ih =>
    unfold operatorsLoop
    refine keeps_get.bind fun ts _ => keeps_ite (keeps_pure he) ?_
    split
    · grind
    · refine keeps_ite ((keeps_skip 1).next <| ?_) ?_
      · grind
      refine keeps_ite (keeps_rangeDots.bind fun closed _ => ?_) ?_
      · grind
      grind

@[grind ←]
theorem keeps_operators (allowStruct : Bool) (base : Precedence) {e : ExprFound}
    (he : WordsAll P e) : Keeps P (operators g allowStruct base e) :=
  keeps_get.bind fun _ _ => keeps_operatorsLoop h allowStruct base _ he

/-! ## Calls, fields and indices -/

@[grind ←]
theorem keeps_afterDot : Keeps P (afterDot g) := by
  unfold afterDot
  refine (keeps_word? _).bind fun awaits _ => keeps_ite (by grind) ?_
  refine keeps_member.bind fun named _ => ?_
  grind

theorem keeps_trailersLoop (fuel : Nat) {e : ExprFound} (he : WordsAll P e) :
    Keeps P (trailersLoop g fuel e) := by
  induction fuel generalizing e with
  | zero => exact keeps_failure
  | succ fuel ih =>
    unfold trailersLoop
    refine keeps_get.bind fun ts _ => keeps_ite (by grind) ?_
    refine keeps_ite ((keeps_skip 1).next <| ?_) ?_
    · refine keeps_get_bind fun ts hts e' rest hread => ?_
      split at hread
      · refine keeps_set_bind ?_ (List.suffix_cons ..) hts hread
        grind
      · refine (keeps_afterDot h).bind (fun parts hparts => ?_) hts hread
        grind
    grind

@[grind ←]
theorem keeps_trailers {e : ExprFound} (he : WordsAll P e) : Keeps P (trailers g e) :=
  keeps_get.bind fun _ _ => keeps_trailersLoop h _ he

/-! ## Paths, macros and struct literals -/

@[grind ←]
theorem keeps_fieldValue : Keeps P (fieldValue g) := by
  unfold fieldValue
  grind

theorem keeps_fieldValues (fuel : Nat) : Keeps P (fieldValues g fuel) := by
  induction fuel with
  | zero => exact keeps_failure
  | succ fuel ih =>
    unfold fieldValues
    grind

@[grind ←]
theorem keeps_pathOperand (allowStruct : Bool) : Keeps P (pathOperand g allowStruct) := by
  unfold pathOperand
  refine (keeps_qualifiedPath h true).bind fun p hp => keeps_get.bind fun ts _ => ?_
  refine keeps_ite ((keeps_skip 1).next <| keeps_anyGroup.bind fun ⟨d, tokens⟩ _ => ?_) ?_
  · grind
  grind [keeps_fieldValues]

/-! ## Closures and jumps -/

@[grind ←]
theorem keeps_closureInput : Keeps P (closureInput g) := by
  unfold closureInput
  grind

@[grind ←]
theorem keeps_closure (allowStruct : Bool) : Keeps P (closure g allowStruct) := by
  unfold closure
  refine (keeps_binder? h).bind fun bound hbound => (keeps_word? _).next <|
    (keeps_word? _).next <| (keeps_word? _).next <|
      (keeps_word? _).next <| (keeps_mark '|').next <|
        Keeps.bind (by grind) fun inputs hinputs => (keeps_mark '|').next <| ?_
  extract_lets before
  have hbefore : WordsAll P before :=
    (wordsAll_append ..).2 ⟨wordsAll_getD hbound wordsAll_nil, hinputs⟩
  clear_value before
  grind

@[grind ←]
theorem keeps_jumpValue : Keeps P (jumpValue g) := by
  unfold jumpValue
  grind

/-! ## Conditionals, loops and matches -/

@[grind ←]
theorem keeps_headExpression : Keeps P (headExpression g) := by
  unfold headExpression
  grind

@[grind ←]
theorem keeps_conditional : Keeps P (conditional g) := by
  unfold conditional
  refine (keeps_skipAttributes h).bind fun attributes ha => (keeps_word _).next <|
    (keeps_headExpression h).bind fun condition hc => h.block.bind fun body hb => ?_
  grind

omit h in
@[grind .]
theorem keeps_label? : Keeps P label? := by
  unfold label?
  grind

@[grind ←]
theorem keeps_headedBlock {head : Reading (List Tree)} (hhead : Keeps P head) :
    Keeps P (headedBlock g head) := by
  unfold headedBlock
  grind

@[grind ←]
theorem keeps_unlabelled : Keeps P (unlabelled g) := by
  unfold unlabelled
  grind

/-! ## Operands -/

@[grind ←]
theorem keeps_parenthesizedExpression : Keeps P (parenthesizedExpression g) := by
  unfold parenthesizedExpression
  grind

@[grind ←]
theorem keeps_listContent : Keeps P (listContent g) := by
  unfold listContent
  refine (keeps_ahead _).bind fun isEnd _ => keeps_ite (by grind) ?_
  refine h.value.bind fun first hfirst => ?_
  grind

@[grind ←]
theorem keeps_letCondition (allowStruct : Bool) : Keeps P (letCondition g allowStruct) := by
  unfold letCondition
  refine (keeps_word _).next <| (keeps_alternatives h).bind fun p hp => ?_
  grind

@[grind ←]
theorem keeps_matchArm : Keeps P (matchArm g) := by
  unfold matchArm
  refine (keeps_skipAttributes h).bind fun attributes ha =>
    (keeps_alternatives h).bind fun p hp => (keeps_word? _).bind fun isGuarded _ => ?_
  extract_lets afterGuard
  have hafter (guard) (hguard : WordsAll P guard) : Keeps P (afterGuard guard) := by
    refine (keeps_op _).next <| h.leading.bind fun body hb => ?_
    grind
  clear_value afterGuard
  grind

@[grind ←]
theorem keeps_matching : Keeps P (matching g) := by
  unfold matching
  refine (keeps_word _).next <| (keeps_headExpression h).bind fun head hhead =>
    (keeps_attributedBody h (keeps_matchArm h)).bind fun ⟨attributes, arms⟩ hi => ?_
  grind

@[grind ←]
theorem keeps_wordOperand (allowStruct : Bool) (w : String) :
    Keeps P (wordOperand g allowStruct w) := by
  unfold wordOperand
  grind

@[grind ←]
theorem keeps_startOperand (allowStruct : Bool) : Keeps P (startOperand g allowStruct) := by
  unfold startOperand
  grind

@[grind ←]
theorem keeps_unary (allowStruct : Bool) : Keeps P (unary g allowStruct) := by
  unfold unary
  refine (keeps_ahead _).bind fun isAttributed _ =>
    (keeps_skipAttributes h).bind fun attributes ha => keeps_get.bind fun ts _ => ?_
  refine keeps_ite ((keeps_skip 1).next <| ?_) ?_
  · grind
  refine keeps_ite (by grind) ?_
  refine (keeps_startOperand h _).bind fun start hstart =>
    (keeps_trailers h hstart).bind fun e he => ?_
  grind

@[grind ←]
theorem keeps_blockOperand? : Keeps P (blockOperand? g) := by
  unfold blockOperand?
  grind

@[grind ←]
theorem keeps_leading : Keeps P (leading g) := by
  unfold leading
  grind

/-! ## Statements -/

@[grind ←]
theorem keeps_bindingValue : Keeps P (bindingValue g) := by
  unfold bindingValue
  grind

@[grind ←]
theorem keeps_binding : Keeps P (binding g) := by
  unfold binding
  refine (keeps_word _).next <| h.pattern.bind fun p hp =>
    (keeps_mark? ':').bind fun isTyped _ => ?_
  extract_lets afterType
  have hafter (t) (ht : WordsAll P t) : Keeps P (afterType t) := by
    refine (keeps_mark? '=').bind fun isValued _ => ?_
    grind
  clear_value afterType
  grind

@[grind ←]
theorem keeps_statement : Keeps P (statement g) := by
  unfold statement
  refine (keeps_skipAttributes h).bind fun attributes ha => keeps_get.bind fun ts _ => ?_
  extract_lets macroForm
  refine keeps_ite (keeps_plainPath_bind fun _ => ?_) ?_
  · grind
  refine keeps_ite (by grind) (keeps_ite (by grind) ?_)
  refine (keeps_leading h).bind fun e he => ?_
  have htree : WordsAll P (e.attributed attributes).tree := wordsAll_attributed ha he
  grind

theorem keeps_statementsLoop (fuel : Nat) : Keeps P (statementsLoop g fuel) := by
  induction fuel with
  | zero => exact keeps_failure
  | succ fuel ih =>
    unfold statementsLoop
    grind

@[grind ←]
theorem keeps_statements : Keeps P (statements g) :=
  keeps_get.bind fun _ _ => keeps_statementsLoop h _

end

end ApiNotes.Code
