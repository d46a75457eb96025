import NamedParams.Source.Grammar.Functions
import NamedParams.Source.Grammar.Elements

namespace NamedParams.Source.Grammar

open Reader

variable {source : List Char} (rules : Rules source)

/-- The precedence of a binary operator; a higher one binds closer. -/
def precedence? (operator : String) : Option Nat :=
  match operator with
  | "??" => some 4
  | "||" => some 5
  | "&&" => some 6
  | "|" => some 7
  | "^" => some 8
  | "&" => some 9
  | "==" | "!=" | "===" | "!==" => some 10
  | "<" | ">" | "<=" | ">=" | "instanceof" | "in" | "as" | "satisfies" => some 11
  | "<<" | ">>" | ">>>" => some 12
  | "+" | "-" => some 13
  | "*" | "/" | "%" => some 14
  | "**" => some 15
  | _ => none

def assignmentOperators : List String :=
  ["=", "+=", "-=", "*=", "**=", "/=", "%=", "<<=", ">>=", ">>>=", "&=", "|=", "^=", "||=", "&&=",
   "??="]

/-- The operator that is next, where a word counts as one too. -/
def binaryOperator : Reader source (Option (String × Nat)) := do
  if (← atMark ">") then reread .closingOperator
  let noIn ← context fun context => context.noIn
  asks fun next =>
    if next.kind == .mark || (next.kind == .name && !(noIn && next.value == "in")) then
      (precedence? next.value).map fun precedence => (next.value, precedence)
    else none

/-- Whether the next token can start an expression. -/
def startsExpression : Reader source Bool := do
  if (← atAnyMark ["(", "[", "\x7b", "/", "/=", "+", "-", "~", "!", "++", "--", "<", "@"]) then
    return true
  if (← atAnyWord ["this", "super", "null", "true", "false", "function", "class", "new", "delete",
      "typeof", "void", "await", "yield"]) then return true
  if (← atKind .number) || (← atKind .string) || (← atKind .privateName) ||
      (← asks fun next => next.startsTemplate) then return true
  if (← atWord "import") then return ← followedBy (atAnyMark ["(", "<", "."])
  if (← looksAt (do return (← binaryOperator).isSome)) then return true
  atIdentifier

/-- Whether a list of type arguments in an expression really is one, judged by what follows it. -/
def canFollowTypeArguments : Reader source Bool := do
  if (← atMark "(") || (← asks fun next => next.startsTemplate) then return true
  if (← atAnyMark ["<", ">", "+", "-"]) then return false
  if !(← onSameLine) then return true
  if (← looksAt (do return (← binaryOperator).isSome)) then return true
  return !(← startsExpression)

/-- Type arguments in an expression, where an angle bracket could also compare. -/
def expressionTypeArguments : Reader source Unit := do
  if !(← context fun context => context.dialect.types) then fail
  if (← atAnyMark ["<<", "<<="]) then reread .openingAngle
  node .typeArguments do
    expect "<"
    commaList ">" (rules .type)
    reread .closingOperator
    expect ">"
  if !(← canFollowTypeArguments) then fail

def templateExpression : Reader source Unit :=
  node .templateExpression (templateParts (bracketed (rules .expression)))

def template : Reader source Unit := do
  if (← atKind .template) then take else templateExpression rules

/-- An argument of a call or an element of an array. An array may leave elements out. -/
def listElement : Reader source Unit := do
  if (← atMark ",") then pure ()
  else if (← atMark "...") then
    node .spread do
      take
      rules (.assignment true)
  else rules (.assignment true)

def arguments : Reader source Unit :=
  node .arguments <| bracketed do
    expect "("
    commaList ")" (listElement rules)
    expect ")"

def arrayLiteral : Reader source Unit :=
  node .arrayLiteral <| bracketed do
    expect "["
    commaList "]" (listElement rules)
    expect "]"

/-- A function, or the name `async` where no function follows on the line. -/
def startsAsyncFunction : Reader source Bool := do
  if (← atWord "async") then
    followedBy (do return (← atWord "function") && (← onSameLine))
  else return false

/-- An access to a member or an element, a template with a tag, an assertion that a value is
    there, or type arguments: whatever extends the expression that starts at `start`. -/
def memberStep (start : Nat) (chains : Bool) : Reader source Bool := do
  let chained ←
    if chains && (← atMark "?.") then
      followedBy (asks fun next => next.isNameLike || next.isMark "[" || next.startsTemplate)
    else pure false
  if chained then take
  let isAccess ← if chained then atNameLike else accept "."
  if isAccess then
    if (← atNameLike) then take else fail
    group start .propertyAccess
    return true
  let brackets ←
    if chained then atMark "["
    else
      if (← context fun context => context.inDecorator) then pure false else atMark "["
  if brackets then
    take
    bracketed (rules .expression)
    expect "]"
    group start .elementAccess
    return true
  if (← asks fun next => next.startsTemplate) then
    template rules
    group start .taggedTemplate
    return true
  if chained then fail
  if (← atMark "!") && (← onSameLine) then
    take
    group start .nonNull
    return true
  if (← atAnyMark ["<", "<<"]) && (← attempt (expressionTypeArguments rules)) then
    if (← atMark "(") || (← asks fun next => next.startsTemplate) then return true
    group start .instantiation
    return true
  return false

/-- A call, or whatever extends the expression that starts at `start` without being one. -/
def callStep (start : Nat) : Reader source Bool := do
  if (← memberStep rules start true) then return true
  if (← accept "?.") then
    let _ ← attempt (expressionTypeArguments rules)
    if (← asks fun next => next.startsTemplate) then
      template rules
      group start .taggedTemplate
    else
      arguments rules
      group start .call
    return true
  if (← atMark "(") then
    arguments rules
    group start .call
    return true
  return false

/-- The innermost part of an expression. -/
def primary : Nat → Reader source Unit
  | 0 => fail
  | count + 1 => do
    if (← atKind .number) || (← atKind .string) || (← atKind .privateName) then take
    else if (← asks fun next => next.startsTemplate) then template rules
    else if (← atAnyMark ["/", "/="]) then
      reread .regex
      take
    else if (← atMark "(") then
      node .parenthesized <| bracketed do
        take
        rules .expression
        expect ")"
    else if (← atMark "[") then arrayLiteral rules
    else if (← atMark "\x7b") then bracketed (objectLiteral rules)
    else if (← atMark "@") then
      let start ← depth
      decorators rules
      classTail rules start .classExpression
    else if (← atWord "class") then
      let start ← depth
      classTail rules start .classExpression
    else if (← atWord "function") || (← startsAsyncFunction) then functionExpression rules
    else if (← atWord "new") then
      if (← followedBy (atMark ".")) then
        node .metaProperty do
          take
          take
          anyName
      else
        node .newExpression do
          take
          let start ← depth
          primary count
          loop (memberStep rules start false)
          if (← atMark "(") then arguments rules
    else if (← atAnyWord ["this", "super", "null", "true", "false"]) then take
    else identifier

/-- An expression without operators: calls and accesses to any depth. -/
def leftHandSide : Reader source Unit := do
  let start ← depth
  if (← atWord "import") then
    if (← followedBy (atMark ".")) then
      node .metaProperty do
        take
        take
        anyName
    else take
  else primary rules (← context fun context => context.limit)
  loop (callStep rules start)

/-- `await` is an operator inside asynchronous functions, and elsewhere where it stands before an
    operand on its own line. -/
def startsAwait : Reader source Bool := do
  if !(← atWord "await") then return false
  if (← context fun context => context.inAwait) then return true
  followedBy do
    let operand ← asks fun next => next.isNameLike || next.kind == .number || next.kind == .string
    return operand && (← onSameLine)

/-- An expression with steps up or down before or after it. -/
def update : Reader source Unit := do
  let start ← depth
  if (← atAnyMark ["++", "--"]) then
    take
    rules .leftHandSide
    group start .unary
  else if (← atMark "<") then rules .element
  else
    rules .leftHandSide
    if (← atAnyMark ["++", "--"]) && (← onSameLine) then
      take
      group start .postfixUnary

/-- An expression under any number of unary operators. A power binds closer than these. -/
def unary : Reader source Unit := do
  let start ← depth
  if (← atAnyMark ["+", "-", "~", "!"]) || (← atAnyWord ["delete", "typeof", "void"]) ||
      (← startsAwait) then
    take
    rules .unary
    group start .unary
  else if (← atMark "<") && !(← context fun context => context.dialect.elements) then
    take
    rules .type
    expect ">"
    rules .unary
    group start .typeConversion
  else update rules

/-- An operand with all operators after it whose precedence exceeds the given one. Powers group
    to the right, all other operators to the left. -/
def operand (above : Nat) : Reader source Unit := do
  let start ← depth
  rules .unary
  loop do
    match (← binaryOperator) with
    | none => return false
    | some (operator, precedence) =>
      let binds := if operator == "**" then above ≤ precedence else above < precedence
      if !binds then return false
      if operator == "as" || operator == "satisfies" then
        if !(← onSameLine) then return false
        take
        rules .type
        group start .typeConversion
      else
        take
        rules (.operand precedence)
        group start .binary
      return true

/-- A parenthesis that may start the parameters of an arrow function: it certainly does, it
    certainly does not, or only what follows can tell. -/
inductive ArrowStart where
  | certain
  | possible
  | absent
deriving DecidableEq, Repr

/-- Looks at the tokens after an opening parenthesis. -/
def arrowStartAfterParenthesis : Reader source ArrowStart := do
  if (← accept ")") then
    return if (← atAnyMark ["=>", ":", "\x7b"]) then .certain else .absent
  if (← atAnyMark ["[", "\x7b"]) then return .possible
  if (← atMark "...") then return .certain
  if (← atAnyWord modifierWords) && !(← atWord "async") && (← followedBy atIdentifier) then
    take
    return if (← atWord "as") then .absent else .certain
  if !(← atIdentifier) && !(← atWord "this") then return .absent
  take
  if (← atMark ":") then return .certain
  if (← accept "?") then
    return if (← atAnyMark [":", ",", "=", ")"]) then .certain else .absent
  if (← atAnyMark [",", "=", ")"]) then return .possible
  return .absent

/-- Looks at the tokens after an opening angle bracket, which starts type parameters. Where
    elements can stand, only an `extends` clause, a comma or a default tells the two apart. -/
def arrowStartAfterAngle : Reader source ArrowStart := do
  if !(← atIdentifier) && !(← atWord "const") then return .absent
  if !(← context fun context => context.dialect.elements) then return .possible
  let _ ← acceptWord "const"
  take
  if (← acceptWord "extends") then
    return if (← atAnyMark ["=", ">", "/"]) then .absent else .certain
  return if (← atAnyMark [",", "="]) then .certain else .absent

def arrowStart : Reader source ArrowStart := do
  if (← acceptWord "async") then
    if !(← onSameLine) then return .absent
  if (← accept "(") then arrowStartAfterParenthesis
  else if (← accept "<") then arrowStartAfterAngle
  else return .absent

/-- An arrow function with parameters in parentheses. Where an arrow function may not state its
    return type, one that does has to be followed by a colon. -/
def arrowFunction (allowReturnType : Bool) : Reader source Unit := do
  node .arrowFunction do
    let isAsync ← acceptWord "async"
    typeParameters rules
    parameters rules isAsync false
    let stated ← atMark ":"
    within (fun context => { context with noConditionalType := false }) (returnType rules ":")
    if !(← onSameLine) then fail
    expect "=>"
    arrowBody rules isAsync allowReturnType
    if !allowReturnType && stated && !(← atMark ":") then fail

/-- An arrow function with a single name for its parameter. -/
def simpleArrowFunction (allowReturnType : Bool) : Reader source Unit :=
  node .arrowFunction do
    let isAsync ←
      if (← atWord "async") then
        if (← followedBy (do return (← atKind .name) && (← onSameLine))) then
          take
          pure true
        else pure false
      else pure false
    node .parameters (node .parameter (node .name identifier))
    if !(← onSameLine) then fail
    expect "=>"
    arrowBody rules isAsync allowReturnType

def startsSimpleArrow : Reader source Bool :=
  looksAt do
    if (← atWord "async") && (← followedBy (do return (← atKind .name) && (← onSameLine))) then
      take
    identifier
    atMark "=>"

/-- `yield` is an operator inside generators, and elsewhere where it stands before an operand on
    its own line. -/
def startsYield : Reader source Bool := do
  if !(← atWord "yield") then return false
  if (← context fun context => context.inYield) then return true
  followedBy do
    let operand ← asks fun next => next.isNameLike || next.kind == .number || next.kind == .string
    return operand && (← onSameLine)

def yieldExpression : Reader source Unit :=
  node .yieldExpression do
    take
    if (← onSameLine) then
      if (← accept "*") then rules (.assignment true)
      else if (← startsExpression) then rules (.assignment true)

/-- The rest of a conditional expression, or of an assignment, after its first operand. -/
def assignmentRest (start : Nat) (allowReturnType : Bool) : Reader source Unit := do
  if (← atMark ">") then reread .closingOperator
  if (← atAnyMark assignmentOperators) then
    take
    rules (.assignment allowReturnType)
    group start .binary
  else if (← accept "?") then
    bracketed (rules (.assignment false))
    expect ":"
    rules (.assignment allowReturnType)
    group start .conditional

/-- An expression without commas outside brackets. -/
def assignment (allowReturnType : Bool) : Reader source Unit := do
  if (← startsYield) then yieldExpression rules
  else
    let arrow ← ahead? arrowStart
    if arrow == some .certain then arrowFunction rules true
    else if arrow == some .possible && (← attempt (arrowFunction rules allowReturnType)) then
      pure ()
    else if (← startsSimpleArrow) then simpleArrowFunction rules allowReturnType
    else
      let start ← depth
      rules (.operand 0)
      assignmentRest rules start allowReturnType

/-- An expression, with commas between its parts. -/
def expression : Reader source Unit := do
  let start ← depth
  within (fun context => { context with inDecorator := false }) do
    rules (.assignment true)
    loop do
      if (← atMark ",") then
        take
        rules (.assignment true)
        group start .binary
        return true
      else return false

end NamedParams.Source.Grammar
