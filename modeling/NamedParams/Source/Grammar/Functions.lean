import NamedParams.Source.Grammar.Types

namespace NamedParams.Source.Grammar

open Reader

variable {source : List Char} (rules : Rules source)

/-- Statements in braces. -/
def block : Reader source Unit :=
  node .block do
    expect "\x7b"
    loop do
      if (← atMark "\x7d") then return false
      rules .statement
      return true
    expect "\x7d"

/-- The statements of a function, where the surroundings of the function no longer count. -/
def functionBlock (isAsync isGenerator : Bool) : Reader source Unit :=
  inFunction isAsync isGenerator <|
    within (fun context => { context with noConditionalType := false }) <|
      bracketed (block rules)

/-- The body of a declaration, or the end of a declaration without one. -/
def bodyOrEnd (isAsync isGenerator : Bool) : Reader source Unit := do
  if (← atMark "\x7b") then node .body (functionBlock rules isAsync isGenerator)
  else endStatement

/-- The body of an arrow function: statements in braces, or an expression. -/
def arrowBody (isAsync allowReturnType : Bool) : Reader source Unit :=
  node .body do
    if (← atMark "\x7b") then functionBlock rules isAsync false
    else
      within (fun context => { context with inAwait := isAsync })
        (rules (.assignment allowReturnType))

/-- From the name on, a function in an expression; the words before it were read from `start`. -/
def functionExpression : Reader source Unit :=
  node .functionExpression do
    let isAsync ← acceptWord "async"
    expectWord "function"
    let isGenerator ← accept "*"
    if (← atBindingIdentifier) then node .name take
    signature rules ":" isAsync isGenerator
    node .body (functionBlock rules isAsync isGenerator)

/-- A declared function. Only a default export may lack a name, and a declaration without a body
    states one of several signatures or an ambient function. -/
def functionDeclaration (start : Nat) (words : List String) : Reader source Unit := do
  expectWord "function"
  let isGenerator ← accept "*"
  if (← atBindingIdentifier) then node .name take
  else if !words.contains "default" then fail
  let isAsync := words.contains "async"
  signature rules ":" isAsync isGenerator
  bodyOrEnd rules isAsync isGenerator
  group start .functionDeclaration

/-- From the name on, an accessor of a class or object. -/
def accessor (start : Nat) (kind : NodeKind) : Reader source Unit := do
  node .name (propertyName rules)
  signature rules ":" false false
  bodyOrEnd rules false false
  group start kind

/-- From the parameters on, a method of a class or object. -/
def method (start : Nat) (words : List String) (isGenerator : Bool) : Reader source Unit := do
  let isAsync := words.contains "async"
  signature rules ":" isAsync isGenerator
  bodyOrEnd rules isAsync isGenerator
  group start .method

/-- A member of an object literal. -/
def objectMember : Reader source Unit := do
  let start ← depth
  if (← accept "...") then
    rules (.assignment true)
    group start .spread
  else
    let words ← modifiers rules false false
    if (← accessorMark "get") then accessor rules start .getAccessor
    else if (← accessorMark "set") then accessor rules start .setAccessor
    else
      let isGenerator ← accept "*"
      let isIdentifier ← atIdentifier
      node .name (propertyName rules)
      let _ ← accept "?"
      let _ ← accept "!"
      if isGenerator || (← atAnyMark ["(", "<"]) then method rules start words isGenerator
      else if isIdentifier && !(← atMark ":") then
        bracketed (initializer rules)
        group start .shorthandProperty
      else
        node .initializer do
          expect ":"
          bracketed (rules (.assignment true))
        group start .propertyAssignment

def objectLiteral : Reader source Unit :=
  node .objectLiteral do
    expect "\x7b"
    commaList "\x7d" (objectMember rules)
    expect "\x7d"

/-- The name of a constructor: the word, or a literal that spells it before a parenthesis. -/
def atConstructorName : Reader source Bool := do
  if (← atWord "constructor") then return true
  let spelled ← asks fun next =>
    next.kind == .string && literalValue next.value.toList == "constructor"
  return spelled && (← followedBy (atMark "("))

/-- A member of a class that is no function: a name with a type and an initial value. -/
def propertyRest (start : Nat) : Reader source Unit := do
  if (← onSameLine) then
    let _ ← accept "!"
  typeClause rules
  inFunction false false <|
    within (fun context => { context with noIn := false }) (initializer rules)
  endStatement
  group start .propertyDeclaration

def classMember : Reader source Unit := do
  let start ← depth
  if (← accept ";") then pure ()
  else
    let words ← modifiers rules true true
    if (← atWord "static") && (← followedBy (atMark "\x7b")) then
      take
      inFunction true false (bracketed (block rules))
      group start .staticBlock
    else if (← accessorMark "get") then accessor rules start .getAccessor
    else if (← accessorMark "set") then accessor rules start .setAccessor
    else if (← atConstructorName) then
      take
      signature rules ":" false false
      bodyOrEnd rules false false
      group start .constructor
    else if (← startsIndexSignature) then indexSignature rules start
    else
      let isGenerator ← accept "*"
      node .name (propertyName rules)
      let isOptional ← accept "?"
      if isGenerator || (← atAnyMark ["(", "<"]) then method rules start words isGenerator
      else if isOptional then
        typeClause rules
        inFunction false false <|
          within (fun context => { context with noIn := false }) (initializer rules)
        endStatement
        group start .propertyDeclaration
      else propertyRest rules start

/-- The clauses that name what a class or interface builds on. -/
def heritage : Reader source Unit :=
  loop do
    if (← atAnyWord ["extends", "implements"]) then
      node .heritage do
        take
        commaList "\x7b" do
          rules .leftHandSide
          if (← atAnyMark ["<", "<<"]) then typeArguments rules
      return true
    else return false

/-- From the keyword on, a class. A clause that follows the keyword directly is no name. -/
def classTail (start : Nat) (kind : NodeKind) : Reader source Unit := do
  expectWord "class"
  let clause ← if (← atWord "implements") then followedBy (atKind .name) else pure false
  if !clause && (← atBindingIdentifier) then node .name take
  typeParameters rules
  heritage rules
  expect "\x7b"
  loop do
    if (← atMark "\x7d") then return false
    classMember rules
    return true
  expect "\x7d"
  group start kind

end NamedParams.Source.Grammar
