import NamedParams.Source.Grammar.Binding

namespace NamedParams.Source.Grammar

open Reader

variable {source : List Char} (rules : Rules source)

/-- The words that can start a type although they are reserved. -/
def reservedTypeWords : List String :=
  ["void", "null", "this", "typeof", "new", "true", "false", "import", "function"]

/-- After an opening parenthesis: whether what follows belongs to a type. -/
def startsParenthesizedType : Reader source Bool := do
  if (← atMark ")") || (← atMark "...") || (← atAnyMark ["[", "\x7b", "<", "|", "&", "?", "!", "*"])
  then return true
  if (← atKind .string) || (← atKind .number) || (← asks fun next => next.startsTemplate) then
    return true
  if (← atMark "@") || (← atAnyWord reservedTypeWords) then return true
  atIdentifier

/-- Whether the next token can start a type. -/
def startsType : Reader source Bool := do
  if (← atAnyMark ["\x7b", "[", "<", "|", "&", "*", "?", "!", "..."]) then return true
  if (← atKind .string) || (← atKind .number) || (← asks fun next => next.startsTemplate) then
    return true
  if (← atMark "-") then return ← followedBy (atKind .number)
  if (← atMark "(") then return ← followedBy startsParenthesizedType
  if (← atAnyWord reservedTypeWords) then return true
  atIdentifier

/-- A dotted name, where every part may be a reserved word. -/
def entityName : Reader source Unit := do
  anyName
  loop do
    if (← atMark ".") then
      take
      if (← atNameLike) then take else fail
      return true
    else return false

/-- Type arguments between angle brackets, where two opening brackets in a row are two marks. -/
def typeArguments : Reader source Unit := do
  if (← atAnyMark ["<<", "<<="]) then reread .openingAngle
  node .typeArguments do
    expect "<"
    commaList ">" (rules .type)
    expect ">"

def optionalTypeArguments : Reader source Unit := do
  if (← onSameLine) && (← atAnyMark ["<", "<<"]) then typeArguments rules

def typeReference : Reader source Unit := do
  entityName
  optionalTypeArguments rules

/-- The return type of a function: a type, or a condition on a parameter. -/
def typeOrPredicate : Reader source Unit := do
  if (← atIdentifier) && (← followedBy (do return (← atWord "is") && (← onSameLine))) then
    take
    take
  rules .type

def returnType (mark : String) : Reader source Unit := do
  if (← atMark mark) then
    node .typeClause do
      take
      typeOrPredicate rules

/-- A member of a type ends at a comma or where a statement could end. -/
def endTypeMember : Reader source Unit := do
  if (← accept ",") then pure () else endStatement

/-- Whether an opening parenthesis starts the parameters of a function type. -/
def startsFunctionType : Reader source Bool :=
  looksAt do
    expect "("
    if (← atMark ")") || (← atMark "...") then return true
    let _ ← plainModifiers false
    if (← atIdentifier) || (← atWord "this") then take
    else if (← atMark "[") || (← atMark "\x7b") then rules .bindingTarget
    else fail
    if (← atAnyMark [":", ",", "?", "="]) then return true
    if (← accept ")") then return ← atMark "=>"
    return false

/-- An index signature: a parameter in brackets, which tells it from a computed name. -/
def startsIndexSignature : Reader source Bool :=
  looksAt do
    expect "["
    if (← atMark "...") || (← atMark "]") then return true
    if (← atAnyWord modifierWords) && (← followedBy atIdentifier) then return true
    identifier
    if (← atAnyMark [":", ","]) then return true
    expect "?"
    atAnyMark [":", ",", "]"]

def indexSignature (start : Nat) : Reader source Unit := do
  expect "["
  commaList "]" (parameter rules)
  expect "]"
  typeClause rules
  endTypeMember
  group start .indexSignature

/-- The parameters and the return type of a function or signature. -/
def signature (mark : String) (isAsync isGenerator : Bool) : Reader source Unit := do
  typeParameters rules
  parameters rules isAsync isGenerator
  returnType rules mark

/-- A member of an interface or object type. Only accessors are functions; methods and calls are
    signatures. -/
def typeMember : Reader source Unit := do
  let start ← depth
  if (← atAnyMark ["(", "<"]) then
    signature rules ":" false false
    endTypeMember
    group start .typeMember
  else if (← atWord "new") && (← followedBy (atAnyMark ["(", "<"])) then
    take
    signature rules ":" false false
    endTypeMember
    group start .typeMember
  else
    let _ ← plainModifiers false
    if (← accessorMark "get") then
      node .name (propertyName rules)
      signature rules ":" false false
      endTypeMember
      group start .getAccessor
    else if (← accessorMark "set") then
      node .name (propertyName rules)
      signature rules ":" false false
      endTypeMember
      group start .setAccessor
    else if (← startsIndexSignature) then
      indexSignature rules start
    else
      node .name (propertyName rules)
      let _ ← accept "?"
      if (← atAnyMark ["(", "<"]) then signature rules ":" false false
      else
        typeClause rules
        initializer rules
      endTypeMember
      group start .typeMember

/-- The members of an interface or object type, in braces. -/
def typeMembers : Reader source Unit := do
  expect "\x7b"
  loop do
    if (← atMark "\x7d") then return false
    typeMember rules
    return true
  expect "\x7d"

/-- Whether a brace starts a mapped type, whose only member ranges over keys. -/
def startsMappedType : Reader source Bool :=
  looksAt do
    expect "\x7b"
    if (← atAnyMark ["+", "-"]) then
      take
      return ← atWord "readonly"
    let _ ← acceptWord "readonly"
    expect "["
    identifier
    atWord "in"

def mappedType : Reader source Unit := do
  expect "\x7b"
  if (← atAnyMark ["+", "-"]) then take
  let _ ← acceptWord "readonly"
  expect "["
  identifier
  expectWord "in"
  rules .type
  if (← acceptWord "as") then rules .type
  expect "]"
  if (← atAnyMark ["+", "-"]) then take
  let _ ← accept "?"
  if (← accept ":") then rules .type
  endStatement
  loop do
    if (← atMark "\x7d") then return false
    typeMember rules
    return true
  expect "\x7d"

/-- An element of a tuple type, which may have a name and may be optional. -/
def tupleElement : Reader source Unit := do
  let named ← looksAt do
    let _ ← accept "..."
    anyName
    let _ ← accept "?"
    atMark ":"
  let _ ← accept "..."
  if named then
    take
    let _ ← accept "?"
    expect ":"
  rules .type

/-- A template in a type or expression: pieces of text around substitutions. -/
def templateParts (part : Reader source Unit) : Reader source Unit := do
  take
  loop do
    part
    if !(← atMark "\x7d") then fail
    else
      reread .templateRest
      let more ← atKind .templateMiddle
      take
      return more

def importType : Reader source Unit := do
  let _ ← acceptWord "typeof"
  expectWord "import"
  expect "("
  rules .type
  if (← accept ",") then
    if (← atMark "\x7b") then rules (.assignment true)
    let _ ← accept ","
  expect ")"
  if (← accept ".") then
    anyName
    loop do
      if (← accept ".") then
        anyName
        return true
      else return false
  optionalTypeArguments rules

def primaryType : Reader source Unit := do
  if (← atKind .string) || (← atKind .number) || (← atKind .template) then take
  else if (← atKind .templateHead) then templateParts (rules .type)
  else if (← atMark "-") then
    take
    if (← atKind .number) then take else fail
  else if (← atAnyWord ["true", "false", "null", "void"]) then take
  else if (← atMark "*") then take
  else if (← atAnyMark ["?", "!"]) then
    take
    if (← startsType) then rules .type
  else if (← atWord "this") then
    take
    if (← onSameLine) && (← atWord "is") then
      take
      rules .type
  else if (← atWord "import") then importType rules
  else if (← atWord "typeof") then
    if (← followedBy (atWord "import")) then importType rules
    else
      take
      entityName
      optionalTypeArguments rules
  else if (← atWord "asserts") &&
      (← followedBy (do return ((← atIdentifier) || (← atWord "this")) && (← onSameLine))) then
    take
    take
    if (← acceptWord "is") then rules .type
  else if (← atWord "function") then
    take
    parameters rules false false
    returnType rules ":"
  else if (← atMark "\x7b") then
    if (← startsMappedType) then mappedType rules else typeMembers rules
  else if (← atMark "[") then
    take
    commaList "]" (tupleElement rules)
    expect "]"
  else if (← atMark "(") then
    take
    rules .type
    expect ")"
  else typeReference rules

/-- A type with what can follow it on the same line: brackets for arrays and indexed types, and
    marks for types that may be absent. -/
def postfixType : Reader source Unit :=
  within (fun context => { context with noConditionalType := false }) do
    node .type (primaryType rules)
    loop do
      if !(← onSameLine) then return false
      if (← atMark "!") then
        take
        return true
      if (← atMark "?") then
        if (← followedBy startsType) then return false
        take
        return true
      if (← accept "[") then
        if !(← atMark "]") then rules .type
        expect "]"
        return true
      return false

/-- The constraint of an inferred type belongs to it unless it turns out to be the test of a
    conditional type. -/
def inferredConstraint : Reader source Unit := do
  expectWord "extends"
  within (fun context => { context with noConditionalType := true }) (rules .type)
  if !(← context fun context => context.noConditionalType) && (← atMark "?") then fail

/-- A type under any number of operators. -/
def operatorType : Nat → Reader source Unit
  | 0 => fail
  | count + 1 => do
    if (← atAnyWord ["keyof", "unique", "readonly"]) &&
        (← followedBy startsType) then
      take
      operatorType count
    else if (← atWord "infer") && (← followedBy atIdentifier) then
      take
      take
      let _ ← attempt (inferredConstraint rules)
    else postfixType rules

def startsConstructorType : Reader source Bool := do
  if (← atWord "new") then return true
  return (← atWord "abstract") && (← followedBy (atWord "new"))

def functionType : Reader source Unit := do
  let _ ← acceptWord "abstract"
  let _ ← acceptWord "new"
  typeParameters rules
  parameters rules false false
  if (← atMark "=>") then returnType rules "=>" else fail

/-- A part of a union or intersection. -/
def constituentType : Reader source Unit := do
  if (← atMark "<") || (← startsConstructorType) || (← startsFunctionType rules) then
    functionType rules
  else operatorType rules (← context fun context => context.limit)

/-- Types joined by intersection and union signs, either of which may also come first. -/
def unionType : Reader source Unit := do
  let _ ← accept "|"
  let _ ← accept "&"
  constituentType rules
  loop do
    if (← atAnyMark ["|", "&"]) then
      take
      constituentType rules
      return true
    else return false

/-- A type: a function type, or a union with an optional condition. -/
def type : Reader source Unit :=
  node .type <| inFunction false false do
    if (← atMark "<") || (← startsConstructorType) || (← startsFunctionType rules) then
      functionType rules
    else
      unionType rules
      let conditional ← context fun context => !context.noConditionalType
      if conditional && (← onSameLine) && (← acceptWord "extends") then
        within (fun context => { context with noConditionalType := true }) (rules .type)
        expect "?"
        within (fun context => { context with noConditionalType := false }) (rules .type)
        expect ":"
        within (fun context => { context with noConditionalType := false }) (rules .type)

end NamedParams.Source.Grammar
