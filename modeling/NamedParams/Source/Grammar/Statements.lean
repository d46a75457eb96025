import NamedParams.Source.Grammar.Expressions

namespace NamedParams.Source.Grammar

open Reader

variable {source : List Char} (rules : Rules source)

/-- Whether a name or pattern that a declaration can bind is next. -/
def startsBinding : Reader source Bool := do
  return (← atBindingIdentifier) || (← atAnyMark ["\x7b", "["])

/-- `using` declares a resource when a name follows it on the same line. -/
def startsUsing : Reader source Bool := do
  if !(← atWord "using") then return false
  followedBy do
    return (← onSameLine) && ((← atBindingIdentifier) || (← atMark "\x7b"))

def startsAwaitUsing : Reader source Bool := do
  if !(← atWord "await") then return false
  followedBy do
    return (← onSameLine) && (← startsUsing)

def variableDeclaration : Reader source Unit :=
  node .variableDeclaration do
    node .name (rules .bindingTarget)
    if (← onSameLine) then
      let _ ← accept "!"
    typeClause rules
    initializer rules

/-- The keyword of a variable declaration and what it declares. -/
def variableDeclarations : Reader source Unit := do
  if (← acceptWord "await") then take else take
  if (← atWord "of") && (← followedBy (do return (← atIdentifier) && (← followedBy (atMark ")"))))
  then pure ()
  else
    loop do
      variableDeclaration rules
      accept ","

def variableStatement (start : Nat) : Reader source Unit := do
  within (fun context => { context with noIn := false }) (variableDeclarations rules)
  endStatement
  group start .variableStatement

def parenthesizedExpression : Reader source Unit := do
  expect "("
  bracketed (rules .expression)
  expect ")"

/-- An expression up to the end of the statement, where one may stand. -/
def optionalExpression : Reader source Unit := do
  if !(← canEndStatement) then bracketed (rules .expression)
  endStatement

/-- The head of a loop over values or keys, or with a condition, and the statement that it
    repeats. -/
def forStatement : Reader source Unit := do
  expectWord "for"
  let _ ← acceptWord "await"
  expect "("
  if !(← atMark ";") then
    if (← atAnyWord ["var", "let", "const"]) || (← startsAwaitUsing) ||
        ((← startsUsing) && !(← followedBy (atWord "of"))) then
      within (fun context => { context with noIn := true })
        (node .variableStatement (variableDeclarations rules))
    else within (fun context => { context with noIn := true }) (rules .expression)
  if (← acceptWord "of") then bracketed (rules (.assignment true))
  else if (← acceptWord "in") then bracketed (rules .expression)
  else
    expect ";"
    if !(← atMark ";") then bracketed (rules .expression)
    expect ";"
    if !(← atMark ")") then bracketed (rules .expression)
  expect ")"
  rules .statement

def caseClause : Reader source Unit :=
  node .caseClause do
    if (← acceptWord "default") then pure ()
    else
      expectWord "case"
      bracketed (rules .expression)
    expect ":"
    loop do
      if (← atMark "\x7d") || (← atAnyWord ["case", "default"]) then return false
      rules .statement
      return true

def catchClause : Reader source Unit :=
  node .catchClause do
    expectWord "catch"
    if (← accept "(") then
      variableDeclaration rules
      expect ")"
    block rules

/-- A statement that starts with a reserved word of its own. -/
def controlStatement : Reader source Unit := do
  if (← acceptWord "if") then
    parenthesizedExpression rules
    rules .statement
    if (← acceptWord "else") then rules .statement
  else if (← acceptWord "do") then
    rules .statement
    expectWord "while"
    parenthesizedExpression rules
    let _ ← accept ";"
  else if (← acceptWord "while") || (← acceptWord "with") then
    parenthesizedExpression rules
    rules .statement
  else if (← atWord "for") then forStatement rules
  else if (← acceptWord "continue") || (← acceptWord "break") then
    if !(← canEndStatement) then identifier
    endStatement
  else if (← acceptWord "return") || (← acceptWord "throw") then optionalExpression rules
  else if (← acceptWord "switch") then
    parenthesizedExpression rules
    expect "\x7b"
    loop do
      if (← atMark "\x7d") then return false
      caseClause rules
      return true
    expect "\x7d"
  else if (← acceptWord "try") then
    block rules
    if (← atWord "catch") then catchClause rules
    if (← acceptWord "finally") then block rules
  else if (← acceptWord "debugger") then endStatement
  else fail

def controlWords : List String :=
  ["if", "do", "while", "with", "for", "continue", "break", "return", "throw", "switch", "try",
   "debugger"]

/-- Whether a declaration starts here, looking past the modifiers before it. Most of the words
    that start one are also names, and then something else follows them. -/
def startsDeclaration : Nat → Reader source Bool
  | 0 => return false
  | count + 1 => do
    if (← atAnyWord ["var", "let", "const", "function", "class", "enum"]) then return true
    if (← atWord "using") then return ← startsUsing
    if (← atWord "await") then return ← startsAwaitUsing
    if (← atAnyWord ["interface", "type"]) then
      return ← followedBy (do return (← atIdentifier) && (← onSameLine))
    if (← atAnyWord ["module", "namespace"]) then
      return ← followedBy do
        return ((← atIdentifier) || (← atKind .string)) && (← onSameLine)
    if (← atAnyWord ["abstract", "accessor", "async", "declare", "private", "protected", "public",
        "readonly"]) then
      let declares ← atWord "declare"
      take
      if !(← onSameLine) then return false
      if declares && (← atWord "type") then return true
      return ← startsDeclaration count
    if (← acceptWord "global") then
      return (← atMark "\x7b") || (← atBindingIdentifier) || (← atWord "export")
    if (← acceptWord "import") then
      return (← atKind .string) || (← atAnyMark ["*", "\x7b"]) || (← atNameLike)
    if (← acceptWord "export") then
      let exported : Reader source Bool := do
        return (← atAnyMark ["=", "*", "\x7b", "@"]) || (← atAnyWord ["default", "as"])
      if (← exported) then return true
      if (← atWord "type") && (← followedBy exported) then return true
      return ← startsDeclaration count
    if (← acceptWord "static") then return ← startsDeclaration count
    return false

def interfaceTail (start : Nat) : Reader source Unit := do
  expectWord "interface"
  node .name bindingIdentifier
  typeParameters rules
  heritage rules
  typeMembers rules
  group start .interfaceDeclaration

def typeAliasTail (start : Nat) : Reader source Unit := do
  expectWord "type"
  node .name bindingIdentifier
  typeParameters rules
  expect "="
  rules .type
  endStatement
  group start .typeAlias

def enumTail (start : Nat) : Reader source Unit := do
  expectWord "enum"
  node .name bindingIdentifier
  expect "\x7b"
  commaList "\x7d" do
    node .enumMember do
      node .name (propertyName rules)
      bracketed (initializer rules)
  expect "\x7d"
  group start .enumDeclaration

/-- A module or namespace with its body, or an ambient module without one. -/
def moduleTail (start : Nat) : Reader source Unit := do
  if (← atWord "global") then node .name take
  else
    take
    node .name do
      if (← atKind .string) then take
      else
        identifier
        loop do
          if (← accept ".") then
            anyName
            return true
          else return false
  if (← atMark "\x7b") then bracketed (block rules) else endStatement
  group start .moduleDeclaration

/-- Attributes after a module specifier, which say how the module is to be loaded. -/
def importAttributes : Reader source Unit := do
  if (← onSameLine) && (← atAnyWord ["with", "assert"]) && (← followedBy (atMark "\x7b")) then
    node .importAttributes do
      take
      bracketed (objectLiteral rules)

def moduleSpecifier : Reader source Unit := do
  node .moduleSpecifier stringLiteral
  importAttributes rules

/-- One name in the braces of an import. The word `type` in front makes it type-only, unless it
    is itself the imported name. -/
def importSpecifier : Reader source Unit :=
  node .importSpecifier do
    let typeOnly ←
      if (← atWord "type") then
        followedBy do
          if (← acceptWord "as") then
            if (← acceptWord "as") then atKind .name
            else return !(← atKind .name)
          else atKind .name
      else pure false
    if typeOnly then node .typeOnly take
    let renamed ← followedBy (atWord "as")
    if renamed then
      node .propertyKey (do if (← atKind .string) then take else anyName)
      expectWord "as"
    node .name anyName

def namedImports : Reader source Unit :=
  node .namedImports do
    expect "\x7b"
    commaList "\x7d" importSpecifier
    expect "\x7d"

/-- What a declaration imports from a module, apart from a default import. -/
def importBindings : Reader source Unit := do
  if (← atMark "*") then
    node .namespaceImport do
      take
      expectWord "as"
      node .name bindingIdentifier
  else namedImports

/-- Whether the word `type` after `import` makes the declaration type-only. Otherwise it is the
    name of a default import. -/
def startsTypeOnlyImport : Reader source Bool := do
  if !(← atWord "type") then return false
  followedBy do
    if (← atAnyMark ["*", "\x7b"]) then return true
    if (← atWord "from") then
      return ← followedBy (do return (← atWord "from") || (← atMark "="))
    atIdentifier

/-- An import declaration, or a name for a module or for a member of a namespace. -/
def importTail (start : Nat) : Reader source Unit := do
  expectWord "import"
  if (← atKind .string) then
    moduleSpecifier rules
    endStatement
    group start .importDeclaration
  else
    if (← startsTypeOnlyImport) then node .typeOnly take
    let named ← atIdentifier
    if named && (← followedBy (atMark "=")) then
      node .name take
      take
      if (← atWord "require") && (← followedBy (atMark "(")) then
        take
        take
        moduleSpecifier rules
        expect ")"
      else entityName
      endStatement
      group start .importEquals
    else
      if named then
        node .defaultImport take
        if (← accept ",") then importBindings
      else importBindings
      expectWord "from"
      moduleSpecifier rules
      endStatement
      group start .importDeclaration

/-- One name in the braces of an export. -/
def exportSpecifier : Reader source Unit := do
  loop do
    if (← atKind .name) || (← atKind .string) then
      take
      return true
    else return false

def exportTail (start : Nat) : Reader source Unit := do
  expectWord "export"
  if (← accept "=") || (← acceptWord "default") then
    bracketed (rules (.assignment true))
    endStatement
  else if (← acceptWord "as") then
    expectWord "namespace"
    identifier
    endStatement
  else
    let _ ← acceptWord "type"
    if (← accept "*") then
      if (← acceptWord "as") then
        if (← atKind .string) then take else anyName
      expectWord "from"
      moduleSpecifier rules
    else
      expect "\x7b"
      commaList "\x7d" exportSpecifier
      expect "\x7d"
      if (← acceptWord "from") then moduleSpecifier rules
    endStatement
  group start .exportDeclaration

def declaration : Reader source Unit := do
  let start ← depth
  let words ← modifiers rules false false
  if (← atAnyWord ["var", "let", "const", "using", "await"]) then variableStatement rules start
  else if (← atWord "function") then functionDeclaration rules start words
  else if (← atWord "class") then classTail rules start .classDeclaration
  else if (← atWord "interface") then interfaceTail rules start
  else if (← atWord "type") then typeAliasTail rules start
  else if (← atWord "enum") then enumTail rules start
  else if (← atAnyWord ["global", "module", "namespace"]) then moduleTail rules start
  else if (← atWord "import") then importTail rules start
  else exportTail rules start

/-- An expression as a statement, or a statement with a label before it. -/
def expressionStatement : Reader source Unit := do
  let start ← depth
  let labeled ← do
    if (← atIdentifier) then followedBy (atMark ":") else pure false
  if labeled then
    take
    take
    rules .statement
    group start .labeledStatement
  else
    bracketed (rules .expression)
    endStatement
    group start .expressionStatement

def declarationWords : List String :=
  ["async", "interface", "type", "module", "namespace", "declare", "const", "enum", "export",
   "import", "private", "protected", "public", "abstract", "accessor", "static", "readonly",
   "global"]

def statement : Reader source Unit := do
  if (← atMark ";") then node .statement take
  else if (← atMark "\x7b") then bracketed (block rules)
  else if (← atAnyWord controlWords) then node .statement (controlStatement rules)
  else if (← atAnyWord ["var", "function", "class"]) || (← atMark "@") then declaration rules
  else if (← atWord "let") then
    if (← followedBy startsBinding) then declaration rules else expressionStatement rules
  else if (← startsUsing) || (← startsAwaitUsing) then declaration rules
  else if (← atAnyWord declarationWords) &&
      (← looksAt (startsDeclaration (declarationWords.length + modifierWords.length))) then
    declaration rules
  else expressionStatement rules

end NamedParams.Source.Grammar
