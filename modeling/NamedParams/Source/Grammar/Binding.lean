import NamedParams.Source.Grammar.Basic

namespace NamedParams.Source.Grammar

open Reader

variable {source : List Char} (rules : Rules source)

/-- The name of a property: a name, a literal, or an expression in brackets. -/
def propertyName : Reader source Unit := do
  if (← atMark "[") then
    node .computedName do
      take
      bracketed (rules .expression)
      expect "]"
  else if (← asks fun next => next.isNameLike || next.kind == .string || next.kind == .number) then
    take
  else fail

def typeClause : Reader source Unit := do
  if (← atMark ":") then
    node .typeClause do
      take
      rules .type

def initializer : Reader source Unit := do
  if (← atMark "=") then
    node .initializer do
      take
      rules (.assignment true)

/-- One part of an object pattern. Without a colon the property key is also the name. -/
def objectPatternElement : Reader source Unit :=
  node .bindingElement do
    if (← accept "...") then
      node .name (rules .bindingTarget)
    else
      let isIdentifier ← atBindingIdentifier
      let start ← depth
      propertyName rules
      if isIdentifier && !(← atMark ":") then
        group start .name
      else
        group start .propertyKey
        expect ":"
        node .name (rules .bindingTarget)
    initializer rules

def arrayPatternElement : Reader source Unit := do
  if (← atMark ",") then pure ()
  else
    node .bindingElement do
      let _ ← accept "..."
      node .name (rules .bindingTarget)
      initializer rules

/-- What a declaration binds: a name, or a pattern of names. -/
def bindingTarget : Reader source Unit := do
  if (← atMark "[") then
    node .arrayPattern do
      take
      commaList "]" (arrayPatternElement rules)
      expect "]"
  else if (← atMark "\x7b") then
    node .objectPattern do
      take
      commaList "\x7d" (objectPatternElement rules)
      expect "\x7d"
  else bindingIdentifier

/-- The words that may stand before a declaration or member. -/
def modifierWords : List String :=
  ["abstract", "accessor", "async", "const", "declare", "default", "export", "in", "public",
   "private", "protected", "readonly", "static", "out", "override"]

/-- Whether the next token can come after a modifier in its declaration. -/
def canFollowModifier : Reader source Bool :=
  asks fun next =>
    next.isMark "[" || next.isMark "\x7b" || next.isMark "*" || next.isMark "..." ||
      next.isNameLike || next.kind == .string || next.kind == .number

/-- Most words are modifiers only of what is on their own line. -/
def canFollowOnSameLine : Reader source Bool := do
  return (← onSameLine) && (← canFollowModifier)

/-- Whether the next token can come after `default` in a declaration with a name of its own. -/
def canFollowDefault : Reader source Bool := do
  if (← atAnyWord ["class", "function", "interface"]) || (← atMark "@") then return true
  if (← atWord "abstract") then
    return ← followedBy (do return (← atWord "class") && (← onSameLine))
  if (← atWord "async") then
    return ← followedBy (do return (← atWord "function") && (← onSameLine))
  return false

def canFollowExport : Reader source Bool := do
  if (← atMark "@") then return true
  if (← atMark "*") || (← atWord "as") || (← atMark "\x7b") then return false
  canFollowModifier

/-- A word is a modifier only if what comes after it can follow one; otherwise it is a name. -/
def modifier (constAllowed : Bool) : Reader source String := do
  let word ← asks fun next => if next.kind == .name then next.value else ""
  if !modifierWords.contains word then fail
  else
    take
    let follows ←
      if word == "const" && !constAllowed then atWord "enum"
      else if word == "export" then
        if (← atWord "default") then followedBy canFollowDefault
        else if (← atWord "type") then followedBy canFollowExport
        else canFollowExport
      else if word == "default" then canFollowDefault
      else if word == "static" then canFollowModifier
      else canFollowOnSameLine
    if follows then return word else fail

/-- An accessor mark is `get` or `set` before the name of a member. -/
def accessorMark (word : String) : Reader source Bool :=
  attempt do
    expectWord word
    if (← canFollowModifier) then pure () else fail

def decorator : Reader source Unit :=
  node .decorator do
    expect "@"
    within (fun context => { context with inDecorator := true }) (rules .leftHandSide)

def decorators : Reader source Unit :=
  loop do
    if (← atMark "@") then
      decorator rules
      return true
    else return false

/-- Reads modifiers for as long as they come, and puts them after those known before. -/
def modifierRun (constAllowed inClass : Bool) : Nat → List String → Reader source (List String)
  | 0, words => pure words
  | count + 1, words => do
    if inClass && (← atWord "static") && (← followedBy (atMark "\x7b")) then return words
    if words.contains "static" && (← atWord "static") then return words
    match (← ahead? (modifier constAllowed)) with
    | none => return words
    | some word =>
      let _ ← modifier constAllowed
      modifierRun constAllowed inClass count (words ++ [word])

/-- Decorators and modifiers, which may come in either order; the words of the modifiers. -/
def modifiers (constAllowed inClass : Bool) : Reader source (List String) := do
  decorators rules
  let words ← modifierRun constAllowed inClass (modifierWords.length + 1) []
  if words.isEmpty then return words
  if (← atMark "@") then
    decorators rules
    modifierRun constAllowed inClass (modifierWords.length + 1) words
  else return words

/-- Modifiers where no decorators can stand. -/
def plainModifiers (constAllowed : Bool) : Reader source (List String) :=
  modifierRun constAllowed false (modifierWords.length + 1) []

def parameter : Reader source Unit :=
  node .parameter do
    let _ ← modifiers rules false false
    if (← atWord "this") then
      node .name take
      typeClause rules
    else
      let _ ← accept "..."
      node .name (rules .bindingTarget)
      let _ ← accept "?"
      typeClause rules
      initializer rules

/-- Parameters between parentheses. -/
def parameters (isAsync isGenerator : Bool) : Reader source Unit :=
  node .parameters do
    expect "("
    inFunction isAsync isGenerator (commaList ")" (parameter rules))
    expect ")"

def typeParameter : Reader source Unit := do
  let _ ← plainModifiers true
  bindingIdentifier
  if (← acceptWord "extends") then rules .type
  if (← accept "=") then rules .type

def typeParameters : Reader source Unit := do
  if (← atMark "<") then
    node .typeParameters do
      take
      commaList ">" (typeParameter rules)
      expect ">"

end NamedParams.Source.Grammar
