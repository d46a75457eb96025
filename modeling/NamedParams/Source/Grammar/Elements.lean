import NamedParams.Source.Grammar.Types

namespace NamedParams.Source.Grammar

open Reader

variable {source : List Char} (rules : Rules source)

/-- A name in an element, which may contain hyphens and a namespace. -/
def elementName : Reader source Unit := do
  if (← atKind .name) then
    reread .elementName
    take
    if (← accept ":") then
      reread .elementName
      take
  else fail

/-- The name of an element: a name, or a member of an object. -/
def elementTag : Reader source Unit := do
  elementName
  loop do
    if (← accept ".") then
      elementName
      return true
    else return false

/-- An expression in braces among the attributes or children of an element. A comment alone is
    allowed among the children. -/
def elementExpression : Reader source Unit := do
  expect "\x7b"
  let _ ← accept "..."
  if !(← atMark "\x7d") then bracketed (rules .expression)

def elementAttribute : Reader source Unit :=
  node .elementAttribute do
    if (← atMark "\x7b") then
      elementExpression rules
      expect "\x7d"
    else
      elementName
      if (← accept "=") then
        if (← atMark "\x7b") then
          elementExpression rules
          expect "\x7d"
        else if (← atMark "<") then rules .element
        else if (← asks fun next => next.kind == .string) then
          reread .elementString
          take
        else fail

def elementAttributes : Reader source Unit :=
  loop do
    if (← atMark "\x7b") || (← atKind .name) then
      elementAttribute rules
      return true
    else return false

/-- Text, expressions and elements up to the closing tag. The text between them is read
    character by character, without trivia. -/
def elementChildren : Reader source Unit := do
  reread .elementChild
  loop do
    if (← atKind .jsxText) then
      take
      reread .elementChild
      return true
    else if (← atMark "\x7b") then
      node .elementExpression do
        elementExpression rules
        expect "\x7d"
      reread .elementChild
      return true
    else if (← atMark "<") then
      rules .element
      reread .elementChild
      return true
    else return false

/-- An element with its closing tag, an element that closes itself, or a fragment. -/
def element : Reader source Unit :=
  node .element do
    expect "<"
    if (← accept ">") then
      elementChildren rules
      expect "</"
      expect ">"
    else
      elementTag
      if (← context fun context => context.dialect.types) && (← atAnyMark ["<", "<<"]) then
        typeArguments rules
      elementAttributes rules
      if (← accept "/") then expect ">"
      else
        expect ">"
        elementChildren rules
        expect "</"
        elementTag
        expect ">"

end NamedParams.Source.Grammar
