import NamedParams.Source.Decorators

namespace NamedParams.Source

open NamedParams.Text

/-- Which constructs are functions, and of which kind. -/
def functionKind? : NodeKind → Option FunctionKind
  | .functionDeclaration | .functionExpression | .arrowFunction => some .functionLiteral
  | .constructor => some .constructor
  | .method | .getAccessor | .setAccessor => some .method
  | _ => none

/-- What the name of a function takes from its surroundings: the name that its value is bound to,
    and the class that it is directly a member of. -/
structure Surroundings where
  bound : Option String
  owner : Option String
deriving DecidableEq, Repr, Inhabited

def Surroundings.none : Surroundings := ⟨Option.none, Option.none⟩

/-- The surroundings of the children of a node. An initializer stands in those of the declaration
    that it belongs to. -/
def Surroundings.inside (surroundings : Surroundings) (tree : Tree) : Surroundings :=
  match tree with
  | .leaf _ => .none
  | .node kind _ =>
    match kind with
    | .variableDeclaration | .propertyAssignment => ⟨roleText? .name tree, Option.none⟩
    | .propertyDeclaration => ⟨roleText? .name tree, surroundings.owner⟩
    | .classDeclaration => ⟨Option.none, roleText? .name tree⟩
    | .initializer => surroundings
    | _ => .none

def anonymousName : String := "<anonymous>"

/-- The name under which a function is reported: its own, or the one that an arrow function or
    function expression is bound to, after the name of its class. -/
def functionName (surroundings : Surroundings) (kind : NodeKind) (tree : Tree) : String :=
  let own := if kind = .constructor then some "constructor" else roleText? .name tree
  let bound :=
    if kind = .arrowFunction || kind = .functionExpression then surroundings.bound
    else Option.none
  match own.or bound with
  | Option.none => anonymousName
  | some name =>
    match surroundings.owner with
    | Option.none => name
    | some owner => owner ++ "." ++ name

/-- Only an unequal sign between two conditions, parentheses, names and null are told apart. -/
def condition : Tree → Condition
  | .leaf token =>
    if token.isIdentifier then .identifier token.name
    else if token.kind = .name && token.name == "null" then .nullLiteral
    else .other
  | .node .parenthesized [_, inner, _] => .parenthesized (condition inner)
  | .node .binary [left, .leaf operator, right] =>
    if operator.isMark "!=" then .notEqual (condition left) (condition right) else .other
  | _ => .other

/-- Only a single token becomes an identifier or null. -/
theorem condition_node (kind : NodeKind) (children : List Tree) :
    (∃ inner, condition (.node kind children) = .parenthesized inner) ∨
      (∃ left right, condition (.node kind children) = .notEqual left right) ∨
      condition (.node kind children) = .other := by
  unfold condition
  split
  · rename_i htree
    cases htree
  · exact .inl ⟨_, rfl⟩
  · split
    · exact .inr (.inl ⟨_, _, rfl⟩)
    · exact .inr (.inr rfl)
  · exact .inr (.inr rfl)

/-- The arguments of a call. -/
def callArguments (call : Tree) : List Tree :=
  ((call.child? .arguments).map Tree.children).getD [] |>.filter fun tree => !tree.isMark

/-- A statement is an assertion when it is a call of an assertion function with an argument. -/
def statement (assertionFunctions : List String) : Tree → Statement
  | .node .expressionStatement (.node .call (target :: rest) :: _) =>
    match callArguments (.node .call (target :: rest)) with
    | [] => .other
    | first :: _ =>
      if assertionFunctions.contains target.displayText then .assertion (condition first)
      else .other
  | _ => .other

/-- The statements of a block: all but its braces. -/
def blockStatements (block : Tree) : List Tree :=
  block.children.filter fun tree => !tree.isMark

def functionBody (assertionFunctions : List String) (tree : Tree) : Option Body :=
  (tree.content? .body).map fun body =>
    if body.isNode .block then .block ((blockStatements body).map (statement assertionFunctions))
    else .expression

def decoratorsOf (tree : Tree) : List Decorator :=
  (tree.children.filter (Tree.isNode .decorator)).map Decorator.mk

/-- A name that an object pattern binds, unless it collects the remaining properties. -/
def elementName? (element : Tree) : Option Token :=
  if element.isNode .bindingElement && !element.children.any (Tree.isMarkOf "...") then
    match element.content? .name with
    | some (.leaf token) => if token.kind = .name then some token else none
    | _ => none
  else none

/-- The parameters that one parameter of the source stands for: itself, or the names that its
    object pattern binds. -/
def parametersOf (text : List Char) (parameter : Tree) : List (Parameter Decorator) :=
  let decorations := (decoratorsOf parameter).map fun decorator => ⟨decorator, decorator.text⟩
  match parameter.content? .name with
  | some (.leaf token) =>
    if token.kind = .name then
      [{ name := token.name
         kind := .positional
         hasDefault := (parameter.child? .initializer).isSome
         decorations
         position := positionAt text token.start }]
    else []
  | some (.node .objectPattern elements) =>
    elements.filterMap fun element =>
      (elementName? element).map fun token =>
        { name := token.name
          kind := .named
          hasDefault := (element.child? .initializer).isSome
          decorations
          position := positionAt text token.start }
  | _ => []

def functionParameters (text : List Char) (tree : Tree) : List (Parameter Decorator) :=
  ((tree.child? .parameters).map Tree.children).getD [] |>.filter (Tree.isNode .parameter)
    |>.flatMap (parametersOf text)

mutual

/-- The functions in a tree that are inside no other function of it. -/
def functionsIn (assertionFunctions : List String) (text : List Char)
    (surroundings : Surroundings) : Tree → List (FunctionNode Decorator)
  | .leaf _ => []
  | .node kind children =>
    let inside := functionsInAll assertionFunctions text
      (surroundings.inside (.node kind children)) children
    match functionKind? kind with
    | none => inside
    | some functionKind =>
      [.mk functionKind (some (functionName surroundings kind (.node kind children)))
        (functionParameters text (.node kind children))
        (functionBody assertionFunctions (.node kind children)) inside]

def functionsInAll (assertionFunctions : List String) (text : List Char)
    (surroundings : Surroundings) : List Tree → List (FunctionNode Decorator)
  | [] => []
  | tree :: rest =>
    functionsIn assertionFunctions text surroundings tree ++
      functionsInAll assertionFunctions text surroundings rest

end

/-- The functions of a file, those inside another one as its children. -/
def SourceFile.functions (file : SourceFile) (assertionFunctions : List String) :
    List (FunctionNode Decorator) :=
  functionsInAll assertionFunctions file.text .none file.statements

end NamedParams.Source
