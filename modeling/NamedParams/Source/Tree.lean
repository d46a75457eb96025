import NamedParams.Source.Token

namespace NamedParams.Source

/-- The constructs of the language that the tree tells apart. Some stand for the role that a
    part plays in its parent: a name, an initializer, a body. -/
inductive NodeKind where
  | file
  -- functions and their parts
  | functionDeclaration
  | functionExpression
  | arrowFunction
  | constructor
  | method
  | getAccessor
  | setAccessor
  | typeParameters
  | parameters
  | parameter
  | decorator
  | name
  | body
  | initializer
  | typeClause
  -- binding patterns
  | objectPattern
  | arrayPattern
  | bindingElement
  | propertyKey
  -- classes and objects
  | classDeclaration
  | classExpression
  | heritage
  | propertyDeclaration
  | staticBlock
  | indexSignature
  | objectLiteral
  | propertyAssignment
  | shorthandProperty
  | computedName
  -- expressions
  | call
  | arguments
  | typeArguments
  | propertyAccess
  | elementAccess
  | nonNull
  | instantiation
  | taggedTemplate
  | templateExpression
  | parenthesized
  | arrayLiteral
  | spread
  | newExpression
  | metaProperty
  | unary
  | postfixUnary
  | binary
  | conditional
  | typeConversion
  | yieldExpression
  -- statements
  | block
  | expressionStatement
  | variableStatement
  | variableDeclaration
  | labeledStatement
  | statement
  | caseClause
  | catchClause
  | interfaceDeclaration
  | typeAlias
  | enumDeclaration
  | enumMember
  | moduleDeclaration
  -- imports and exports
  | importDeclaration
  | importEquals
  | typeOnly
  | defaultImport
  | namespaceImport
  | namedImports
  | importSpecifier
  | moduleSpecifier
  | importAttributes
  | exportDeclaration
  -- types
  | type
  | typeMember
  -- elements
  | element
  | elementAttribute
  | elementExpression
  -- what is no part of any construct
  | stray
deriving DecidableEq, Repr, Inhabited

/-- A syntax tree that loses nothing: its leaves are all tokens of the text, in order. -/
inductive Tree where
  | leaf (token : Token)
  | node (kind : NodeKind) (children : List Tree)
deriving Inhabited

namespace Tree

mutual

/-- The tokens of a tree, from left to right. -/
def tokens : Tree → List Token
  | .leaf token => [token]
  | .node _ children => tokensOf children

/-- The tokens of several trees side by side. -/
def tokensOf : List Tree → List Token
  | [] => []
  | tree :: rest => tree.tokens ++ tokensOf rest

end

@[simp] theorem tokens_leaf (token : Token) : (Tree.leaf token).tokens = [token] := by
  simp [tokens]

@[simp] theorem tokens_node (kind : NodeKind) (children : List Tree) :
    (Tree.node kind children).tokens = tokensOf children := by
  simp [tokens]

@[simp] theorem tokensOf_nil : tokensOf [] = [] := by
  simp [tokensOf]

@[simp] theorem tokensOf_cons (tree : Tree) (rest : List Tree) :
    tokensOf (tree :: rest) = tree.tokens ++ tokensOf rest := by
  simp [tokensOf]

@[simp] theorem tokensOf_append (a b : List Tree) :
    tokensOf (a ++ b) = tokensOf a ++ tokensOf b := by
  induction a with
  | nil => simp
  | cons tree rest ih => simp [ih, List.append_assoc]

/-- The children of a node; a leaf has none. -/
def children : Tree → List Tree
  | .leaf _ => []
  | .node _ children => children

/-- Whether a tree is a node of the given kind. -/
def isNode (kind : NodeKind) : Tree → Bool
  | .leaf _ => false
  | .node other _ => other = kind

/-- The first child of the given kind. -/
def child? (kind : NodeKind) (tree : Tree) : Option Tree :=
  tree.children.find? (isNode kind)

/-- The only content of a node that stands for a role, such as the name in a name node. -/
def content? (kind : NodeKind) (tree : Tree) : Option Tree :=
  (tree.child? kind).bind fun role => role.children.head?

/-- Whether a tree is an operator or punctuation mark. -/
def isMark : Tree → Bool
  | .leaf token => token.kind = .mark
  | .node _ _ => false

/-- Whether a tree is the operator or punctuation mark with this spelling. -/
def isMarkOf (spelling : String) : Tree → Bool
  | .leaf token => token.isMark spelling
  | .node _ _ => false

/-- The spelling of a list of tokens, where only the first one loses the trivia before it. -/
def spell : List Token → List Char
  | [] => []
  | first :: rest => first.text ++ rest.flatMap fun token => token.trivia ++ token.text

/-- The source text of a tree, without the white space and comments before it. -/
def text (tree : Tree) : List Char :=
  spell tree.tokens

/-- The text that stands for a tree in reports: the name that an identifier spells, else its
    source text. -/
def displayText : Tree → String
  | .leaf token => token.displayName
  | tree => String.ofList tree.text

end Tree

end NamedParams.Source
