import NamedParams.Model
import NamedParams.Source.Imports

namespace NamedParams.Source

/-- A decorator with the expression after its sign. -/
structure Decorator where
  tree : Tree
deriving Inhabited

namespace Decorator

def expression (decorator : Decorator) : Tree :=
  decorator.tree.children.getLastD decorator.tree

def text (decorator : Decorator) : String :=
  decorator.tree.displayText

end Decorator

/-- A call refers to what it calls. -/
def callee : Tree → Tree
  | .node .call (target :: _) => target
  | tree => tree

/-- The member of a library that an expression refers to through the imports of its file: an
    imported name, or a member of an imported module. -/
def ImportIndex.resolveExpression (index : ImportIndex) : Tree → Option LibraryMember
  | .leaf token =>
    if token.isIdentifier then
      (index.get? token.name).bind fun binding =>
        binding.imported.exportedName?.map fun name => ⟨binding.module, name⟩
    else none
  | .node .propertyAccess [.leaf target, .leaf _, .leaf member] =>
    if target.isIdentifier then
      (index.get? target.name).bind fun binding =>
        if binding.imported = .module then some ⟨binding.module, member.displayName⟩ else none
    else none
  | _ => none

/-- The member of a library that a decorator refers to. One call is looked through. -/
def ImportIndex.resolve (index : ImportIndex) (decorator : Decorator) : Option LibraryMember :=
  index.resolveExpression (callee decorator.expression)

mutual

/-- All decorators in a tree, in source order, each before those inside it. -/
def decoratorsIn : Tree → List Decorator
  | .leaf _ => []
  | .node kind children =>
    if kind = .decorator then ⟨.node kind children⟩ :: decoratorsInAll children
    else decoratorsInAll children

def decoratorsInAll : List Tree → List Decorator
  | [] => []
  | tree :: rest => decoratorsIn tree ++ decoratorsInAll rest

end

def SourceFile.decorators (file : SourceFile) : List Decorator :=
  decoratorsInAll file.statements

end NamedParams.Source
