import NamedParams.Source.File

namespace NamedParams.Source

/-- What a local name stands for in the module that it is imported from. -/
inductive Imported where
  | module
  | default
  | member (name : String)
deriving DecidableEq, Repr, Inhabited

/-- The name under which the module exports what is imported; the whole module has none. -/
def Imported.exportedName? : Imported → Option String
  | .module => none
  | .default => some "default"
  | .member name => some name

/-- A local name that an import binds. -/
structure ImportBinding where
  localName : String
  module : String
  imported : Imported
deriving DecidableEq, Repr, Inhabited

/-- The text of the only content of a node that stands for a role. -/
def roleText? (kind : NodeKind) (tree : Tree) : Option String :=
  (tree.content? kind).map Tree.displayText

/-- The module that a declaration names. -/
def importedModule (declaration : Tree) : String :=
  match declaration.content? .moduleSpecifier with
  | some (.leaf token) => literalValue token.text
  | _ => ""

/-- The binding of one name in braces. A name alone is imported under itself. -/
def specifierBinding? (module : String) (specifier : Tree) : Option ImportBinding :=
  if specifier.isNode .importSpecifier && (specifier.child? .typeOnly).isNone then
    (roleText? .name specifier).map fun localName =>
      ⟨localName, module, .member ((roleText? .propertyKey specifier).getD localName)⟩
  else none

/-- The names that a declaration binds to values: the whole module first, then the default, then
    the names in braces. Declarations and names that are only types bind none. -/
def importBindings (declaration : Tree) : List ImportBinding :=
  if declaration.isNode .importDeclaration && (declaration.child? .typeOnly).isNone then
    let module := importedModule declaration
    let namespaces := ((declaration.child? .namespaceImport).bind (roleText? .name)).toList.map
      fun name => ⟨name, module, .module⟩
    let defaults := (roleText? .defaultImport declaration).toList.map
      fun name => ⟨name, module, .default⟩
    let members := ((declaration.child? .namedImports).map Tree.children).getD []
    namespaces ++ defaults ++ members.filterMap (specifierBinding? module)
  else []

/-- All names that the imports of a file bind, in order. -/
def SourceFile.importBindings (file : SourceFile) : List ImportBinding :=
  file.statements.flatMap Source.importBindings

/-- The bindings of a file by local name, each name once. -/
abbrev ImportIndex := List ImportBinding

/-- A later binding of a name replaces the earlier one in its place. -/
def ImportIndex.insert (index : ImportIndex) (binding : ImportBinding) : ImportIndex :=
  if index.any (·.localName = binding.localName) then
    index.map fun old => if old.localName = binding.localName then binding else old
  else index ++ [binding]

def ImportIndex.get? (index : ImportIndex) (localName : String) : Option ImportBinding :=
  index.find? (·.localName = localName)

/-- The bindings that are in force at the end of the file's imports. -/
def SourceFile.importIndex (file : SourceFile) : ImportIndex :=
  file.importBindings.foldl ImportIndex.insert []

end NamedParams.Source
