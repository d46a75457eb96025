import NamedParams.Source.Grammar

namespace NamedParams.Source

open Reader

/-- A source file read into trees: its statements, and a last leaf for the end of the file. -/
structure SourceFile where
  path : String
  text : List Char
  statements : List Tree
  tiles : ∃ stop rest, Tiles 0 text (Tree.tokensOf statements) stop rest

/-- The part of a file name from its last point on, in small letters. -/
def extension (path : String) : String :=
  let parts := (path.toList.map Char.toLower).splitOn '.'
  if parts.length < 2 then "" else "." ++ String.ofList (parts.getLastD [])

/-- Elements can stand in every dialect without type assertions, and in one dialect with types. -/
def Dialect.ofPath (path : String) : Dialect :=
  match extension path with
  | ".tsx" => ⟨true, true⟩
  | ".jsx" | ".js" | ".mjs" | ".cjs" => ⟨true, false⟩
  | _ => ⟨false, true⟩

/-- Reads a text to its end. -/
def readText (dialect : Dialect) (inAwait : Bool) (text : List Char) : Cursor text :=
  let context : Context :=
    { dialect
      limit := text.length + 2
      inAwait
      inYield := false
      noIn := false
      inDecorator := false
      noConditionalType := false }
  match loop Grammar.fileStep context (Cursor.start dialect text) with
  | some (_, cursor) => cursor
  | none => Cursor.start dialect text

/-- A file with an import or export at its top is a module. -/
def isModule (statements : List Tree) : Bool :=
  statements.any fun statement =>
    statement.isNode .importDeclaration || statement.isNode .importEquals ||
      statement.isNode .exportDeclaration ||
      statement.children.any fun
        | .leaf token => token.kind == .name && token.spelling == "export"
        | .node _ _ => false

/-- The byte order mark at the start of a file is no part of its text. -/
def withoutByteOrderMark : List Char → List Char
  | '\ufeff' :: rest => rest
  | text => text

/-- Reads a source file. At the top of a module `await` is an operator, so a module that mentions
    it is read as such. Only well-formed text becomes the trees that the language defines. There is
    no recovery from mistakes: a statement with a mistake in it is taken token by token up to where
    a statement can be read again, and the functions in it are lost. -/
def SourceFile.parse (path content : String) : SourceFile :=
  let text := withoutByteOrderMark content.toList
  let dialect := Dialect.ofPath path
  let first := readText dialect false text
  let statements := first.items.reverse
  let mentionsAwait := (Tree.tokensOf statements).any fun token => token.spelling == "await"
  let cursor := if isModule statements && mentionsAwait then readText dialect true text else first
  { path
    text
    statements := cursor.items.reverse
    tiles := ⟨_, _, cursor.tiles⟩ }

end NamedParams.Source
