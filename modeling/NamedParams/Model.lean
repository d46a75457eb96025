import NamedParams.Text.Position

namespace NamedParams

open NamedParams.Text

/-- Positional parameters are names of their own; named ones are properties of an options object
    that the function takes apart. -/
inductive ParameterKind where
  | positional
  | named
deriving DecidableEq, Repr, Inhabited

/-- A mark on a parameter. The handle is whatever it takes to find out what the mark refers to. -/
structure Decoration (α : Type) where
  handle : α
  text : String
deriving Repr, Inhabited

structure Parameter (α : Type) where
  name : String
  kind : ParameterKind
  hasDefault : Bool
  decorations : List (Decoration α)
  position : Position
deriving Repr, Inhabited

/-- The conditions that assertions state, as far as the rule tells them apart. -/
inductive Condition where
  | notEqual (left right : Condition)
  | nullLiteral
  | identifier (name : String)
  | parenthesized (inner : Condition)
  | other
deriving DecidableEq, Repr, Inhabited

inductive Statement where
  | assertion (condition : Condition)
  | other
deriving DecidableEq, Repr, Inhabited

inductive Body where
  | block (statements : List Statement)
  | expression
deriving DecidableEq, Repr, Inhabited

inductive FunctionKind where
  | functionLiteral
  | constructor
  | method
deriving DecidableEq, Repr, Inhabited

/-- A function with the functions directly inside it, in source order. A declaration without a
    body has none. -/
inductive FunctionNode (α : Type) where
  | mk (kind : FunctionKind) (name : Option String) (parameters : List (Parameter α))
      (body : Option Body) (children : List (FunctionNode α))
deriving Inhabited

namespace FunctionNode

variable {α : Type}

def kind : FunctionNode α → FunctionKind
  | mk kind _ _ _ _ => kind

def name : FunctionNode α → Option String
  | mk _ name _ _ _ => name

def parameters : FunctionNode α → List (Parameter α)
  | mk _ _ parameters _ _ => parameters

def body : FunctionNode α → Option Body
  | mk _ _ _ body _ => body

def children : FunctionNode α → List (FunctionNode α)
  | mk _ _ _ _ children => children

mutual

/-- A function and all functions inside it, each before those inside it. -/
def preorder : FunctionNode α → List (FunctionNode α)
  | mk kind name parameters body children =>
    mk kind name parameters body children :: preorderOf children

/-- The functions of several trees side by side. -/
def preorderOf : List (FunctionNode α) → List (FunctionNode α)
  | [] => []
  | node :: rest => node.preorder ++ preorderOf rest

end

mutual

/-- The number of functions in a tree. -/
def count : FunctionNode α → Nat
  | mk _ _ _ _ children => 1 + countOf children

/-- The number of functions in several trees. -/
def countOf : List (FunctionNode α) → Nat
  | [] => 0
  | node :: rest => node.count + countOf rest

end

end FunctionNode

/-- The library and the member of it that a decoration refers to. -/
structure LibraryMember where
  library : String
  member : String
deriving DecidableEq, Repr, Inhabited

end NamedParams
