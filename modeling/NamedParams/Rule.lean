import NamedParams.Model

namespace NamedParams

variable {α : Type}

/-- The decoration that marks a named parameter as required. -/
def requiredMarker : LibraryMember := ⟨"meta", "required"⟩

/-- A parameter that the rule complains about, in its function. -/
structure Report (α : Type) where
  parameter : Parameter α
  function : FunctionNode α
deriving Inhabited

/-- Only named parameters without a default value can be required. -/
def Parameter.isCandidate (parameter : Parameter α) : Bool :=
  parameter.kind = .named && !parameter.hasDefault

/-- Assertions may stand in one pair of parentheses. -/
def Condition.unwrapped : Condition → Condition
  | .parenthesized inner => inner
  | condition => condition

/-- The conditions of the assertions with which a list of statements begins. -/
def openingConditions : List Statement → List Condition
  | .assertion condition :: rest => condition.unwrapped :: openingConditions rest
  | _ => []

/-- The conditions of the assertions at the start of a body. -/
def openingAssertions : Option Body → List Condition
  | some (.block statements) => openingConditions statements
  | _ => []

/-- Whether a condition says that the name is not null, with the two sides in either order. -/
def Condition.assertsNotNull (condition : Condition) (name : String) : Bool :=
  match condition with
  | .notEqual left right =>
    [left, right].any (· = .nullLiteral) && [left, right].any (· = .identifier name)
  | _ => false

section Effects

variable {m : Type → Type} [Monad m]

/-- Asks about decorations in order, up to the first that marks its parameter as required. -/
def anyMarker (resolve : Decoration α → m (Option LibraryMember)) : List (Decoration α) → m Bool
  | [] => pure false
  | decoration :: rest => do
    if (← resolve decoration) = some requiredMarker then pure true else anyMarker resolve rest

/-- The parameters that are not marked, in order. -/
def unmarked (resolve : Decoration α → m (Option LibraryMember)) :
    List (Parameter α) → m (List (Parameter α))
  | [] => pure []
  | parameter :: rest => do
    let marked ← anyMarker resolve parameter.decorations
    let others ← unmarked resolve rest
    pure (if marked then others else parameter :: others)

/-- The parameters that the rule looks at: named, without default value, and not marked. -/
def candidates (resolve : Decoration α → m (Option LibraryMember))
    (parameters : List (Parameter α)) : m (List (Parameter α)) :=
  unmarked resolve (parameters.filter Parameter.isCandidate)

/-- Reports those parameters of a function that its opening assertions say are not null. -/
def reportAsserted (report : Report α → m Unit) (function : FunctionNode α)
    (conditions : List Condition) : List (Parameter α) → m Unit
  | [] => pure ()
  | parameter :: rest => do
    if conditions.any (·.assertsNotNull parameter.name) then report ⟨parameter, function⟩
    reportAsserted report function conditions rest

/-- Reports on one function: all its parameters are looked at before the first one is reported. -/
def reportFunction (resolve : Decoration α → m (Option LibraryMember)) (report : Report α → m Unit)
    (function : FunctionNode α) : m Unit := do
  let parameters ← candidates resolve function.parameters
  reportAsserted report function (openingAssertions function.body) parameters

mutual

/-- Reports on a function and then on the functions inside it. -/
def reportTree (resolve : Decoration α → m (Option LibraryMember)) (report : Report α → m Unit) :
    FunctionNode α → m Unit
  | .mk kind name parameters body children => do
    reportFunction resolve report (.mk kind name parameters body children)
    reportForest resolve report children

/-- Reports on all functions of a file, on each before those inside it. -/
def reportForest (resolve : Decoration α → m (Option LibraryMember)) (report : Report α → m Unit) :
    List (FunctionNode α) → m Unit
  | [] => pure ()
  | function :: rest => do
    reportTree resolve report function
    reportForest resolve report rest

end

end Effects

end NamedParams
