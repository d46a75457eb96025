import NamedParams.Config.Search

namespace NamedParams

/-- A loader, and the files that it can read. -/
structure ConfigSession where
  tree : FileTree
  loader : ConfigLoader
deriving Inhabited

namespace ConfigSession

/-- A new loader. -/
def start (tree : FileTree) : ConfigSession := ⟨tree, .start⟩

/-- What can happen to a loader and its files. When files are written, there is another tree from
    then on. -/
inductive Step where
  | load (request : ConfigRequest)
  | path
  | defaults
  | write (tree : FileTree)
deriving Repr

/-- What a step answers. -/
inductive Answer where
  | loaded (loaded : LoadedConfig)
  | failed (failure : ConfigFailure)
  | path (path : Option String)
  | defaults (config : Config)
  | written
deriving DecidableEq, Repr, Inhabited

/-- The answer to a load. -/
def Answer.ofLoad : Except ConfigFailure LoadedConfig → Answer
  | .ok config => .loaded config
  | .error failure => .failed failure

/-- Takes one step. Relative paths start from `root`. -/
def step (root : List String) (session : ConfigSession) : Step → Answer × ConfigSession
  | .load request =>
    let (answer, loader) := session.loader.load session.tree root request
    (.ofLoad answer, { session with loader })
  | .path => (.path session.loader.path?, session)
  | .defaults => (.defaults .default, session)
  | .write tree => (.written, { session with tree })

/-- Takes steps one after the other, and keeps what each one answers. -/
def run (root : List String) : ConfigSession → List Step → List Answer × ConfigSession
  | session, [] => ([], session)
  | session, step :: rest =>
    let (answer, session) := session.step root step
    let (answers, session) := run root session rest
    (answer :: answers, session)

end ConfigSession

end NamedParams
