import ChatRouting.Storage

/-!
# Directories

A directory is made together with those it is in. The deepest one is tried first, since most of
the way is usually there; only what is missing sends the search further up.

How a single directory is made, and how one is recognised, are parameters here.

## Main definitions

* `Directories.chain`: a path with the paths of the directories it is in
* `Directories.make`: the directory at the head of a chain is made
-/

namespace ChatRouting.Directories

/-- The names on a path, without those that stay in place. -/
def names (path : String) : List String :=
  (path.splitOn "/").filter fun name => name != "" && name != "."

/-- The path of some names below a root or below the current directory. -/
def join (root : Bool) (names : List String) : String :=
  (if root then "/" else "") ++ "/".intercalate names

/-- The paths that lead to some names, given last name first, from the longest to the
shortest. -/
def above (root : Bool) : List String → List String
  | [] => []
  | name :: rest => join root (name :: rest).reverse :: above root rest

/-- A path and the paths of the directories it is in, from the longest to the shortest. A path
without names leads nowhere else and has nothing to be made. -/
def chain (path : String) : List String :=
  match (names path).reverse with
  | [] => []
  | _ :: rest => path :: above (path.startsWith "/") rest

variable {m : Type → Type} [Monad m] (makeOne : String → m (Except SystemFault Unit))
  (isDirectory : String → m Bool)

/-- One directory is there: it has been made, or was there already. -/
def ensureOne (path : String) : m (Except SystemFault Unit) := do
  match ← makeOne path with
  | .ok () => return .ok ()
  | .error f =>
    if f.number = SystemFault.taken.number then
      if ← isDirectory path then return .ok ()
    return .error f

/-- The directory at the head of a chain is there. If something on its way is missing, the rest
of the chain is made first and the head is tried once more. -/
def make : List String → m (Except SystemFault Unit)
  | [] => return .ok ()
  | path :: rest => do
    match ← ensureOne makeOne isDirectory path with
    | .ok () => return .ok ()
    | .error f =>
      if f.number = SystemFault.notFound.number then
        match ← make rest with
        | .ok () => ensureOne makeOne isDirectory path
        | .error f => return .error f
      else return .error f

end ChatRouting.Directories
