import DebugSession.Text.Blank
/-!
Paths as text. Slashes separate components; a repeated slash and a lone point between others say
nothing. Two points are a component like any other.
-/

namespace DebugSession.Path

inductive Component where
  | root
  | here
  | parent
  | name (s : String)
  deriving DecidableEq, Repr

def isAbsolute (p : String) : Bool := p.toList.head? = some '/'

/-- What stands between the slashes of a path. -/
def parts (p : String) : List String := (Text.pieces '/' p.toList).map String.ofList

/-- Whether a part is a component wherever it stands. -/
def isStep (part : String) : Bool := part ≠ "" && part ≠ "."

/-- The components of a path. A point counts only at the front of a relative one. -/
def components (p : String) : List Component :=
  let parts := parts p
  let front : List Component :=
    if isAbsolute p then [.root] else if parts.head? = some "." then [.here] else []
  front ++ (parts.filter isStep).map fun s => if s = ".." then .parent else .name s

def Component.text : Component → String
  | .root => "/"
  | .here => "."
  | .parent => ".."
  | .name s => s

/-- Goes from `p` to `q`, which stands for itself when it is absolute. -/
def join (p q : String) : String :=
  if isAbsolute q then q
  else if p.isEmpty || p.toList.getLast? = some '/' then p ++ q
  else p ++ "/" ++ q

/-- The components behind those of `base`. -/
def under? (base p : String) : Option (List Component) :=
  let b := components base
  let cs := components p
  if b.isPrefixOf cs then some (cs.drop b.length) else none

/-- The parts behind the first `count` steps, from the next step on. -/
def dropSteps : (count : Nat) → List String → List String
  | _, [] => []
  | 0, s :: rest => if isStep s then s :: rest else dropSteps 0 rest
  | count + 1, s :: rest => dropSteps (if isStep s then count else count + 1) rest

/-- The text of `p` behind the components of `base`. What stands between its own components stays
as it is. -/
def textUnder? (base p : String) : Option String :=
  if (under? base p).isNone then none
  else
    let behind := dropSteps ((parts base).filter isStep).length (parts p)
    let trimmed := (behind.reverse.dropWhile fun s => !isStep s).reverse
    some (String.intercalate "/" trimmed)

/-- A name without what follows its last point, unless the point comes first. One point alone
would name a directory; then the second one stays. -/
def stem (name : String) : String :=
  let reversed := name.toList.reverse
  let head := (reversed.dropWhile (· ≠ '.')).drop 1
  if head.isEmpty then name
  else if head = ['.'] then ".."
  else String.ofList head.reverse

/-- The last component, when it is a name. -/
def fileName? (p : String) : Option String :=
  match (components p).getLast? with
  | some (.name s) => some s
  | _ => none

/-! ## Files -/

/-- The steps of a path that all lead on, without those that two points take back. -/
def walk : List String → List Component → List String
  | path, [] => path
  | path, .name s :: rest => walk (path ++ [s]) rest
  | path, .parent :: rest => walk path.dropLast rest
  | path, _ :: rest => walk path rest

/-- Files by their components from the working directory, with what is in them, and directories. -/
structure Tree where
  files : List (List String × String) := []
  directories : List (List String) := []

/-- Where a relative path leads, step by step; a step through a file leads nowhere. Above the
working directory only directories are known. -/
inductive Place where
  | inside (path : List String)
  | above
  deriving DecidableEq

namespace Tree

def file? (t : Tree) (path : List String) : Option String :=
  (t.files.find? fun f => f.1 = path).map (·.2)

/-- A directory is there when it was made or when something is in it. -/
def isDirectory (t : Tree) (path : List String) : Bool :=
  path.isEmpty || t.directories.any path.isPrefixOf ||
    t.files.any fun f => path.isPrefixOf f.1 && path ≠ f.1

def step (t : Tree) : Place → Component → Option Place
  | .inside path, .name s => if t.isDirectory path then some (.inside (path ++ [s])) else none
  | .inside path, .parent =>
    if !t.isDirectory path then none
    else if path.isEmpty then some .above
    else some (.inside path.dropLast)
  | .inside path, _ => if t.isDirectory path then some (.inside path) else none
  | .above, .name _ => none
  | .above, _ => some .above

/-- Whether something is at a path. One that ends in a slash or a point leads to a directory. -/
def hasPath (t : Tree) (p : String) : Bool :=
  let start : Place := if isAbsolute p then .above else .inside []
  let parts := Text.pieces '/' p.toList
  let toDirectory := parts.getLast? = some [] || parts.getLast? = some ['.']
  !p.isEmpty &&
    match (components p).foldlM t.step start with
    | none => false
    | some .above => true
    | some (.inside path) => t.isDirectory path || ((t.file? path).isSome && !toDirectory)

/-- The tree with one more file, by its path. The directories on the way are made. -/
def addFile (t : Tree) (p content : String) : Tree :=
  let steps := components p
  { files := t.files ++ [(walk [] steps, content)]
    directories := t.directories ++
      (List.range steps.length).map fun n => walk [] (steps.take n) }

/-- The text of a file in the working directory. -/
def read (t : Tree) (name : String) : Except String String :=
  match t.file? [name] with
  | some text => .ok text
  | none => .error "No such file or directory (os error 2)"

end Tree
end DebugSession.Path
