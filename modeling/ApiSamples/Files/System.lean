import ApiSamples.Files.Path

namespace ApiSamples

abbrev Place := List String

inductive Node where
  | file (content : String)
  | folder
  deriving DecidableEq, Repr

/-- The nodes below the root, and the place that relative paths start from. A file system need not
have limits. -/
structure FileSystem where
  nodes : List (Place × Node)
  origin : Place
  limits : Option FilePath.Limits := none
  deriving Repr

namespace FileSystem

def empty (origin : Place) : FileSystem :=
  { nodes := (List.range origin.length).map fun n => (origin.take (n + 1), .folder), origin }

def node? (fs : FileSystem) (place : Place) : Option Node :=
  if place.isEmpty then some .folder else fs.nodes.lookup place

def remove (fs : FileSystem) (place : Place) : FileSystem :=
  { fs with nodes := fs.nodes.filter fun entry => entry.1 != place }

def put (fs : FileSystem) (place : Place) (node : Node) : FileSystem :=
  { fs with nodes := (place, node) :: (fs.remove place).nodes }

def isFolder (fs : FileSystem) (place : Place) : Bool := fs.node? place == some .folder

theorem node?_put_self (fs : FileSystem) {place : Place} (h : place ≠ []) (node : Node) :
    (fs.put place node).node? place = some node := by
  simp [node?, put, h]

theorem lookup_filter_of_ne {nodes : List (Place × Node)} {place other : Place}
    (h : other ≠ place) :
    (nodes.filter fun entry => entry.1 != place).lookup other = nodes.lookup other := by
  induction nodes with
  | nil => rfl
  | cons entry nodes ih =>
    obtain ⟨p, node⟩ := entry
    by_cases hp : p = place
    · subst hp
      have hb : (other == p) = false := by simpa using h
      simpa [List.lookup_cons, hb] using ih
    · simp [hp, List.lookup_cons, ih]

theorem node?_remove_self (fs : FileSystem) {place : Place} (h : place ≠ []) :
    (fs.remove place).node? place = none := by
  have absent : (fs.remove place).nodes.lookup place = none := by
    rw [List.lookup_eq_none_iff]
    intro entry he
    have hne : entry.1 ≠ place := by simpa using (List.mem_filter.mp he).2
    simpa using hne.symm
  simpa [node?, h] using absent

theorem node?_remove_of_ne (fs : FileSystem) {place other : Place} (h : other ≠ place) :
    (fs.remove place).node? other = fs.node? other := by
  simp [node?, remove, lookup_filter_of_ne h]

theorem node?_put_of_ne (fs : FileSystem) {place other : Place} (h : other ≠ place) (node : Node) :
    (fs.put place node).node? other = fs.node? other := by
  have hb : (other == place) = false := by simpa using h
  simp [node?, put, List.lookup_cons, hb, remove, lookup_filter_of_ne h]

def admits (fs : FileSystem) (p : FilePath) : Bool := fs.limits.all (·.admits p)

def admitsName (fs : FileSystem) (name : String) : Bool := fs.limits.all (·.admitsName name)

/-- One component further. Nothing lies behind a place that is no folder. -/
def walk (fs : FileSystem) (place : Place) (c : FilePath.Component) : Option Place :=
  match c with
  | .root => some []
  | .here => if fs.isFolder place then some place else none
  | .up => if fs.isFolder place then some place.dropLast else none
  | .name s => if fs.isFolder place && fs.admitsName s then some (place ++ [s]) else none

/-- The place that a path leads to. It may be empty, but the way to it may not. -/
def locate (fs : FileSystem) (p : FilePath) : Option Place :=
  if fs.admits p then p.components.foldlM fs.walk fs.origin else none

/-- Makes the missing folders on a way, as far as no file is in the way, and says whether it leads
to a folder then. -/
def makeWay (fs : FileSystem) (place : Place) : List FilePath.Component → FileSystem × Bool
  | [] => (fs, fs.isFolder place)
  | c :: cs =>
    match fs.walk place c with
    | none => (fs, false)
    | some next =>
      match fs.node? next with
      | none => (fs.put next .folder).makeWay next cs
      | some .folder => fs.makeWay next cs
      | some (.file _) => (fs, false)

/-- Makes a folder and those above it, and says whether it is there then. For a path that ends in a
single point only those above it are made. -/
def makeFolders (fs : FileSystem) (p : FilePath) : FileSystem × Bool :=
  if !fs.admits p then (fs, false)
  else if p.endsInPoint then
    let fs := (fs.makeWay fs.origin ((p.parent?.map FilePath.components).getD [])).1
    (fs, (fs.locate p).any fs.isFolder)
  else fs.makeWay fs.origin p.components

inductive Step where
  | makeFolders (p : FilePath)
  | write (p : FilePath) (content : String)
  | rename (source target : FilePath)
  deriving DecidableEq, Repr

namespace Step

def path : Step → FilePath
  | makeFolders p | write p _ | rename _ p => p

end Step

def filePlace? (fs : FileSystem) (p : FilePath) : Option Place :=
  (fs.locate p).bind fun place =>
    if p.endsInFolder || fs.isFolder place then none else some place

def read? (fs : FileSystem) (p : FilePath) : Option String :=
  (fs.filePlace? p).bind fun place =>
    match fs.node? place with
    | some (.file content) => some content
    | _ => none

def perform (fs : FileSystem) : Step → FileSystem × Bool
  | .makeFolders p => fs.makeFolders p
  | .write p content =>
    match fs.filePlace? p with
    | some place => (fs.put place (.file content), true)
    | none => (fs, false)
  | .rename source target =>
    match fs.filePlace? source, fs.filePlace? target with
    | some old, some new =>
      match fs.node? old with
      | some node => ((fs.remove old).put new node, true)
      | none => (fs, false)
    | _, _ => (fs, false)

def performAll (fs : FileSystem) : List Step → FileSystem × Option Step
  | [] => (fs, none)
  | step :: steps =>
    match fs.perform step with
    | (fs, true) => fs.performAll steps
    | (fs, false) => (fs, some step)

/-- The steps that replace a file at once: its folder, the content under another name, and the
change of the name. -/
def replaceSteps (p : FilePath) (content : String) : List Step :=
  let temporary := p.withExtension "tmp"
  let folder := match p.parent? with
    | some parent => if parent.text.isEmpty then [] else [.makeFolders parent]
    | none => []
  folder ++ [.write temporary content, .rename temporary p]

def replace (fs : FileSystem) (p : FilePath) (content : String) : FileSystem × Option FilePath :=
  let (fs, failed) := fs.performAll (replaceSteps p content)
  (fs, failed.map Step.path)

def listing (fs : FileSystem) (place : Place) : List (String × Option String) :=
  let below := fs.nodes.filterMap fun (p, node) =>
    if place.isPrefixOf p && p != place then
      let path := "/".intercalate (p.drop place.length)
      match node with
      | .file content => some (path, some content)
      | .folder => some (path ++ "/", none)
    else none
  below.mergeSort fun a b => !(decide (b.1 < a.1))

end FileSystem

end ApiSamples
