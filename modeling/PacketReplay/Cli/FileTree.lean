import PacketReplay.Store.Table

set_option autoImplicit false

namespace PacketReplay

inductive FileContent where
  | bytes (b : Bytes)
  | database (t : Table)
deriving DecidableEq

inductive FileNode where
  | directory
  | file (c : FileContent)
deriving DecidableEq

abbrev FilePath := List String

namespace FilePath

def parent (p : FilePath) : FilePath :=
  p.dropLast

def step (p : FilePath) (name : String) : FilePath :=
  if name = "" ∨ name = "." then p else if name = ".." then p.parent else p ++ [name]

def ofText (working : FilePath) (text : String) : FilePath :=
  (text.splitOn "/").foldl step (if text.startsWith "/" then [] else working)

def ancestors (p : FilePath) : List FilePath :=
  (List.range p.length).tail.map p.take

end FilePath

inductive DirectoryFault where
  | notDirectory
  | alreadyThere
deriving DecidableEq

def DirectoryFault.message : DirectoryFault → String
  | notDirectory => "Not a directory (os error 20)"
  | alreadyThere => "File exists (os error 17)"

structure FileTree where
  /-- Each node with its path; no path occurs twice. -/
  nodes : List (FilePath × FileNode)
deriving DecidableEq

namespace FileTree

def find? (t : FileTree) (p : FilePath) : Option FileNode :=
  if p = [] then some .directory else (t.nodes.find? fun n => n.1 == p).map Prod.snd

def file? (t : FileTree) (p : FilePath) : Option FileContent :=
  match t.find? p with
  | some (.file c) => some c
  | _ => none

def isBelowFile (t : FileTree) (p : FilePath) : Bool :=
  p.ancestors.any fun a => (t.file? a).isSome

def put (t : FileTree) (p : FilePath) (n : FileNode) : FileTree :=
  ⟨(t.nodes.filter fun m => m.1 != p) ++ [(p, n)]⟩

def addDirectory (t : FileTree) (p : FilePath) : FileTree :=
  if (t.find? p).isSome then t else t.put p .directory

def createDirectory (t : FileTree) (p : FilePath) : Except DirectoryFault FileTree :=
  if t.isBelowFile p then .error .notDirectory
  else if (t.file? p).isSome then .error .alreadyThere
  else .ok ((p.ancestors ++ [p]).foldl addDirectory t)

def write (t : FileTree) (p : FilePath) (c : FileContent) : FileTree :=
  (p.ancestors.foldl addDirectory t).put p (.file c)

def files (t : FileTree) : List FilePath :=
  t.nodes.filterMap fun (p, n) =>
    match n with
    | .file _ => some p
    | .directory => none

end FileTree

end PacketReplay
