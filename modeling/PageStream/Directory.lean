import PageStream.Image
import PageStream.Reader

namespace PageStream

inductive Entry where
  | file (content : Bytes)
  | directory
  deriving DecidableEq

def Entry.reader : Entry → Reader
  | .file content => .ofSteps [.data content]
  | .directory => [.fault .isDirectory]

-- A place is the list of names that lead to it from the directory itself; two dots in front lead
-- above it, and a single slash in front to the root.
abbrev Place := List String

def rootPlace : Place := ["/"]

-- The directory itself and what lies above it: a chain of directories up to the root, about whose
-- other entries nothing is known. How long the chain is does not matter, since its places look the
-- same.
def isAbove (place : Place) : Bool := place = rootPlace || place.all (· == "..")

def parentOf (place : Place) : Place :=
  if place = rootPlace then rootPlace
  else if place.all (· == "..") then place ++ [".."]
  else place.dropLast

structure Directory where
  -- Places of files and directories below this one, each listed once.
  entries : List (Place × Entry)
  held : List Place

-- The names in a path, empty ones included: `a//b/` has four.
def pathNames : List Char → List (List Char)
  | [] => [[]]
  | c :: rest =>
    match pathNames rest with
    | [] => [[c]]
    | name :: names => if c = '/' then [] :: name :: names else (c :: name) :: names

namespace Directory

def empty : Directory := ⟨[], []⟩

def entry? (directory : Directory) (place : Place) : Option Entry :=
  if isAbove place then some .directory else directory.entries.lookup place

def placeOf (path : String) : Place :=
  let start : Place := if path.toList.head? = some '/' then rootPlace else []
  (pathNames path.toList).foldl (fun place name =>
    if name = [] ∨ name = ['.'] then place
    else if name = ['.', '.'] then parentOf place
    else place ++ [String.ofList name]) start

def put (directory : Directory) (place : Place) (entry : Entry) : Directory :=
  if directory.entries.any (·.1 == place) then
    { directory with entries :=
        directory.entries.map fun (p, e) => if p = place then (p, entry) else (p, e) }
  else { directory with entries := directory.entries ++ [(place, entry)] }

def putPath (directory : Directory) (path : String) (entry : Entry) : Directory :=
  let place := placeOf path
  let above := (List.range place.length).map place.take
  let rooted := above.foldl (fun d p => if isAbove p then d else d.put p .directory) directory
  rooted.put place entry

def longestName : Nat := 255

def longestPath : Nat := 4095

-- Where a list of names leads: every name but the last must lead to a directory. A single dot stays
-- where it is and two dots go back; empty names are nothing.
def walk (directory : Directory) (place : Place) : List (List Char) → Except DeviceFault Place
  | [] => .ok place
  | [] :: rest => walk directory place rest
  | name :: rest =>
    match directory.entry? place with
    | none => .error .noSuchFile
    | some (.file _) => .error .notDirectory
    | some .directory =>
      if name = ['.'] then walk directory place rest
      else if name = ['.', '.'] then walk directory (parentOf place) rest
      else if longestName < (String.ofList name).utf8ByteSize then .error .longName
      else walk directory (place ++ [String.ofList name]) rest

-- The place a path leads to, and whether the path asks for a directory there. An empty path leads
-- nowhere, and one with a NUL in it is no path.
def resolve (directory : Directory) (path : String) : Except DeviceFault (Place × Bool) :=
  if path.contains '\x00' then .error .nulInName
  else if longestPath < path.utf8ByteSize then .error .longName else
  match path.toList with
  | [] => .error .noSuchFile
  | '/' :: chars =>
    (directory.walk rootPlace (pathNames chars)).map (·, chars.getLast?.getD '/' == '/')
  | chars => (directory.walk [] (pathNames chars)).map (·, chars.getLast? == some '/')

def lookUp (directory : Directory) (path : String) : Except DeviceFault Entry :=
  match directory.resolve path with
  | .error fault => .error fault
  | .ok (place, asDirectory) =>
    match directory.entry? place with
    | none => .error .noSuchFile
    | some .directory => .ok .directory
    | some (.file content) => if asDirectory then .error .notDirectory else .ok (.file content)

def present (directory : Directory) (path : String) : Bool :=
  (directory.lookUp path).toOption.isSome

def creationPlace (directory : Directory) (path : String) : Except DeviceFault Place :=
  match directory.resolve path with
  | .error fault => .error fault
  | .ok (place, asDirectory) =>
    match directory.entry? place with
    | some .directory => .error .isDirectory
    | some (.file _) => if asDirectory then .error .notDirectory else .ok place
    | none => if asDirectory then .error .isDirectory else .ok place

-- Creates an image file and holds it. An existing file is emptied, but only when nobody holds it.
def createImage (directory : Directory) (path : String) : Except Failure (Place × Directory) :=
  match directory.creationPlace path with
  | .error fault => .error (.write 0 fault)
  | .ok place =>
    if directory.held.contains place then .error (.locked path)
    else
      let emptied := directory.put place (.file [])
      .ok (place, { emptied with held := place :: emptied.held })

def release (directory : Directory) (place : Place) : Directory :=
  { directory with held := directory.held.erase place }

def contentAt (directory : Directory) (place : Place) : Bytes :=
  match directory.entry? place with
  | some (.file content) => content
  | _ => []

end Directory

structure PlacedImage where
  directory : Directory
  place : Place

instance : ImageSink PlacedImage where
  perform image call :=
    let (file, fault) :=
      ImageSink.perform (FileImage.mk (image.directory.contentAt image.place)) call
    ({ image with directory := image.directory.put image.place (.file file.content) }, fault)

end PageStream
