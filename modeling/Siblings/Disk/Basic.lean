import Siblings.Disk.Fault
import Siblings.Disk.Path

/-!
# Disks

A disk holds files and directories at places. A place is the list of names that leads to it from
the root; paths are followed from the home directory. Every directory on the way must be there.

A disk has room without end, and it has neither links nor permissions. A write is refused where
its file is opened, before anything has changed, or it completes: no file is ever left with a part
of its bytes.

* `Disk.locate`: the place that a path leads to.
* `Disk.read`, `Disk.write`, `Disk.append`, `Disk.makeDirectory`: the operations.
-/

namespace Siblings

/-- What is at a place. -/
inductive Disk.Node where
  | file (bytes : List UInt8)
  | directory
  deriving DecidableEq, Repr

/-- A place on a disk: the names that lead to it from the root. -/
abbrev Disk.Place := List Text

/-- **Files and directories at places.** The last that is said of a place counts. -/
structure Disk where
  nodes : List (Disk.Place × Disk.Node)
  deriving DecidableEq, Repr

namespace Disk

/-- The home directory. -/
def home : Place := ["home".toList]

/-- A disk with an empty home directory. -/
def blank : Disk := ⟨[(home, .directory)]⟩

/-- What is at a place. The root is a directory. -/
def node? (disk : Disk) (place : Place) : Option Node :=
  if place.isEmpty then some .directory else disk.nodes.lookup place

/-- The disk with something at a place. -/
def set (disk : Disk) (place : Place) (node : Node) : Disk :=
  ⟨(place, node) :: disk.nodes.filter fun entry => entry.1 != place⟩

theorem node?_set (disk : Disk) (place other : Place) (node : Node) (h : place ≠ []) :
    (disk.set place node).node? other = if other = place then some node else disk.node? other := by
  unfold node? set
  by_cases ho : other = []
  · subst ho
    simp [Ne.symm h]
  · by_cases hp : other = place
    · subst hp
      simp [ho]
    · have hb : (other == place) = false := by simpa using hp
      simp only [List.isEmpty_iff, ho, if_false, hp, List.lookup_cons, hb]
      induction disk.nodes with
      | nil => rfl
      | cons entry entries ih =>
        obtain ⟨found, n⟩ := entry
        by_cases he : found = place
        · subst he
          simp [List.lookup_cons, hb, ih]
        · simp only [bne_iff_ne, ne_eq, he, not_false_eq_true, List.filter_cons_of_pos,
            List.lookup_cons]
          rw [ih]

/-- The place next to a place by one name. -/
def step (place : Place) (name : Text) : Place :=
  if name = Path.dot then place
  else if name = Path.dotDot then place.dropLast
  else place ++ [name]

/-- The place that names lead to, all of them directories. -/
def enter (disk : Disk) : List Text → Place → Except Fault Place
  | [], place => .ok place
  | name :: names, place =>
    match disk.node? (step place name) with
    | none => .error .missing
    | some (.file _) => .error .notDirectory
    | some .directory => disk.enter names (step place name)

/-- **The place that a path leads to.** There need not be anything. -/
def locate (disk : Disk) (path : Text) : Except Fault Place :=
  let start := if Path.isAbsolute path then [] else home
  if path.isEmpty then .error .missing
  else
    match (Path.parts path).getLast? with
    | none => .ok start
    | some last => (disk.enter (Path.parts path).dropLast start).map (step · last)

/-- **The bytes of a file.** -/
def read (disk : Disk) (path : Text) : Except Fault (List UInt8) :=
  match disk.locate path with
  | .error fault => .error fault
  | .ok place =>
    match disk.node? place with
    | none => .error .missing
    | some .directory => .error .isDirectory
    | some (.file bytes) => if Path.endsInSlash path then .error .notDirectory else .ok bytes

/-- Whether there is a directory at a path. -/
def isDirectory (disk : Disk) (path : Text) : Bool :=
  match disk.locate path with
  | .ok place => disk.node? place == some .directory
  | .error _ => false

/-- Whether there is anything at a path. -/
def isPresent (disk : Disk) (path : Text) : Bool :=
  match disk.locate path with
  | .ok place =>
    match disk.node? place with
    | none => false
    | some .directory => true
    | some (.file _) => !Path.endsInSlash path
  | .error _ => false

/-- The place of a file that is to be written, with the bytes that it has. -/
def target (disk : Disk) (path : Text) : Except Fault (Place × List UInt8) :=
  match disk.locate path with
  | .error fault => .error fault
  | .ok place =>
    if Path.endsInSlash path then .error .isDirectory
    else
      match disk.node? place with
      | none => .ok (place, [])
      | some .directory => .error .isDirectory
      | some (.file bytes) => .ok (place, bytes)

/-- **A disk with other bytes in a file.** A file that is not there is made. There is room for all
of the bytes, so nothing but the opening of the file can be refused. -/
def write (disk : Disk) (path : Text) (bytes : List UInt8) : Except Fault Disk :=
  (disk.target path).map fun (place, _) => disk.set place (.file bytes)

/-- A disk with more bytes in a file. A file that is not there is made. As with `write`, nothing
but the opening can be refused. -/
def append (disk : Disk) (path : Text) (bytes : List UInt8) : Except Fault Disk :=
  (disk.target path).map fun (place, old) => disk.set place (.file (old ++ bytes))

/-- A disk with one more directory, below one that is there. -/
def makeDirectory (disk : Disk) (path : Text) : Except Fault Disk :=
  match disk.locate path with
  | .error fault => .error fault
  | .ok place =>
    match disk.node? place with
    | some _ => .error .occupied
    | none => .ok (disk.set place .directory)

end Disk

end Siblings
