import Siblings.Disk.Basic
import Siblings.Text.Utf8

/-!
# Scripts

A script says what to do with a disk, a clock and two streams of text, step by step, and may look
at each answer before it goes on. It can be performed on a `Desk`, which is a value, as well as
on a real machine.

* `Script.perform`: the result of a script on a desk, and the desk after it.
* `Script.makeDirectories`: a directory with those above it.
-/

namespace Siblings

/-- Where text is shown. -/
inductive Stream where
  | out
  | err
  deriving DecidableEq, Repr

/-- **Something to do.** -/
inductive Script (α : Type) where
  /-- Nothing more: the result. -/
  | done (result : α)
  /-- Read a file. -/
  | read (path : Text) (next : Except Fault (List UInt8) → Script α)
  /-- Look whether there is anything at a path. -/
  | isPresent (path : Text) (next : Bool → Script α)
  /-- Look whether there is a directory at a path. -/
  | isDirectory (path : Text) (next : Bool → Script α)
  /-- Make a directory. -/
  | makeDirectory (path : Text) (next : Except Fault Unit → Script α)
  /-- Write a file. -/
  | write (path : Text) (bytes : List UInt8) (next : Except Fault Unit → Script α)
  /-- Write at the end of a file. -/
  | append (path : Text) (bytes : List UInt8) (next : Except Fault Unit → Script α)
  /-- Read the clock, in milliseconds. -/
  | clock (next : Nat → Script α)
  /-- Show a text. -/
  | say (stream : Stream) (text : Text) (next : Script α)

namespace Script

/-- A script, and then the one that its result calls for. -/
def andThen {α β : Type} : Script α → (α → Script β) → Script β
  | done result, f => f result
  | read path next, f => read path fun answer => (next answer).andThen f
  | isPresent path next, f => isPresent path fun answer => (next answer).andThen f
  | isDirectory path next, f => isDirectory path fun answer => (next answer).andThen f
  | makeDirectory path next, f => makeDirectory path fun answer => (next answer).andThen f
  | write path bytes next, f => write path bytes fun answer => (next answer).andThen f
  | append path bytes next, f => append path bytes fun answer => (next answer).andThen f
  | clock next, f => clock fun answer => (next answer).andThen f
  | say stream text next, f => say stream text (next.andThen f)

instance : Monad Script where
  pure := done
  bind := andThen

end Script

/-- **What a script is performed on.** The clock stands still. -/
structure Desk where
  disk : Disk
  out : Text
  err : Text
  deriving DecidableEq, Repr

namespace Desk

/-- A desk with a disk and nothing shown. -/
def ofDisk (disk : Disk) : Desk := ⟨disk, [], []⟩

/-- A desk after a change of its disk that may be refused. -/
def change (desk : Desk) (result : Except Fault Disk) : Except Fault Unit × Desk :=
  match result with
  | .ok disk => (.ok (), { desk with disk })
  | .error fault => (.error fault, desk)

/-- A desk where a text has been shown. -/
def shown (desk : Desk) (stream : Stream) (text : Text) : Desk :=
  match stream with
  | .out => { desk with out := desk.out ++ text }
  | .err => { desk with err := desk.err ++ text }

end Desk

namespace Script

/-- **The result of a script on a desk,** and the desk after it. -/
def perform {α : Type} : Script α → Desk → α × Desk
  | done result, desk => (result, desk)
  | read path next, desk => (next (desk.disk.read path)).perform desk
  | isPresent path next, desk => (next (desk.disk.isPresent path)).perform desk
  | isDirectory path next, desk => (next (desk.disk.isDirectory path)).perform desk
  | makeDirectory path next, desk =>
    let (answer, desk) := desk.change (desk.disk.makeDirectory path)
    (next answer).perform desk
  | write path bytes next, desk =>
    let (answer, desk) := desk.change (desk.disk.write path bytes)
    (next answer).perform desk
  | append path bytes next, desk =>
    let (answer, desk) := desk.change (desk.disk.append path bytes)
    (next answer).perform desk
  | clock next, desk => (next 0).perform desk
  | say stream text next, desk => next.perform (desk.shown stream text)

theorem perform_andThen {α β : Type} (script : Script α) (f : α → Script β) (desk : Desk) :
    (script.andThen f).perform desk =
      (f (script.perform desk).1).perform (script.perform desk).2 := by
  induction script generalizing desk with
  | done result => rfl
  | read path next ih => exact ih _ _
  | isPresent path next ih => exact ih _ _
  | isDirectory path next ih => exact ih _ _
  | makeDirectory path next ih => exact ih _ _
  | write path bytes next ih => exact ih _ _
  | append path bytes next ih => exact ih _ _
  | clock next ih => exact ih _ _
  | say stream text next ih => exact ih _

/-- Makes directories, each above the next. One that is there already is no fault. -/
def makeEach : List Text → Script (Except Fault Unit)
  | [] => done (.ok ())
  | path :: paths =>
    makeDirectory path fun
      | .ok () => makeEach paths
      | .error fault =>
        isDirectory path fun
          | true => makeEach paths
          | false => done (.error fault)

/-- Looks for the first directory that can be made or is there, the longest path first, where
`missing` are the longer ones; then makes the longer ones. -/
def makeFrom (missing : List Text) : List Text → Script (Except Fault Unit)
  | [] => makeEach missing
  | path :: above =>
    makeDirectory path fun
      | .ok () => makeEach missing
      | .error .missing => makeFrom (path :: missing) above
      | .error fault =>
        isDirectory path fun
          | true => makeEach missing
          | false => done (.error fault)

/-- **Makes a directory with those above it.** -/
def makeDirectories (path : Text) : Script (Except Fault Unit) := makeFrom [] (Path.ancestors path)

end Script

end Siblings
