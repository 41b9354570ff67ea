import Siblings.Text.Basic
import Siblings.Field

/-!
# Options of a generation

Where tokens are replaced (`Scope`), how classes are named (`Mode`), what a failing target does
to the others (`Policy`), and the settings that every target shares (`Options`).
-/

namespace Siblings

/-- **Where tokens are replaced.** -/
inductive Scope where
  /-- Anywhere in the master. -/
  | global
  /-- Only on the lines that carry the marker of the token's field. -/
  | marked
  deriving DecidableEq, Repr

namespace Scope

/-- Every scope. -/
def all : List Scope := [global, marked]

/-- The name of a scope. -/
def name : Scope → Text
  | global => "global".toList
  | marked => "marked".toList

end Scope

/-- **What a target that fails does to the others.** -/
inductive Policy where
  /-- The first failure ends the generation. -/
  | failFast
  /-- Failures are collected beside the classes that succeed. -/
  | keepGoing
  deriving DecidableEq, Repr

namespace Policy

/-- Every policy. -/
def all : List Policy := [failFast, keepGoing]

/-- The name of a policy. -/
def name : Policy → Text
  | failFast => "fail-fast".toList
  | keepGoing => "keep-going".toList

end Policy

/-- **What a master holds:** an implementation class or an interface. -/
inductive Mode where
  | implementation
  | interface
  deriving DecidableEq, Repr

namespace Mode

/-- Every mode. -/
def all : List Mode := [implementation, interface]

/-- The name of a mode in documents. -/
def name : Mode → Text
  | implementation => "implementation".toList
  | interface => "interface".toList

/-- The name of a mode in summaries and log lines. -/
def title : Mode → Text
  | implementation => "Implementation".toList
  | interface => "Interface".toList

/-- What the mode adds to a class name. -/
def suffix : Mode → Text
  | implementation => "Impl".toList
  | interface => []

/-- A master is an implementation when its file name says so. -/
def ofFileName (fileName : Text) : Mode :=
  if "Impl.java".toList.isSuffixOf fileName then implementation else interface

/-- **The identifier of the class of a type.** An interface loses one `Base` at the end of its
name, an implementation gains the suffix. -/
def classIdentifier (mode : Mode) (className : Text) : Text :=
  match mode with
  | implementation => className ++ mode.suffix
  | interface => Text.dropEnding "Base".toList className

/-- The file of the class of a type. -/
def fileName (mode : Mode) (className : Text) : Text :=
  mode.classIdentifier className ++ ".java".toList

end Mode

/-- **The settings of a derivation.** -/
structure Options where
  scope : Scope
  /-- The fields whose token the master must contain. -/
  required : FieldSet
  /-- A comment that is put in front of the package line. -/
  header : Option Text
  deriving DecidableEq, Repr

namespace Options

/-- Replacement anywhere, every token required, no header. -/
def standard : Options := ⟨.global, .all, none⟩

end Options

end Siblings
