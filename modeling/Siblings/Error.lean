import Siblings.Field
import Siblings.Text.Quoted
import Siblings.Text.Utf8
import Siblings.Disk.Fault

/-!
# Errors of a generation

Each cause is a constructor of `GenError`; its wording is `GenError.message`.
-/

namespace Siblings

/-- What a token stands for. -/
inductive TokenKind where
  | className
  | field (field : Field)
  deriving DecidableEq, Repr

namespace TokenKind

/-- The name of a kind of token in messages. -/
def label : TokenKind → Text
  | className => "class name".toList
  | field f => f.label

end TokenKind

/-- **Why a master cannot be read.** -/
inductive InputFault where
  /-- The disk refuses. -/
  | disk (fault : Fault)
  /-- The bytes are no text. -/
  | encoding (fault : Text.Utf8Fault)
  /-- The path ends in no name. -/
  | unnamed
  deriving DecidableEq, Repr

namespace InputFault

/-- The wording of a fault. -/
def message : InputFault → Text
  | disk fault => fault.message
  | encoding fault => "not valid UTF-8: ".toList ++ fault.message
  | unnamed => "master path has no UTF-8 file name".toList

end InputFault

/-- **Why a class is not generated.** -/
inductive GenError where
  /-- No type has this name. -/
  | unknownType (className : Text)
  /-- The master lacks a token that the derivation of a class needs. -/
  | missingToken (className : Text) (kind : TokenKind) (token : Text)
  /-- The master cannot be read. -/
  | malformedInput (path : Text) (fault : InputFault)
  /-- A descriptor leaves a field blank. -/
  | blankField (field : Field)
  /-- Two types have the same name. -/
  | duplicateType (className : Text)
  /-- One token has two replacements. -/
  | conflictingTokens (token first second : Text)
  /-- A rule matches nothing. -/
  | emptyMatcher (replacement : Text)
  /-- A target has the name of the master's own class. -/
  | selfGeneration (className : Text)
  /-- A class cannot be written. -/
  | unwritable (path : Text) (fault : Fault)
  deriving DecidableEq, Repr

namespace GenError

/-- **The wording of an error.** -/
def message : GenError → Text
  | unknownType className => "unknown type: ".toList ++ className
  | missingToken className kind token =>
    "missing ".toList ++ kind.label ++ " token ".toList ++ Text.quoted token ++
      " in master text (generating ".toList ++ className ++ ")".toList
  | malformedInput path fault => "malformed input ".toList ++ path ++ ": ".toList ++ fault.message
  | blankField field => "invalid descriptor: ".toList ++ field.label ++ " must not be empty".toList
  | duplicateType className => "duplicate type: ".toList ++ className
  | conflictingTokens token first second =>
    "conflicting replacements for token ".toList ++ Text.quoted token ++ ": ".toList ++
      Text.quoted first ++ " vs ".toList ++ Text.quoted second
  | emptyMatcher replacement =>
    "invalid rule: empty matcher for replacement ".toList ++ Text.quoted replacement
  | selfGeneration className => "refusing to regenerate default class ".toList ++ className
  | unwritable path fault => "failed to write ".toList ++ path ++ ": ".toList ++ fault.message

/-- The cause that an error brings with it, in words. -/
def cause? : GenError → Option Text
  | unwritable _ fault => some fault.message
  | _ => none

/-- The wording of an error, and its cause once more. -/
def chain (error : GenError) : Text :=
  match error.cause? with
  | some cause => error.message ++ ": ".toList ++ cause
  | none => error.message

end GenError

end Siblings
