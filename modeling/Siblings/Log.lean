import Siblings.Disk.Script
import Siblings.Text.Quoted

/-!
# Log lines

What happens on the way is noted as events. An event has a level, a message and attributes, and
stands in spans that say what it belongs to. A logger shows the events of its level and below,
on the error stream or at the end of a file.

No line holds the time of day. Lines in JSON would, and they are left out.

* `Logger.note`: notes an event.
* `Event.line`: the line of an event.
-/

namespace Siblings

/-- **How much an event matters,** the gravest first. -/
inductive Level where
  | error
  | warn
  | info
  | debug
  | trace
  deriving DecidableEq, Repr

namespace Level

/-- Every level. -/
def all : List Level := [error, warn, info, debug, trace]

/-- The name of a level on the command line. -/
def name : Level → Text
  | error => "error".toList
  | warn => "warn".toList
  | info => "info".toList
  | debug => "debug".toList
  | trace => "trace".toList

/-- The name of a level in log lines, five characters wide. -/
def title : Level → Text
  | error => "ERROR".toList
  | warn => " WARN".toList
  | info => " INFO".toList
  | debug => "DEBUG".toList
  | trace => "TRACE".toList

/-- The place of a level in their order. -/
def rank : Level → Nat
  | error => 1
  | warn => 2
  | info => 3
  | debug => 4
  | trace => 5

/-- The level of a rank; none below the first, the last above it. -/
def ofRank : Nat → Option Level
  | 0 => none
  | 1 => some error
  | 2 => some warn
  | 3 => some info
  | 4 => some debug
  | _ => some trace

/-- The colour of a level, as a code of the terminal. -/
def colour : Level → Text
  | error => "31".toList
  | warn => "33".toList
  | info => "32".toList
  | debug => "34".toList
  | trace => "35".toList

end Level

/-- **A name and a value** of an event. -/
structure Attribute where
  key : Text
  value : Text
  /-- Whether the value is shown between quotes. -/
  isQuoted : Bool

namespace Attribute

/-- An attribute whose value is shown as it is. -/
def bare (key : String) (value : Text) : Attribute := ⟨key.toList, value, false⟩

/-- An attribute whose value is shown between quotes. -/
def quoted (key : String) (value : Text) : Attribute := ⟨key.toList, value, true⟩

/-- An attribute whose value is a number. -/
def count (key : String) (n : Nat) : Attribute := bare key (Text.ofNat n)

end Attribute

/-- What an event belongs to. -/
structure Span where
  name : Text
  detail : Attribute

/-- **Something that happened.** -/
structure Event where
  level : Level
  spans : List Span
  message : Text
  attributes : List Attribute

/-- How log lines are laid out. -/
inductive Layout where
  /-- The spans with their attributes come first. -/
  | pretty
  /-- The names of the spans come first, their attributes last. -/
  | compact
  deriving DecidableEq, Repr

/-- A text in a style of the terminal, if styles are on. -/
def styled (on : Bool) (code text : Text) : Text :=
  if on then "\x1b[".toList ++ code ++ 'm' :: text ++ "\x1b[0m".toList else text

/-- The codes of the styles of the terminal. -/
def boldCode : Text := ['1']

/-- The code of dim text. -/
def dimCode : Text := ['2']

/-- The code of italic text. -/
def italicCode : Text := ['3']

namespace Attribute

/-- An attribute as it is shown. -/
def render (styles : Bool) (a : Attribute) : Text :=
  styled styles italicCode a.key ++ styled styles dimCode ['='] ++
    (if a.isQuoted then Text.quoted a.value else a.value)

end Attribute

namespace Event

/-- The message and the attributes of an event. -/
def body (styles : Bool) (event : Event) : Text :=
  Text.join [' '] (event.message :: event.attributes.map (·.render styles))

/-- A span with its attribute, in front of an event. -/
def spanHead (styles : Bool) (span : Span) : Text :=
  styled styles boldCode span.name ++ styled styles boldCode ['{'] ++
    span.detail.render styles ++ styled styles boldCode ['}'] ++ styled styles dimCode [':']

/-- The name of a span, in front of an event. -/
def spanName (styles : Bool) (span : Span) : Text := styled styles boldCode span.name ++ [':']

/-- The attribute of a span, behind an event. -/
def spanTail (styles : Bool) (span : Span) : Text :=
  ' ' :: styled styles dimCode (span.detail.render styles)

/-- The heads of the spans, with a space behind them if there are any. -/
def heads (head : Span → Text) (event : Event) : Text :=
  if event.spans.isEmpty then [] else event.spans.flatMap head ++ [' ']

/-- **The line of an event.** -/
def line (layout : Layout) (styles : Bool) (event : Event) : Text :=
  let level := styled styles event.level.colour event.level.title ++ [' ']
  match layout with
  | .pretty => level ++ event.heads (spanHead styles) ++ event.body styles ++ ['\n']
  | .compact =>
    level ++ event.heads (spanName styles) ++ event.body styles ++
      event.spans.flatMap (spanTail styles) ++ ['\n']

end Event

/-- **What notes events.** -/
structure Logger where
  /-- The last level that is shown; none if nothing is. -/
  threshold : Option Level
  layout : Layout
  styles : Bool
  /-- The file that the lines go to, instead of the error stream. -/
  file : Option Text
  /-- What the next events belong to. -/
  spans : List Span

namespace Logger

/-- A logger that shows nothing. -/
def silent : Logger := ⟨none, .pretty, false, none, []⟩

/-- Whether a logger shows the events of a level. -/
def shows (logger : Logger) (level : Level) : Bool :=
  match logger.threshold with
  | some last => level.rank ≤ last.rank
  | none => false

/-- A logger for the events of a span. Spans are shown by loggers that show information. -/
def within (logger : Logger) (name : String) (detail : Attribute) : Logger :=
  if logger.shows .info then
    { logger with spans := logger.spans ++ [⟨name.toList, detail⟩] }
  else logger

/-- Shows a line. -/
def put (logger : Logger) (line : Text) : Script Unit :=
  match logger.file with
  | none => .say .err line (.done ())
  | some path => .append path (Text.encode line) fun _ => .done ()

/-- **Notes an event,** if its level is shown. -/
def note (logger : Logger) (level : Level) (message : String) (attributes : List Attribute) :
    Script Unit :=
  if logger.shows level then
    logger.put (Event.line logger.layout logger.styles
      ⟨level, logger.spans, message.toList, attributes⟩)
  else .done ()

end Logger

end Siblings
