import NamedParams.Json.Printer
import NamedParams.Terminal.Style

namespace NamedParams

/-- Where a message is printed. -/
inductive Channel where
  | out
  | err
deriving DecidableEq, Repr, Inhabited

/-- One message on a channel. -/
structure Entry where
  channel : Channel
  text : String
deriving DecidableEq, Repr, Inhabited

/-- What a message can be about in more detail: data, or the trace of an error. -/
inductive Detail where
  | data (value : Json)
  | trace (text : String)
deriving Inhabited

/-- Whether there is anything to show: no data is null, false, zero or an empty text. -/
def Detail.isShown : Detail → Bool
  | .data .null => false
  | .data (.bool value) => value
  | .data (.number value) => !value.isZero
  | .data (.string value) => !value.isEmpty
  | _ => true

def Detail.text : Detail → String
  | .data (.string value) => value
  | .data value => value.pretty
  | .trace text => text

inductive Level where
  | error
  | warn
  | info
  | success
  | debug
deriving DecidableEq, Repr, Inhabited

namespace Level

def label : Level → String
  | error => "✖ Error:"
  | warn => "⚠ Warning:"
  | info => "ℹ Info:"
  | success => "✔ Success:"
  | debug => "… Debug:"

def style : Level → Style
  | error => .red
  | warn => .yellow
  | info => .blue
  | success => .green
  | debug => .gray

def channel : Level → Channel
  | error | warn => .err
  | _ => .out

end Level

structure Logger where
  verbose : Bool
  quiet : Bool
  color : Bool
deriving DecidableEq, Repr, Inhabited

namespace Logger

/-- The entries for a message with a label. Details, and the messages for debugging, are for
    verbose loggers, and quiet ones say nothing. -/
def message (logger : Logger) (level : Level) (text : String) (detail : Option Detail) :
    List Entry :=
  if logger.quiet || (level = .debug && !logger.verbose) then []
  else
    let first := ⟨level.channel, paint logger.color level.style level.label ++ " " ++ text⟩
    match detail with
    | some detail =>
      if logger.verbose && detail.isShown then
        [first, ⟨level.channel, paint logger.color .gray detail.text⟩]
      else [first]
    | none => [first]

/-- The entries for a message on its own. -/
def plain (logger : Logger) (text : String) : List Entry :=
  if logger.quiet then [] else [⟨.out, text⟩]

def debug (logger : Logger) (text : String) : List Entry :=
  logger.message .debug text none

def info (logger : Logger) (text : String) : List Entry :=
  logger.message .info text none

end Logger

end NamedParams
