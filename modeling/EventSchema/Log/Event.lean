import EventSchema.Log.Envelope
import EventSchema.Registry

/-!
Events of a log. A family knows some kinds of events and how to read and write their payloads. An
event of another kind is kept with the line that it was read from, so that rewriting a log does not
change what it says.
-/

set_option autoImplicit false

namespace EventSchema

structure EventFamily (α : Type) where
  kind : α → String
  payload : α → Json
  decoders : Registry (Json → Option α)

inductive LoggedEvent (α : Type) where
  | known (info : EventMeta) (event : α)
  /-- `raw` is the line without its ending. -/
  | unknown (envelope : Envelope) (raw : String)
deriving DecidableEq

inductive LogFault where
  | envelope
  | payload (kind : String)
deriving DecidableEq, Repr

def dropLineEnd (line : String) : String :=
  String.ofList ((line.toList.reverse.dropWhile fun c => c == '\r' || c == '\n').reverse)

namespace EventFamily

variable {α : Type}

def decode (family : EventFamily α) (line : String) : Except LogFault (LoggedEvent α) :=
  match Envelope.ofText? line with
  | none => .error .envelope
  | some e =>
    match family.decoders.get? e.kind with
    | none => .ok (.unknown e (dropLineEnd line))
    | some decode? =>
      match decode? e.payload with
      | none => .error (.payload e.kind)
      | some event => .ok (.known e.info event)

def kindOf (family : EventFamily α) : LoggedEvent α → String
  | .known _ event => family.kind event
  | .unknown e _ => e.kind

def lineOf (family : EventFamily α) : LoggedEvent α → String
  | .known info event => Envelope.text ⟨family.kind event, info, family.payload event⟩
  | .unknown _ raw => raw

end EventFamily

def LoggedEvent.info {α : Type} : LoggedEvent α → EventMeta
  | .known info _ => info
  | .unknown e _ => e.info

end EventSchema
