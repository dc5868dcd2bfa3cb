import Microblog.Record.Notification

/-!
# Frames

A stream of notifications consists of frames: one that says that the stream stands, pings, and the
notifications.  A frame has a name and a payload, which is JSON on a single line.  As text, a frame
is a line with its name, a line with its payload and an empty line.
-/

set_option autoImplicit false

namespace Microblog

/-- An element of a stream of notifications. -/
inductive Frame where
  | connected
  | ping
  | notification (n : Notification)
deriving DecidableEq, Repr

namespace Frame

/-- The name of a frame. -/
def event : Frame → String
  | connected => "connected"
  | ping => "ping"
  | notification _ => "notification"

/-- What a frame carries. -/
def content : Frame → Json
  | connected => .record [("status", .text "ok")]
  | ping => .record []
  | notification n => n.toJson

/-- What a frame carries, as text. -/
def payload (f : Frame) : String := f.content.render

/-- The text of an event. -/
def eventText (event payload : String) : String :=
  "event: " ++ event ++ "\ndata: " ++ payload ++ "\n\n"

/-- The text of a frame. -/
def text (f : Frame) : String := eventText f.event f.payload

/-- The text of some frames. -/
def textOf (frames : List Frame) : String := String.join (frames.map text)

end Frame

end Microblog
