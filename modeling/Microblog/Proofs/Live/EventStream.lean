import Microblog.Live.Frame
import Microblog.Proofs.Json.Line
import Microblog.Proofs.Json.Record

/-!
# A stream of notifications can be read

The text of a stream is read line by line: a line has a field of an event, and an empty line ends
the event (`EventStream.read`).  A line break in a payload would end its line early and move
everything behind it.  But no payload has one in it, as none is in JSON text, so the events that are
read are the frames that were written, and the notifications are read as they were sent
(`Frame.textOf_readable`).
-/

set_option autoImplicit false

namespace Microblog

/-! ## Event streams -/

namespace EventStream

/-- The lines of a text.  A line ends with a line feed, a carriage return or the two together; what
comes after the last end is no line. -/
def lines : List Char → List (List Char)
  | [] => []
  | '\n' :: cs => [] :: lines cs
  | '\r' :: '\n' :: cs => [] :: lines cs
  | '\r' :: cs => [] :: lines cs
  | c :: cs =>
    match lines cs with
    | [] => []
    | l :: ls => (c :: l) :: ls

/-- The name and the value in a line.  The value is what stands behind the first colon, but for one
blank. -/
def field (line : List Char) : String × String :=
  let value := (line.dropWhile (· != ':')).drop 1
  (.ofList (line.takeWhile (· != ':')),
    .ofList (if value.head? = some ' ' then value.drop 1 else value))

/-- An event that has not ended. -/
structure Pending where
  name : String := ""
  data : List String := []

/-- What a line tells of an event: its name, or one more line of its data.  Other fields tell
nothing, and neither does a comment, which is a field without a name. -/
def Pending.add (p : Pending) (line : List Char) : Pending :=
  match field line with
  | ("event", value) => { p with name := value }
  | ("data", value) => { p with data := p.data ++ [value] }
  | _ => p

/-- The name and the data of an event that has ended.  There is none without data, and one without a
name is a message. -/
def Pending.finish (p : Pending) : List (String × String) :=
  if p.data = [] then []
  else [(if p.name = "" then "message" else p.name, "\n".intercalate p.data)]

/-- The events in some lines; one that does not end is none. -/
def readLines (p : Pending) : List (List Char) → List (String × String)
  | [] => []
  | [] :: ls => p.finish ++ readLines {} ls
  | l :: ls => readLines (p.add l) ls

/-- A text without the mark that may stand before it. -/
def skipMark : List Char → List Char
  | '\uFEFF' :: cs => cs
  | cs => cs

/-- The events in a text, each with its name and its data. -/
def read (s : String) : List (String × String) := readLines {} (lines (skipMark s.toList))

/-- Whether a text is within one line. -/
def IsLine (cs : List Char) : Prop := '\n' ∉ cs ∧ '\r' ∉ cs

instance (cs : List Char) : Decidable (IsLine cs) := inferInstanceAs (Decidable (_ ∧ _))

theorem IsLine.append {cs cs' : List Char} (h : IsLine cs) (h' : IsLine cs') : IsLine (cs ++ cs') :=
  ⟨List.not_mem_append h.1 h'.1, List.not_mem_append h.2 h'.2⟩

/-! ## Reading what was written -/

theorem lines_cons {c : Char} (hfeed : c ≠ '\n') (hreturn : c ≠ '\r') {cs l : List Char}
    {ls : List (List Char)} (h : lines cs = l :: ls) : lines (c :: cs) = (c :: l) :: ls := by
  rw [lines, h]
  · exact hfeed
  · exact fun _ hc _ ↦ hreturn hc
  · exact hreturn

/-- A line is read up to its end. -/
theorem lines_append {l : List Char} (h : IsLine l) (cs : List Char) :
    lines (l ++ '\n' :: cs) = l :: lines cs := by
  induction l with
  | nil => rfl
  | cons c l ih =>
    simp only [IsLine, List.mem_cons, not_or] at h
    obtain ⟨⟨hfeed, hl⟩, hreturn, hl'⟩ := h
    exact lines_cons (Ne.symm hfeed) (Ne.symm hreturn) (ih ⟨hl, hl'⟩)

theorem field_event (value : String) :
    field ("event: ".toList ++ value.toList) = ("event", value) := by
  have hfield : field ("event: ".toList ++ value.toList) = ("event", .ofList value.toList) := rfl
  rw [hfield, String.ofList_toList]

theorem field_data (value : String) :
    field ("data: ".toList ++ value.toList) = ("data", value) := by
  have hfield : field ("data: ".toList ++ value.toList) = ("data", .ofList value.toList) := rfl
  rw [hfield, String.ofList_toList]

/-- The text of an event is three lines, if its name and its data are within one each. -/
theorem lines_eventText {event payload : String} (hevent : IsLine event.toList)
    (hpayload : IsLine payload.toList) (cs : List Char) :
    lines ((Frame.eventText event payload).toList ++ cs) =
      ("event: ".toList ++ event.toList) :: ("data: ".toList ++ payload.toList) :: [] ::
        lines cs := by
  have htext : (Frame.eventText event payload).toList ++ cs =
      ("event: ".toList ++ event.toList) ++ '\n' :: (("data: ".toList ++ payload.toList) ++
        '\n' :: ([] ++ '\n' :: cs)) := by
    simp [Frame.eventText]
  have hdata : IsLine ("data: ".toList ++ payload.toList) := .append (by decide) hpayload
  have hname : IsLine ("event: ".toList ++ event.toList) := .append (by decide) hevent
  rw [htext, lines_append hname, lines_append hdata, lines_append (by decide)]

/-- The three lines of an event are read as that event. -/
theorem readLines_event {event payload : String} (hevent : event ≠ "") (ls : List (List Char)) :
    readLines {} (("event: ".toList ++ event.toList) :: ("data: ".toList ++ payload.toList) ::
      [] :: ls) = (event, payload) :: readLines {} ls := by
  have hname : Pending.add {} ("event: ".toList ++ event.toList) = { name := event } := by
    rw [Pending.add, field_event]
    rfl
  have hdata : Pending.add { name := event } ("data: ".toList ++ payload.toList) =
      { name := event, data := [payload] } := by
    rw [Pending.add, field_data]
    rfl
  have hfinish : Pending.finish { name := event, data := [payload] } = [(event, payload)] := by
    rw [Pending.finish, if_neg (List.cons_ne_nil _ _), if_neg hevent, String.intercalate_singleton]
  have hread : readLines {} (("event: ".toList ++ event.toList) ::
      ("data: ".toList ++ payload.toList) :: [] :: ls) =
      (Pending.add (Pending.add {} ("event: ".toList ++ event.toList))
        ("data: ".toList ++ payload.toList)).finish ++ readLines {} ls := rfl
  rw [hread, hname, hdata, hfinish]
  rfl

end EventStream

/-! ## Frames -/

namespace Frame

theorem textOf_cons (f : Frame) (frames : List Frame) :
    textOf (f :: frames) = f.text ++ textOf frames :=
  String.join_cons

/-- **A payload is a single line**, whatever is in it. -/
theorem isLine_payload (f : Frame) : EventStream.IsLine f.payload.toList :=
  ⟨f.content.not_mem_render (by decide), f.content.not_mem_render (by decide)⟩

theorem isLine_event : ∀ f : Frame, EventStream.IsLine f.event.toList
  | connected => by decide
  | ping => by decide
  | notification _ => show EventStream.IsLine "notification".toList by decide

theorem event_ne_empty : ∀ f : Frame, f.event ≠ ""
  | connected => by decide
  | ping => by decide
  | notification _ => show "notification" ≠ "" by decide

/-- The lines of a stream are those of its frames. -/
theorem readLines_textOf (frames : List Frame) :
    EventStream.readLines {} (EventStream.lines (textOf frames).toList) =
      frames.map fun f ↦ (f.event, f.payload) := by
  induction frames with
  | nil => rfl
  | cons f frames ih =>
    rw [textOf_cons, String.toList_append, text,
      EventStream.lines_eventText f.isLine_event f.isLine_payload,
      EventStream.readLines_event f.event_ne_empty, ih, List.map_cons]

/-- No mark stands before a stream. -/
theorem skipMark_textOf (frames : List Frame) :
    EventStream.skipMark (textOf frames).toList = (textOf frames).toList := by
  cases frames with
  | nil => rfl
  | cons f frames =>
    obtain ⟨cs, hcs⟩ : ∃ cs, (textOf (f :: frames)).toList = 'e' :: cs := by
      rw [textOf_cons, String.toList_append, text, eventText]
      simp
    rw [hcs]
    rfl

/-- **A stream of notifications can be read.**  Every payload is a single line, so what is read from
the text of some frames is the name and the payload of each of them in order, and a notification is
read from its payload as it was sent. -/
theorem textOf_readable (frames : List Frame) :
    (∀ f ∈ frames, EventStream.IsLine f.payload.toList) ∧
    EventStream.read (textOf frames) = frames.map (fun f ↦ (f.event, f.payload)) ∧
    ∀ n, .notification n ∈ frames → n.Fits →
      Notification.decode.parse (notification n).payload = .ok n := by
  refine ⟨fun f _ ↦ f.isLine_payload, ?_, fun n _ hn ↦ ?_⟩
  · rw [EventStream.read, skipMark_textOf, readLines_textOf]
  · have hjson : n.toJson.Fits := Notification.fits_toJson hn
    exact (Decoder.parse_render _ hjson).trans (Notification.decode_ofJson hn)

end Frame

end Microblog
