import ResponsesBridge.Failure
import ResponsesBridge.Json.Scan
import ResponsesBridge.Text.Blank
import ResponsesBridge.Wire.Event

/-!
# Payloads of stream events

The service sends each event as a JSON text. Payloads that are blank and the mark for the end of
the stream carry no event.
-/

set_option autoImplicit false

namespace ResponsesBridge.Inbound

open Wire (Event)

/-- What the service sends behind the last event. -/
def endMark : String := "[DONE]"

/-- The event of a JSON text. -/
def eventOf (text : String) : Except Failure Event :=
  (Json.readText Event.codec.read text).mapError .malformedEvent

/-- The event of a payload, if it carries one. -/
def event? (payload : String) : Option (Except Failure Event) :=
  let text := Text.trim payload
  if text.isEmpty || text == endMark then none else some (eventOf text)

/-- A payload carries no event exactly if it is blank or the mark for the end. -/
theorem event?_eq_none_iff (payload : String) :
    event? payload = none ↔ Text.trim payload = "" ∨ Text.trim payload = endMark := by
  simp [event?, Decidable.or_iff_not_imp_left]

end ResponsesBridge.Inbound
