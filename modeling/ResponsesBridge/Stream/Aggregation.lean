import ResponsesBridge.Conversation.Reply

/-!
# Aggregation

An aggregator decides which replies the caller of a stream gets: it is given the generations of
the stream one after the other, and is closed at the end.

The accumulating aggregator (`accumulating`) passes every fragment of text on as a partial reply,
and repeats the collected texts as one reply that is not partial before anything else than text,
and at the end. The transparent one (`transparent`) passes everything on as it is.
-/

set_option autoImplicit false

namespace ResponsesBridge.Stream

open Conversation (Part Generation Reply Usage)

/-- What turns generations into replies. -/
structure Aggregator where
  State : Type
  initial : State
  add : State → Generation → List Reply × State
  close : State → Option Reply × State

/-! ## Accumulating texts -/

/-- What has been collected since the last complete reply. -/
structure Accumulated where
  text : String := ""
  thought : String := ""
  usage : Option Usage := none
  modelVersion : String := ""

namespace Accumulated

/-- The parts that repeat what has been collected: thoughts first. -/
def parts (collected : Accumulated) : List Part :=
  (if collected.thought.isEmpty then [] else [Part.ofThought collected.thought]) ++
    (if collected.text.isEmpty then [] else [Part.ofText collected.text])

/-- The reply that repeats what has been collected, if there is any text; texts and usage start
again behind it. -/
def flush (collected : Accumulated) : Option Reply × Accumulated :=
  match collected.parts with
  | [] => (none, collected)
  | parts =>
    let reply : Reply :=
      { turn := some ⟨Conversation.modelRole, parts⟩
        usage := collected.usage
        modelVersion := collected.modelVersion }
    (some reply, { modelVersion := collected.modelVersion })

/-- The usage and the model of a generation, where it tells them. -/
def note (collected : Accumulated) (generation : Generation) : Accumulated :=
  { collected with
    usage := generation.usage.or collected.usage
    modelVersion :=
      if generation.modelVersion.isEmpty then collected.modelVersion
      else generation.modelVersion }

/-- One more passage. -/
def append (collected : Accumulated) (passage : Conversation.Passage) : Accumulated :=
  if passage.thought then { collected with thought := collected.thought ++ passage.text }
  else { collected with text := collected.text ++ passage.text }

/-- The parts of the first candidate of a generation. -/
def firstParts (generation : Generation) : List Part :=
  match generation.candidates with
  | [] => []
  | candidate :: _ => candidate.turn.parts

/-- The passages of parts that are all passages. -/
def passages? : List Part → Option (List Conversation.Passage)
  | [] => some []
  | part :: parts => do
    let passage ← part.passage?
    let later ← passages? parts
    return passage :: later

/-- Text is collected and passed on as a partial reply; anything else is passed on behind what has
been collected. -/
def add (collected : Accumulated) (generation : Generation) : List Reply × Accumulated :=
  let noted := collected.note generation
  let reply := Reply.ofGeneration generation
  match passages? (firstParts generation) with
  | some (passage :: passages) =>
    ([{ reply with isPartial := true }], (passage :: passages).foldl append noted)
  | _ =>
    let (repeated, rest) := noted.flush
    (repeated.toList ++ [reply], rest)

/-- What has been collected is repeated as the reply that completes the turn. -/
def close (collected : Accumulated) : Option Reply × Accumulated :=
  let (repeated, rest) := collected.flush
  (repeated.map fun reply => { reply with turnComplete := true }, rest)

end Accumulated

/-- The aggregator that repeats collected texts. -/
def accumulating : Aggregator where
  State := Accumulated
  initial := {}
  add := Accumulated.add
  close := Accumulated.close

/-- The aggregator that collects nothing. -/
def transparent : Aggregator where
  State := Unit
  initial := ()
  add _ generation := ([Reply.ofGeneration generation], ())
  close _ := (none, ())

end ResponsesBridge.Stream
