import EntityDiagram.Generator.Error
import EntityDiagram.Source.Document
import EntityDiagram.Web.Dialogue

/-! # Models from free-form text

A text generator turns free-form text into declarations, which are then read like any document. It
may ask a service for them. A generator that fails yields an empty model and an error record.
-/

namespace EntityDiagram

/-- What a text generator makes of its instructions and a text. -/
abbrev Generator := String → String → Dialogue (Except GenerateError String)

namespace Generator

def instructions : String :=
  "\n".intercalate
    ["Extract entities and relationships from the given text.",
      "Format the response as follows:",
      "",
      "Entity: EntityName [attribute1, attribute2, ...]",
      "Relationship: Entity1 -- relationship_name --> Entity2 (cardinality)",
      "",
      "Mark primary key attributes with a trailing `*`.",
      "",
      "Example:",
      "Entity: Hotel [id*, name, location]",
      "Entity: Room [id*, hotel_id, room_number, price]",
      "Entity: Customer [id*, name, email]",
      "Entity: Booking [id*, customer_id, hotel_id, booking_date]",
      "",
      "Relationship: Hotel -- has --> Room (1:N)",
      "Relationship: Customer -- makes --> Booking (1:N)",
      "Relationship: Booking -- belongs_to --> Hotel (1:1)",
      "",
      "Do not include explanations, just return the structured output."]

def requested : Record where
  level := .info
  origin := .reading
  message := "Requesting structured text from generator"

def replied (output : String) : Record where
  level := .trace
  origin := .reading
  message := "Generator output"
  fields := [("output", output)]

def failed (e : GenerateError) : Record where
  level := .error
  origin := .reading
  message := "Text generation failed: " ++ e.message

/-- The model that the output of a generator stands for, or none if it failed. -/
def read (answer : Except GenerateError String) : Logged Model := do
  Logged.say requested
  match answer with
  | .ok output => do
    Logged.say (replied output)
    Document.parse output
  | .error e => do
    Logged.say (failed e)
    return .empty

def extract (generate : Generator) (text : String) : Dialogue (Logged Model) := do
  let answer ← generate instructions text
  return read answer

@[simp] theorem run_extract (generate : Generator) (text : String) (client : Client) :
    (extract generate text).run client =
      { value := read ((generate instructions text).run client).value
        posts := ((generate instructions text).run client).posts } := by
  rw [extract, Dialogue.run_bind]
  simp only [Dialogue.run_pure, List.append_nil]

end Generator

end EntityDiagram
