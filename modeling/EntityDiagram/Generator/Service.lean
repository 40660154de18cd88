import EntityDiagram.Generator.Chat
import EntityDiagram.Generator.Extract

/-! # The chat service as a text generator

One request per text. A status outside 200 to 299 is a refusal, whatever the body says.
-/

namespace EntityDiagram

namespace Service

/-- How long the client of this service waits. -/
def limits (s : Service) : Limits where
  whole := s.timeout

def post (s : Service) (instructions text : String) : Post where
  url := s.endpoint
  body := Chat.requestText s.model instructions text

def isSuccess (status : Nat) : Bool := 200 ≤ status && status < 300

/-- What comes of the answer to a request. -/
def interpret : Except String Response → Except GenerateError String
  | .error reason => .error (.request reason)
  | .ok response =>
    match response.text with
    | .error reason => .error (.request reason)
    | .ok body =>
      if isSuccess response.status then Chat.decode body
      else .error (.response response.status body)

def generate (s : Service) : Generator := fun instructions text => do
  let answer ← Dialogue.send (s.post instructions text)
  return interpret answer

end Service

end EntityDiagram
