/-! # Why text generation fails

The service could not be reached, refused the request, answered something that is no reply, or is
not there at all.
-/

namespace EntityDiagram

inductive GenerateError where
  | request (reason : String)
  | response (status : Nat) (body : String)
  | decode (reason : String)
  | unavailable (reason : String)
  deriving DecidableEq, Repr

namespace GenerateError

def message : GenerateError → String
  | request reason => "request failed: " ++ reason
  | response status _ => "service responded with status " ++ toString status
  | decode reason => "could not decode response: " ++ reason
  | unavailable reason => "text generator unavailable: " ++ reason

end GenerateError

end EntityDiagram
