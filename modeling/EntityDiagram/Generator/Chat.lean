import EntityDiagram.Config.Basic
import EntityDiagram.Generator.Error
import EntityDiagram.Json.Printer
import EntityDiagram.Json.Reader

/-! # Chat messages

A request names the model and carries the instructions and the text as two messages; the reply is
the content of the message that comes back.
-/

namespace EntityDiagram

namespace Chat

def message (role content : String) : Value :=
  .record [("role", .text role), ("content", .text content)]

def request (model instructions text : String) : Value :=
  .record [("model", .text model),
    ("messages", .array [message "system" instructions, message "user" text]),
    ("stream", .bool false)]

def requestText (model instructions text : String) : String :=
  Json.render (request model instructions text)

def content? (value : Value) : Option String :=
  match value.fields? ["content"] false with
  | some [some content] => content.string?
  | _ => none

/-- The content that a reply carries. -/
def reply? (value : Value) : Option String :=
  match value.fields? ["message"] false with
  | some [some message] => content? message
  | _ => none

def decode (body : String) : Except GenerateError String :=
  match (Json.read? body).bind reply? with
  | some content => .ok content
  | none => .error (.decode "the body holds no message with a content")

end Chat

end EntityDiagram
