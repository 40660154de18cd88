import EntityDiagram.Model.Display
import EntityDiagram.Source.Document

/-! # Structured text

A document that is given as declarations, with no generator in between. Its log begins with the
request and ends with the whole model.
-/

namespace EntityDiagram

namespace Structured

def requested : Record where
  level := .info
  origin := .program
  message := "Parsing structured text"

def modelRead (m : Model) : Record where
  level := .trace
  origin := .program
  message := "Parsed model"
  fields := [("model", m.display)]

def read (text : String) : Logged Model := do
  Logged.say requested
  let m ← Document.parse text
  Logged.say (modelRead m)
  return m

end Structured

end EntityDiagram
