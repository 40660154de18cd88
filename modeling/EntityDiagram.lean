import EntityDiagram.Source.Structured
import EntityDiagram.Model.Json
import EntityDiagram.Generator.Extract
import EntityDiagram.Export.Operation
import EntityDiagram.Data.Fields
import EntityDiagram.Json.Reader
import EntityDiagram.Config.Check
import EntityDiagram.Generator.Chat
import EntityDiagram.Generator.Service
import EntityDiagram.Toml.Reader
import EntityDiagram.Command.Run
import EntityDiagram.Report.Render
import EntityDiagram.Command.Program
import EntityDiagram.Main
import EntityDiagram.Proofs.Source.Classify
import EntityDiagram.Proofs.Source.RoundTrip
import EntityDiagram.Proofs.Source.Spacing
import EntityDiagram.Proofs.Source.WellFormed
import EntityDiagram.Proofs.Export.State
import EntityDiagram.Proofs.Drawing.Description
import EntityDiagram.Proofs.Drawing.Agreement
import EntityDiagram.Proofs.Drawing.Lines
import EntityDiagram.Proofs.Drawing.Order
import EntityDiagram.Proofs.Model.Store
import EntityDiagram.Proofs.Model.Equality
import EntityDiagram.Proofs.Model.Merge
import EntityDiagram.Proofs.Config.Endpoint
import EntityDiagram.Proofs.Files.Store
import EntityDiagram.Proofs.Export.Effects
import EntityDiagram.Proofs.Export.Slides
import EntityDiagram.Proofs.Files.Path
import EntityDiagram.Proofs.Command.Secondary
import EntityDiagram.Proofs.Json.Printing
import EntityDiagram.Proofs.Text.Utf8
import EntityDiagram.Proofs.Generator.Reply
import EntityDiagram.Proofs.Export.Suffix
import EntityDiagram.Proofs.Command.BaseName
import EntityDiagram.Proofs.Config.Source
import EntityDiagram.Proofs.Deck.Slide
import EntityDiagram.Proofs.Source.Noise
import EntityDiagram.Proofs.Source.Log
import EntityDiagram.Proofs.Source.Items
import EntityDiagram.Proofs.Deck.Brackets
import EntityDiagram.Proofs.Drawing.Element
import EntityDiagram.Proofs.Deck.Search
import EntityDiagram.Proofs.Deck.Package
import EntityDiagram.Proofs.Model.Json
import EntityDiagram.Proofs.Image.Header
import EntityDiagram.Proofs.Export.Height
import EntityDiagram.Proofs.Drawing.DataType
