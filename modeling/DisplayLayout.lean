import DisplayLayout.Align
import DisplayLayout.Artifact.Basic
import DisplayLayout.Artifact.DisplayLambda
import DisplayLayout.Artifact.PageTree
import DisplayLayout.Artifact.ServiceCall
import DisplayLayout.Catalogue
import DisplayLayout.Color
import DisplayLayout.CommandLine.Arguments
import DisplayLayout.CommandLine.FileAccess
import DisplayLayout.CommandLine.Folder
import DisplayLayout.CommandLine.Run
import DisplayLayout.Compile
import DisplayLayout.Condition
import DisplayLayout.Config
import DisplayLayout.Declaration
import DisplayLayout.Declared
import DisplayLayout.Device
import DisplayLayout.Dither
import DisplayLayout.DrawHelper
import DisplayLayout.Drawing
import DisplayLayout.Event
import DisplayLayout.Failure
import DisplayLayout.Font
import DisplayLayout.Generation
import DisplayLayout.Icon
import DisplayLayout.Identifier
import DisplayLayout.Json.Basic
import DisplayLayout.Json.Number
import DisplayLayout.Json.Printer
import DisplayLayout.Json.Reader
import DisplayLayout.Keyed
import DisplayLayout.Lambda.Literal
import DisplayLayout.Lambda.Statement
import DisplayLayout.Ledger
import DisplayLayout.Line
import DisplayLayout.Main
import DisplayLayout.Marker.Quoted
import DisplayLayout.Marker.Record
import DisplayLayout.Marker.Token
import DisplayLayout.Mode
import DisplayLayout.Numeric.Binary64
import DisplayLayout.Numeric.FloatReader
import DisplayLayout.Numeric.Hexadecimal
import DisplayLayout.Numeric.Integer
import DisplayLayout.Numeric.Shortest
import DisplayLayout.Project.Basic
import DisplayLayout.Project.Decode
import DisplayLayout.Project.Document
import DisplayLayout.Project.Normal
import DisplayLayout.Qr.Encoder
import DisplayLayout.Qr.Symbol
import DisplayLayout.Recovery
import DisplayLayout.Rect
import DisplayLayout.Request
import DisplayLayout.Sensor
import DisplayLayout.Stack
import DisplayLayout.Text.Basic
import DisplayLayout.Text.Printable
import DisplayLayout.Tier
import DisplayLayout.Toml.Basic
import DisplayLayout.Toml.Reader
import DisplayLayout.Toml.Scalar
import DisplayLayout.Widget.Behaviour
import DisplayLayout.Widget.Binding
import DisplayLayout.Widget.Calendar
import DisplayLayout.Widget.Caption
import DisplayLayout.Widget.Clock
import DisplayLayout.Widget.Control
import DisplayLayout.Widget.Element
import DisplayLayout.Widget.Entry
import DisplayLayout.Widget.Figure
import DisplayLayout.Widget.Gauge
import DisplayLayout.Widget.Graph
import DisplayLayout.Widget.Image
import DisplayLayout.Widget.Instrument
import DisplayLayout.Widget.Kind
import DisplayLayout.Widget.Node
import DisplayLayout.Widget.Panel
import DisplayLayout.Widget.Picture
import DisplayLayout.Widget.PointList
import DisplayLayout.Widget.ProgressBar
import DisplayLayout.Widget.Property
import DisplayLayout.Widget.QrCode
import DisplayLayout.Widget.Readout
import DisplayLayout.Widget.Shape
import DisplayLayout.Widget.Symbol
import DisplayLayout.Widget.TouchArea
import DisplayLayout.Widget.View
import DisplayLayout.Yaml
import DisplayLayout.Proofs.Artifact.Fixpoint
import DisplayLayout.Proofs.Artifact.Identifiers
import DisplayLayout.Proofs.Artifact.Partition
import DisplayLayout.Proofs.Artifact.Prelude
import DisplayLayout.Proofs.Artifact.Served
import DisplayLayout.Proofs.Artifact.Shared
import DisplayLayout.Proofs.Color
import DisplayLayout.Proofs.Coordinates
import DisplayLayout.Proofs.IconRegistry
import DisplayLayout.Proofs.Marker.Tiling
import DisplayLayout.Proofs.Project.Distinct
import DisplayLayout.Proofs.Recovery.Redrawn
import DisplayLayout.Proofs.Stack
import DisplayLayout.Proofs.Tier
import DisplayLayout.Proofs.Trigger
import DisplayLayout.Proofs.Widget.Border
import DisplayLayout.Proofs.Widget.Inverse
import DisplayLayout.Proofs.Yaml.Faithful
import DisplayLayout.Proofs.Yaml.Resolution
