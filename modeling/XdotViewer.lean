import XdotViewer.CommandLine.Directory
import XdotViewer.Main
import XdotViewer.Overlay.Record
import XdotViewer.Proofs.Document.Braces
import XdotViewer.Proofs.Document.Containment
import XdotViewer.Proofs.Document.LineJoining
import XdotViewer.Proofs.Document.RoundTrip
import XdotViewer.Proofs.Drawing.Isolation
import XdotViewer.Proofs.Drawing.PenFollowing
import XdotViewer.Proofs.Drawing.Encoded
import XdotViewer.Proofs.Drawing.Leftovers
import XdotViewer.Proofs.Geometry.Marking
import XdotViewer.Proofs.Geometry.Placed
import XdotViewer.Proofs.Images.Session
import XdotViewer.Proofs.Viewer.LastOutcome
import XdotViewer.Proofs.CommandLine.Recording
import XdotViewer.Proofs.Scene.DrawBlocks
import XdotViewer.Proofs.Document.Bodies
import XdotViewer.Proofs.Overlay.Markup
import XdotViewer.Proofs.Viewer.Session
import XdotViewer.Proofs.Geometry.Dots
import XdotViewer.Proofs.Geometry.Enclosing
import XdotViewer.Proofs.Geometry.EvenMarks
import XdotViewer.Proofs.Geometry.Dashes
import XdotViewer.Proofs.Scene.Inheritance
import XdotViewer.Proofs.Scene.Expansion
import XdotViewer.Proofs.Document.BadLines
import XdotViewer.Proofs.Document.VersionOrder
import XdotViewer.Proofs.Document.AttributeOrder
import XdotViewer.Proofs.Geometry.HitTesting
import XdotViewer.Proofs.Geometry.Histories
import XdotViewer.Proofs.Drawing.LeastBoxes
import XdotViewer.Proofs.Drawing.Splines
import XdotViewer.Proofs.Script.Takings
import XdotViewer.Proofs.Color.HexForm
import XdotViewer.Proofs.Color.HueCircle
import XdotViewer.Proofs.Color.Registration
import XdotViewer.Proofs.Drawing.RootBox
import XdotViewer.Proofs.Drawing.RegionEdges
