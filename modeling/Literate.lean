import Literate.Anchor
import Literate.AnnotationFile.Load
import Literate.Assembly
import Literate.Command.Session
import Literate.Comment.Group
import Literate.File.Store
import Literate.Json.Printer
import Literate.Json.Reader
import Literate.Main
import Literate.Partition
import Literate.Producer
import Literate.Proofs.Assembly.Ending
import Literate.Proofs.Document.Lossless
import Literate.Render.Format
import Literate.Script.Highlight
import Literate.Script.Symbols
import Literate.Text.Normal
import Literate.Tree.Highlight
import Literate.Proofs.Assembly.Silence
import Literate.Proofs.Assembly.Containment
import Literate.Proofs.Script.Pattern
import Literate.Proofs.Document.Script
import Literate.Proofs.Assembly.Shape
import Literate.Proofs.Document.Annotated
import Literate.Proofs.Render.Recovery
import Literate.Proofs.Render.Replacement
import Literate.Proofs.Render.Listing
import Literate.Proofs.Command.Saving
import Literate.Proofs.Command.Outcome
import Literate.Proofs.Document.Reorder
import Literate.Proofs.Comment.Between
import Literate.Proofs.Partition.Flat
import Literate.Proofs.Buffer.Extract
import Literate.Proofs.Tree.Bytes
import Literate.Proofs.Comment.Sift
import Literate.Proofs.Tree.Classes
import Literate.Proofs.Script.Decorator
import Literate.Proofs.Script.Reference
import Literate.Proofs.Anchor
import Literate.Proofs.Script.Indexed
import Literate.Proofs.Render.Link
import Literate.Proofs.Comment.Clean
import Literate.Proofs.AnnotationFile.Loaded
import Literate.Proofs.Assembly.Advance
import Literate.Proofs.Tree.Preorder
import Literate.Proofs.Buffer.Column
import Literate.Proofs.Command.Selection
