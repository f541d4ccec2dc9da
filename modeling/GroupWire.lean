import GroupWire.Binary64.Read
import GroupWire.Catalogue
import GroupWire.Config.File
import GroupWire.Config
import GroupWire.Draft.Request
import GroupWire.EventKind.Table
import GroupWire.Log.Logger
import GroupWire.Log.Message
import GroupWire.Value.Make
import GroupWire.Value.Order
import GroupWire.Proofs.Text
import GroupWire.Proofs.Text.Lowercase
import GroupWire.Proofs.Uri.Encoded
import GroupWire.Proofs.Uri.DotSegments
import GroupWire.Proofs.Idna.Label
import GroupWire.Proofs.Uri.Host
import GroupWire.Proofs.Uri.Authority
import GroupWire.Proofs.Uri.Reference
import GroupWire.Proofs.Uri
import GroupWire.Proofs.Url
import GroupWire.Proofs.Url.Host
import GroupWire.Proofs.Url.LastSlash
import GroupWire.Proofs.GroupId
import GroupWire.Proofs.Uri.Segments
import GroupWire.Proofs.EventKind.Table
import GroupWire.Proofs.Group.Admins
import GroupWire.Proofs.Group.Metadata
import GroupWire.Proofs.Url.NormalForm
import GroupWire.Proofs.Draft
import GroupWire.Proofs.Outcome
import GroupWire.Proofs.Log.Pairs
import GroupWire.Proofs.Log.Logger
import GroupWire.Proofs.Group.Growth
import GroupWire.Proofs.Config.Field
import GroupWire.Proofs.Config.Texts
import GroupWire.Proofs.Config
import GroupWire.Proofs.Uri.Triplets
import GroupWire.Proofs.Idna.Case
import GroupWire.Proofs.Url.Rest
import GroupWire.Proofs.GroupId.Delimiter
import GroupWire.Proofs.Url.Spelling
import GroupWire.Proofs.Uri.Reread
import GroupWire.Proofs.Url.Reread
import GroupWire.Proofs.Uri.Extent
import GroupWire.Proofs.Url.Extent
import GroupWire.Proofs.Group.Items
import GroupWire.Proofs.Policy
import GroupWire.Proofs.Log.Blanks
import GroupWire.Proofs.Log.Json
import GroupWire.Proofs.Log.Renderings
import GroupWire.Proofs.Value.Order
import GroupWire.Proofs.GroupId.Order
import GroupWire.Proofs.Config.File
