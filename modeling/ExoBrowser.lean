import ExoBrowser.Library.Checked
import ExoBrowser.Library.Agreement
import ExoBrowser.Library.Cursor
import ExoBrowser.Library.Leb128
import ExoBrowser.Library.Recoding
import ExoBrowser.Library.Lz77
import ExoBrowser.Library.Framing
import ExoBrowser.Library.Picture
import ExoBrowser.Library.View
import ExoBrowser.Library.Canvas
import ExoBrowser.Library.Stencil
import ExoBrowser.Library.Machine
import ExoBrowser.Library.Mirror
import ExoBrowser.Library.Broadcast
import ExoBrowser.Library.Balance
import ExoBrowser.Library.Between
import ExoBrowser.Library.Gate
import ExoBrowser.Library.Deferred
import ExoBrowser.Library.FormQuery
import ExoBrowser.Library.LossyText
import ExoBrowser.Proto.Basic
import ExoBrowser.Proto.BasicProperties
import ExoBrowser.Proto.Varint
import ExoBrowser.Proto.Message
import ExoBrowser.Proto.Lz4
import ExoBrowser.Proto.Lz4Properties
import ExoBrowser.Proto.Lz4EncoderProperties
import ExoBrowser.Proto.Lz4DecoderProperties
import ExoBrowser.Proto.Lz4Reference
import ExoBrowser.Proto.Lz4Conformance
import ExoBrowser.Proto.Pixels
import ExoBrowser.Proto.PixelsProperties
import ExoBrowser.Proto.HalfResolution
import ExoBrowser.Proto.ColourRange
import ExoBrowser.Proto.Codec
import ExoBrowser.Proto.CodecProperties
import ExoBrowser.Proto.FrameProperties
import ExoBrowser.Proto.Reencoding
import ExoBrowser.Proto.Reservation
import ExoBrowser.Proto.SpatialFilter
import ExoBrowser.Link.Receive
import ExoBrowser.Link.ReceiveProperties
import ExoBrowser.Host.Frame
import ExoBrowser.Host.Diff
import ExoBrowser.Host.DiffProperties
import ExoBrowser.Host.DiffCoverProperties
import ExoBrowser.Host.ExactCover
import ExoBrowser.Host.State
import ExoBrowser.Host.DeltaProperties
import ExoBrowser.Host.DeltaStream
import ExoBrowser.Host.Screen
import ExoBrowser.Host.Replay
import ExoBrowser.Host.Stills
import ExoBrowser.Host.ClosedTabs
import ExoBrowser.Host.Publish
import ExoBrowser.Host.Requests
import ExoBrowser.Host.Interleaving
import ExoBrowser.Host.InterleavingProperties
import ExoBrowser.Host.Writer
import ExoBrowser.Host.WriterProperties
import ExoBrowser.Host.Lag
import ExoBrowser.Host.Wpe
import ExoBrowser.Host.Handshake
import ExoBrowser.Client.Core
import ExoBrowser.Client.IngestProperties
import ExoBrowser.Client.NetMain
import ExoBrowser.Client.Url
import ExoBrowser.Client.UrlProperties
import ExoBrowser.Client.SearchQuery
import ExoBrowser.Client.Input
import ExoBrowser.Client.InputProperties
import ExoBrowser.Client.Commands
import ExoBrowser.Client.TabProperties
import ExoBrowser.Client.Render
import ExoBrowser.Client.RenderProperties
import ExoBrowser.Client.RenderSafety
import ExoBrowser.Client.Overflow
import ExoBrowser.Client.Paint
import ExoBrowser.Client.PaintProperties
import ExoBrowser.Client.Chrome
import ExoBrowser.Client.ChromeProperties
import ExoBrowser.Client.ToolbarStencil
import ExoBrowser.Client.ContentProperties
import ExoBrowser.Client.Reach
import ExoBrowser.Client.Damage
import ExoBrowser.Client.DamageBounds
import ExoBrowser.Client.Touched
import ExoBrowser.Client.Refresh
import ExoBrowser.Client.Rendered
import ExoBrowser.Client.X11
import ExoBrowser.Client.X11Present
import ExoBrowser.Client.X11Properties
import ExoBrowser.Client.Composition
import ExoBrowser.Client.Portrait
import ExoBrowser.Client.Layers
import ExoBrowser.Client.Strip
import ExoBrowser.Client.StripProperties
import ExoBrowser.Client.Typing
import ExoBrowser.Client.FreshTabs
import ExoBrowser.Client.ListedTabs
import ExoBrowser.Client.Toolbar
import ExoBrowser.Client.Controls
import ExoBrowser.Client.ControlBalance
import ExoBrowser.Client.Repaint
import ExoBrowser.Client.Grouping
import ExoBrowser.Session.Titles
import ExoBrowser.Session.System
import ExoBrowser.Session.Convergence
import ExoBrowser.Session.NewTabs
import ExoBrowser.Session.ScreenPath
import ExoBrowser.Session.CommandPath
import ExoBrowser.Web.Framing
import ExoBrowser.Web.FramingProperties
import ExoBrowser.Web.DecodeLoop
import ExoBrowser.Web.Page
import ExoBrowser.Web.PageImages
import ExoBrowser.Web.PageMessages
import ExoBrowser.Web.PageCanvas
import ExoBrowser.Session.WebPath
