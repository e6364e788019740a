import Marquee.Bus.Queue
import Marquee.Bus.Record
import Marquee.Link.Tapped
import Marquee.Main
import Marquee.Service.ControlSide
import Marquee.Service.PanelSide
import Marquee.Proofs.Service.Relay
import Marquee.Proofs.Sign.Painter
import Marquee.Proofs.Service.Shown
import Marquee.Link.Conversation
import Marquee.Proofs.Link.Calls
import Marquee.Proofs.Link.Faulty
import Marquee.Proofs.Link.Answers
import Marquee.Proofs.Wire.Streams
import Marquee.Proofs.Link.Tapped
import Marquee.Proofs.Wire.Language
import Marquee.Proofs.Link.Dialogue
import Marquee.Link.Unsteady
import Marquee.Proofs.Link.Unsteady
import Marquee.Proofs.Link.WholeImages
import Marquee.Service.Interplay
import Marquee.Proofs.Service.Interplay
import Marquee.Proofs.Service.Orders
import Marquee.Proofs.Service.PowerTopic
import Marquee.Proofs.Link.RollCall
import Marquee.Proofs.Service.Watched
import Marquee.Service.Diary
import Marquee.Proofs.Service.Confirmed
import Marquee.Proofs.Service.Display
import Marquee.Proofs.Sign.Order
import Marquee.Proofs.Number.Binary
import Marquee.Proofs.Service.Heard
import Marquee.Proofs.Sign.Scrolling
import Marquee.Picture.Font
import Marquee.Picture.Window
import Marquee.Proofs.Picture.Window
import Marquee.Proofs.Picture.Survey
import Marquee.Proofs.Picture.Raster
import Marquee.Proofs.Picture.Font
import Marquee.Proofs.Sign.Shifted
import Marquee.Link.Logged
import Marquee.Proofs.Link.Bounds
import Marquee.Proofs.Link.Queued
import Marquee.Picture.Packed
import Marquee.Proofs.Picture.Packed
import Marquee.Proofs.Picture.Decoded
import Marquee.Proofs.Sign.Fields
import Marquee.Proofs.Clock.Words
import Marquee.Proofs.Number.Decimal
import Marquee.Proofs.Clock.Face
import Marquee.Proofs.Panel.Handling
import Marquee.Proofs.Sign.Stepwise
import Marquee.Proofs.Service.Rounds
import Marquee.Proofs.Service.Lettering
import Marquee.Proofs.Service.Rolling
import Marquee.Wire.Buffer
import Marquee.Proofs.Wire.Buffer
import Marquee.Program.Grammar
import Marquee.Proofs.Program.Grammar
import Marquee.Panel.Traffic
import Marquee.Proofs.Panel.Traffic
import Marquee.Service.Overhearing
import Marquee.Proofs.Service.Overhearing
import Marquee.Proofs.Service.Switching
