import Mnser.Address.Lookup
import Mnser.Address.Mask
import Mnser.Address.Model
import Mnser.Address.Text
import Mnser.ByteArray.Codec
import Mnser.ByteArray.File
import Mnser.ByteArray.Model
import Mnser.ByteArray.Operations
import Mnser.ByteArray.Positional
import Mnser.ByteArray.Reading
import Mnser.ByteArray.Refinement
import Mnser.ByteArray.RoundTrip
import Mnser.Config.Casts
import Mnser.Config.ConfigVar
import Mnser.Config.LoadYaml
import Mnser.Config.Registry
import Mnser.Fd.Bounds
import Mnser.Fd.Manager
import Mnser.Fiber.Lifecycle
import Mnser.Fiber.Model
import Mnser.Framework.Blocks
import Mnser.Framework.Container
import Mnser.Framework.Custody
import Mnser.Framework.LastWord
import Mnser.Framework.NamedTree
import Mnser.Framework.OrderedSet
import Mnser.Framework.Ranges
import Mnser.Framework.Registers
import Mnser.Framework.Scanner
import Mnser.Framework.System
import Mnser.Framework.Transfer
import Mnser.Hook.Close
import Mnser.Hook.Connect
import Mnser.Hook.Intervals
import Mnser.Hook.Leftovers
import Mnser.Hook.LostTimeout
import Mnser.Hook.Model
import Mnser.Hook.Nonblock
import Mnser.Hook.Sleep
import Mnser.Http.Announced
import Mnser.Http.BodyLimit
import Mnser.Http.ByteClass
import Mnser.Http.Chunk
import Mnser.Http.Connection
import Mnser.Http.Cuts
import Mnser.Http.Dump
import Mnser.Http.Exchange
import Mnser.Http.Extensions
import Mnser.Http.Host
import Mnser.Http.Message
import Mnser.Http.Method
import Mnser.Http.ParserMemory
import Mnser.Http.Passage
import Mnser.Http.Receive
import Mnser.Http.RequestParser
import Mnser.Http.RequestRoundTrip
import Mnser.Http.RequestTable
import Mnser.Http.ResponseParser
import Mnser.Http.ResponseRoundTrip
import Mnser.Http.ResponseTable
import Mnser.Http.Server
import Mnser.Http.Servlet
import Mnser.Http.Session
import Mnser.Http.Url
import Mnser.IOManager.Accounting
import Mnser.IOManager.Contexts
import Mnser.IOManager.IdleTimeout
import Mnser.IOManager.Ledger
import Mnser.IOManager.Memory
import Mnser.IOManager.Model
import Mnser.IOManager.Reports
import Mnser.IOManager.Slots
import Mnser.IOManager.Unseen
import Mnser.Log.Inherit
import Mnser.Log.Items
import Mnser.Log.Listener
import Mnser.Log.Model
import Mnser.Log.Pattern
import Mnser.Log.Registry
import Mnser.Pool.Age
import Mnser.Pool.Exchange
import Mnser.Pool.Model
import Mnser.Pool.Owners
import Mnser.Pool.Reuse
import Mnser.Pool.Stages
import Mnser.Scheduler.Drain
import Mnser.Scheduler.Entries
import Mnser.Scheduler.Exclusive
import Mnser.Scheduler.Model
import Mnser.Scheduler.Order
import Mnser.Scheduler.Pinned
import Mnser.Scheduler.Stopping
import Mnser.Scheduler.Wakeup
import Mnser.Stream.FixSize
import Mnser.Stream.Values
import Mnser.Strtol
import Mnser.Tcp.Bind
import Mnser.Tcp.Conf
import Mnser.Tcp.Serve
import Mnser.Timer.Addresses
import Mnser.Timer.Answers
import Mnser.Timer.Cancelled
import Mnser.Timer.Expiry
import Mnser.Timer.Invariant
import Mnser.Timer.Model
import Mnser.Timer.Notify
import Mnser.Timer.Run
import Mnser.Uri.Accept
import Mnser.Uri.Authority
import Mnser.Uri.Classes
import Mnser.Uri.Components
import Mnser.Uri.Dump
import Mnser.Uri.Escapes
import Mnser.Uri.Holds
import Mnser.Uri.Model
import Mnser.Uri.Outline
import Mnser.Uri.Parse
import Mnser.Uri.Rewalk
import Mnser.Uri.RoundTrip
import Mnser.Uri.Table
import Mnser.Uri.Tail
import Mnser.Util.Rm
import Mnser.Word
import Mnser.Yaml.Node
