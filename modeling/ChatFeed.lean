import ChatFeed.Token.Parser
import ChatFeed.Token.Printer
import ChatFeed.Event.Json
import ChatFeed.Directory.Roster
import ChatFeed.Board
import ChatFeed.Hub.Pages
import ChatFeed.Hub.Sync
import ChatFeed.Main
import ChatFeed.Proofs.Id.Splitting
import ChatFeed.Proofs.Token.Canonical
import ChatFeed.Proofs.Json.Edit
import ChatFeed.Proofs.Json.Leaves
import ChatFeed.Proofs.Json.RoundTrip
import ChatFeed.Proofs.Event.Edit
import ChatFeed.Proofs.Event.RoundTrip
import ChatFeed.Proofs.Log.FanInPaging
import ChatFeed.Proofs.Log.FanOutPaging
import ChatFeed.Proofs.Log.History
import ChatFeed.Proofs.Log.Lookup
import ChatFeed.Proofs.Log.PresenceHistory
import ChatFeed.Proofs.Log.SegmentHistory
import ChatFeed.Proofs.Log.SignalAgreement
import ChatFeed.Proofs.Room.History
import ChatFeed.Proofs.Room.Joining
import ChatFeed.Proofs.Multiplexer.Awaiting
import ChatFeed.Proofs.Multiplexer.Delivery
import ChatFeed.Proofs.Multiplexer.Queues
import ChatFeed.Proofs.Board.Numbering
import ChatFeed.Proofs.Board.Unanswered
import ChatFeed.Proofs.Hub.Answer
import ChatFeed.Proofs.Hub.Finding
import ChatFeed.Proofs.Hub.Gaps
import ChatFeed.Proofs.Hub.LongPoll
import ChatFeed.Proofs.Hub.Membership
import ChatFeed.Proofs.Hub.NextToken
import ChatFeed.Proofs.Hub.Outside
import ChatFeed.Proofs.Hub.Paging
import ChatFeed.Proofs.Hub.Produced
import ChatFeed.Proofs.Hub.Refusal
import ChatFeed.Proofs.Hub.Replay
import ChatFeed.Proofs.Hub.Routing
import ChatFeed.Proofs.Hub.Sink
import ChatFeed.Proofs.Hub.Typing
import ChatFeed.Proofs.Hub.TypingEntries
import ChatFeed.Proofs.Hub.Typists
