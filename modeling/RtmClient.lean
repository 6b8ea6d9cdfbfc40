import RtmClient.Basic
import RtmClient.Registry
import RtmClient.Session
import RtmClient.Session.Steps
import RtmClient.Session.Invariant
import RtmClient.Session.Loops
import RtmClient.Session.Delivery
import RtmClient.Position.Decimal
import RtmClient.Position
import RtmClient.Resilient
import RtmClient.Resilient.Restart
import RtmClient.Resilient.Replay
import RtmClient.Conversation
import RtmClient.Conversation.Safety
import RtmClient.Conversation.Progress
import RtmClient.Conversation.Delivery
import RtmClient.RequestIds
import RtmClient.Wire
import RtmClient.ThreadChecking
