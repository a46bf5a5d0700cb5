import PolicyServer.AnsweredDecisions
import PolicyServer.ReportBodies

namespace PolicyServer

open Lib System JsonText

/-!
# The bodies that clients get

From the socket to the client: a handler puts the line that it has read into the body
of its response, and a client that reads the body as JSON finds the fields of the
report that the peer has made for the decision of this handler.
-/

/-- The line of a report as `gctl_request` and `gctl_04` send it, where `response` has
room for the line and `metrics` for the times. -/
def Reader.reply (reader : Reader) (line : String) (timings : Timings) : Option Reply :=
  if line.utf8ByteSize < reader.size ∧ (metricAttach timings).utf8ByteSize < line.utf8ByteSize then
    (Answer.report line timings).reply
  else none

namespace Conversation

end Conversation
end PolicyServer
