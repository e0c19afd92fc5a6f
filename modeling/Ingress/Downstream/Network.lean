import Ingress.Downstream.Outcome
import Ingress.Downstream.Request
import Ingress.Http.Url

/-!
# The network

The network answers requests. Its replies are fixed beforehand and taken one after the other, over
all calls; once they are used up, it fails without a code. An isolated network reaches no address
and resolves no name, and nothing is ever sent on it.
-/

namespace Ingress.Downstream

/-- What becomes of a request. -/
inductive Reply
  /-- Nothing, however long one waits. -/
  | never
  /-- Its outcome after some milliseconds. -/
  | after (millis : Nat) (outcome : Outcome)

/-- The network as outbound calls see it. -/
structure Network where
  isolated : Bool
  /-- The replies to come. -/
  replies : List Reply
  /-- The requests sent so far. -/
  sent : List Request

namespace Network

/-- A network with replies to come. -/
def ofReplies (replies : List Reply) : Network := ⟨false, replies, []⟩

/-- The network of a machine without connections. -/
def alone : Network := ⟨true, [], []⟩

/-- The words for a failure whose text belongs to the transport. -/
def transportMessage : String := "<transport message>"

/-- Where no connection is to be had, a name cannot be resolved, and an address fails without a
code. -/
def refusal (url : String) : Outcome :=
  let code := if (Http.Url.hostName? url).isSome then some NetworkCode.dnsFailure else none
  .network code transportMessage

/-- What becomes of a request that is sent now. -/
def reply (n : Network) (r : Request) : Reply :=
  if n.isolated then .after 0 (refusal r.url)
  else n.replies.headD (.after 0 (.network none "script exhausted"))

/-- The network after a request was sent. -/
def send (n : Network) (r : Request) : Network :=
  if n.isolated then n else { n with replies := n.replies.drop 1, sent := n.sent ++ [r] }

end Network

end Ingress.Downstream
