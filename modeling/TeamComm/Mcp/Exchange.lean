import TeamComm.Client.Link
import TeamComm.Mcp.Server

/-!
# Tools over a connection

The server takes one line after the other.  A tool connects for its call, and the server reads no
other line until the call has returned.
-/

namespace TeamComm

open Json (Value)

namespace Mcp

/-! ## What a line asks for -/

/-- A host which answers a call with the call itself. -/
def echo (processId : UInt32) : Host where
  processId
  connect := .ok ⟨⟩
  call sent := .ok (.object [("method", .string sent.method), ("params", sent.params)])

/-- The call which a tool makes, if there is the tool and it accepts its arguments. -/
def asked (processId : UInt32) (tool : String) (args : Value) : Option MethodCall :=
  match route (echo processId) tool args with
  | .ok sent => some ⟨((sent.get "method").bind Json.asStr).getD "", sent.getOrNull "params"⟩
  | .error _ => none

section Serving

variable [SerdeJson]

/-- The call which a line makes the server send. -/
def sentBy (processId : UInt32) (line : String) : Option MethodCall :=
  if trim line = "" then none
  else
    (messageOf line).bind fun req =>
      if (req.get "method").bind Json.asStr = some "tools/call" then
        let params := req.getOrNull "params"
        ((params.get "name").bind Json.asStr).bind fun tool =>
          asked processId tool (params.getOrNull "arguments")
      else none

/-! ## The server -/

/-- What the server is doing. -/
inductive ServerState
  /-- It waits for a line, in front of a daemon in a state. -/
  | reading (state : AppStateInner)
  /-- The call of a line is running. -/
  | calling (line : String) (link : Link)
  /-- It has ended. -/
  | ended (state : AppStateInner)

/-- The state of the daemon. -/
def ServerState.daemon : ServerState → AppStateInner
  | reading state | ended state => state
  | calling _ link => link.state

/-- What happens next. -/
inductive ServerEvent
  /-- The server reads a line; a tool connects or does not, and the write of its call may fail. -/
  | line (line : String) (connect : Except String Unit) (fault : Option Nat)
  /-- Its standard input ends, or cannot be read, as where a line is no UTF-8 text. -/
  | ends
  /-- Something happens to the running call, or to the daemon. -/
  | link (event : LinkEvent)

/-- A host on which the call of a tool has returned. -/
def returned (processId : UInt32) (outcome : Except ClientError Value) : Host where
  processId
  connect := .ok ⟨⟩
  call _ := outcome.mapError ClientError.display

/-- A host whose tools make no call. -/
def unreached (processId : UInt32) (connect : Except String Unit) : Host where
  processId
  connect
  call _ := .error ""

/-- The server as a machine which gives out its replies.  A connection which a call gives up is from
then on one of the others. -/
def server [Chrono] (manifest : Manifest) (processId : UInt32) :
    Mealy ServerState ServerEvent (Option Value) where
  step
    | .reading state, .line line connect fault =>
        match sentBy processId line, connect with
        | some sent, .ok _ =>
            match (Link.connected state).begin sent fault with
            | (some finished, link) =>
                (serveLine manifest (returned processId finished.outcome) line, .reading link.state)
            | (none, link) => (none, .calling line link)
        | _, _ => (serveLine manifest (unreached processId connect) line, .reading state)
    | .reading state, .ends => (none, .ended state)
    | .reading state, .link (.meanwhile call) => (none, .reading (daemon.step state call).2)
    | .reading state, .link _ => (none, .reading state)
    | .calling line link, .line .. | .calling line link, .ends => (none, .calling line link)
    | .calling line link, .link event =>
        match TeamComm.link.step link event with
        | (some finished, link) =>
            (serveLine manifest (returned processId finished.outcome) line, .reading link.state)
        | (none, link) => (none, .calling line link)
    | .ended state, .link (.meanwhile call) => (none, .ended (daemon.step state call).2)
    | .ended state, _ => (none, .ended state)

end Serving

end Mcp

end TeamComm
