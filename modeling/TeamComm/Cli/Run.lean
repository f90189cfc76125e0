import TeamComm.Cli.Commands
import TeamComm.Cli.Rpc

/-!
# How subcommands end

Most subcommands print a placeholder and succeed whatever goes wrong; those for sessions fail, and
`daemon stop` succeeds where it takes the daemon for one which cannot be stopped.
-/

namespace TeamComm

open Json (Value)

/-- How a subcommand ends. -/
inductive Ending
  /-- It prints the result of its call and succeeds. -/
  | printed (result : Value)
  /-- It prints a line, with a hint beside it if there is one, and succeeds. -/
  | noted (line : String) (hint : Option String)
  /-- It fails. -/
  | failed (message : String)

/-- The subcommand reports success. -/
def Ending.succeeds : Ending → Bool
  | printed _ | noted _ _ => true
  | failed _ => false

namespace Cli

/-- `call_into`: a call over a stream of its own, if there is one, and the state of the daemon which
it leaves behind. -/
def callInto [Chrono] [SerdeRecords] (connect : Except String Unit) (state : AppStateInner)
    (call : MethodCall) (env : Env) (wire : Wire) :
    Except String (Except RpcCallError Value) × AppStateInner :=
  match connect with
  | .error reason => (.error (RpcCallError.transport s!"connect: {reason}").display, state)
  | .ok _ =>
      let (result, after) := exchange state call env wire
      (.ok result, after)

def m0Placeholder (method : String) : String :=
  s!"(M0 placeholder) `{method}` is not yet implemented in the daemon — full support lands in M1–M3."

/-- The subcommands of reservations, inbox, state and discover. -/
def placeholderOr (method socket : String) : Except String (Except RpcCallError Value) → Ending
  | .ok (.ok value) => .printed value
  | .ok (.error (.methodNotFound message)) => .noted (m0Placeholder method) (some message)
  | .ok (.error (.transport reason)) =>
      .noted (m0Placeholder method) (some s!"daemon is not reachable at {socket} ({reason})")
  | .ok (.error error) => .noted (m0Placeholder method) (some error.display)
  | .error error => .noted (m0Placeholder method) (some error)

/-- The subcommands of sessions. -/
def dispatchSession (method : String) : Except String (Except RpcCallError Value) → Ending
  | .ok (.ok value) => .printed value
  | .ok (.error (.methodNotFound message)) =>
      .failed s!"daemon does not implement `{method}` yet ({message})"
  | .ok (.error error) => .failed error.display
  | .error error => .failed error

/-- What `daemon stop` makes of the answer. -/
def stopped (socket : String) : Except String (Except RpcCallError Value) → Ending
  | .ok (.ok _) => .noted "daemon acknowledged shutdown" none
  | .ok (.error (.methodNotFound message)) =>
      .noted (s!"(M0 placeholder) `daemon.shutdown` is not yet implemented ({message}). " ++
        "The daemon binary is a stub in M0; nothing to stop.") none
  | .ok (.error (.transport reason)) =>
      .noted s!"could not reach the daemon at {socket} ({reason}); nothing to stop" none
  | .ok (.error error) => .failed error.display
  | .error error => .failed error

/-- `daemon stop`. -/
def stop [Chrono] [SerdeRecords] (socket : String) (connect : Except String Unit)
    (state : AppStateInner) (env : Env) (wire : Wire) : Ending × AppStateInner :=
  let (result, after) := callInto connect state ⟨"daemon.shutdown", .object []⟩ env wire
  (stopped socket result, after)

end Cli

/-- What a subcommand makes of the result of its call. -/
def CliCommand.ending (command : CliCommand) (call : MethodCall) (socket : String) :
    Except String (Except RpcCallError Value) → Ending :=
  match command with
  | .sessionsShow _ => Cli.dispatchSession call.method
  | _ => Cli.placeholderOr call.method socket

/-- A subcommand: how it ends, unless it panics, and the state which it leaves of the daemon. -/
def CliCommand.run [Chrono] [SerdeRecords] (command : CliCommand) (socket : String)
    (connect : Except String Unit) (state : AppStateInner) (env : Env) (wire : Cli.Wire) :
    Option Ending × AppStateInner :=
  match command.sent with
  | none => (none, state)
  | some call =>
      let (result, after) := Cli.callInto connect state call env wire
      (some (command.ending call socket result), after)

end TeamComm
