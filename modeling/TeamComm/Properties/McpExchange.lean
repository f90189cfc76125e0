import TeamComm.Mcp.Exchange
import TeamComm.Properties.McpTools
import TeamComm.Properties.TypedCalls

/-!
# What a reply of the tool server rests on

A line which makes the server call the daemon is answered with what the call has returned; every
other line is answered without the daemon.
-/

namespace TeamComm

open Json (Value)

namespace Mcp

/-! ## Tools -/

/-- Whatever its host is, a tool fails, or forwards the same call. -/
def Uniform (processId : UInt32) (tool : Host → Except String Value) : Prop :=
  (∃ error, ∀ host, host.processId = processId → tool host = .error error) ∨
    ∃ label method params, ∀ host, host.processId = processId →
      tool host = forward host label method params

namespace Uniform

variable {processId : UInt32}

theorem fails (error : String) : Uniform processId fun _ => .error error :=
  .inl ⟨error, fun _ _ => rfl⟩

theorem forwards (label method : String) (params : UInt32 → List (String × Value)) :
    Uniform processId fun host => forward host label method (params host.processId) :=
  .inr ⟨label, method, params processId, fun _ same => by rw [← same]⟩

/-- A tool looks at its arguments before it turns to its host. -/
theorem bind {α : Type} (check : Except String α) {next : α → Host → Except String Value}
    (uniform : ∀ argument, Uniform processId (next argument)) :
    Uniform processId fun host => check >>= fun argument => next argument host := by
  cases check with
  | error error => exact fails error
  | ok argument => exact uniform argument

end Uniform

theorem uniform_route (processId : UInt32) (tool : String) (args : Value) :
    Uniform processId fun host => route host tool args := by
  unfold route
  split
  · exact .bind _ fun _ => .bind _ fun _ =>
      .forwards _ _ fun pid => [_, ("pid", .u64 pid.toUInt64), _]
  · exact .bind _ fun _ => .forwards _ _ fun _ => _
  · exact .forwards _ _ fun _ => _
  · exact .bind _ fun _ => .bind _ fun _ => .bind _ fun _ => .forwards _ _ fun _ => _
  · exact .bind _ fun _ => .forwards _ _ fun _ => _
  · exact .forwards _ _ fun _ => _
  · exact .bind _ fun _ => .bind _ fun _ => .forwards _ _ fun _ => _
  · exact .bind _ fun _ => .forwards _ _ fun _ => _
  · exact .bind _ fun _ => .bind _ fun _ => .forwards _ _ fun _ => _
  · exact .bind _ fun _ => .bind _ fun _ => .forwards _ _ fun _ => _
  · exact .bind _ fun _ => .forwards _ _ fun _ => _
  · exact .fails _

/-- A tool which makes no call does without its host; another one forwards its call. -/
theorem route_asked (processId : UInt32) (tool : String) (args : Value) :
    (asked processId tool args = none ∧
      ∃ error, ∀ host, host.processId = processId → route host tool args = .error error) ∨
    ∃ label method params, asked processId tool args = some ⟨method, .object params⟩ ∧
      ∀ host, host.processId = processId →
        route host tool args = forward host label method params := by
  rcases uniform_route processId tool args with ⟨error, fails⟩ | ⟨label, method, params, forwards⟩
  · have failed : route (echo processId) tool args = .error error := fails _ rfl
    exact .inl ⟨by rw [asked, failed], error, fails⟩
  · have forwarded :
        route (echo processId) tool args = forward (echo processId) label method params :=
      forwards _ rfl
    have method_sent : (Value.object [("method", .string method),
        ("params", .object params)]).get "method" = some (.string method) := by
      simp [Value.get_object, Json.lookup_cons_eq_ite, Value.string]
    have params_sent : (Value.object [("method", .string method),
        ("params", .object params)]).getOrNull "params" = .object params := by
      simp [Value.getOrNull, Value.get_object]
    refine .inr ⟨label, method, params, ?_, forwards⟩
    rw [asked, forwarded]
    simp only [forward, echo, method_sent, params_sent]
    rfl

section Messages

variable {manifest : Manifest} {req : Value}

/-- How the server answers what a tool has returned. -/
def toolEnvelope (id : Value) : Except String Value → Value
  | .ok result => resultEnvelope id result
  | .error error => errorEnvelope id (-32000) error

theorem answerMessage_tool {tool : String}
    (method : (req.get "method").bind Json.asStr = some "tools/call")
    (name : ((req.getOrNull "params").get "name").bind Json.asStr = some tool) (host : Host) :
    answerMessage manifest host req = toolEnvelope (req.getOrNull "id")
      (route host tool ((req.getOrNull "params").getOrNull "arguments")) := by
  simp only [answerMessage, dispatchToolCall, method, Option.getD_some, name, ne_eq,
    not_true_eq_false, if_false]
  cases route host tool ((req.getOrNull "params").getOrNull "arguments") <;> rfl

/-- A message which calls no tool is answered without a host. -/
theorem answerMessage_untold
    (untold : (req.get "method").bind Json.asStr = some "tools/call" →
      ((req.getOrNull "params").get "name").bind Json.asStr = none) (host other : Host) :
    answerMessage manifest host req = answerMessage manifest other req := by
  unfold answerMessage
  split
  · rfl
  · rfl
  next method =>
    have named : (req.get "method").bind Json.asStr = some "tools/call" := by
      cases found : (req.get "method").bind Json.asStr with
      | none =>
          rw [found] at method
          exact absurd method (by decide)
      | some text =>
          rw [found] at method
          exact congrArg some method
    simp [dispatchToolCall, named, untold named]
  · rfl
  · rfl
  · rfl

end Messages

section Lines

variable [SerdeJson] {manifest : Manifest} {processId : UInt32} {line : String} {sent : MethodCall}

/-- A line which asks for no call is answered without a host. -/
theorem serveLine_of_none (asks_nothing : sentBy processId line = none) {host other : Host}
    (same : host.processId = processId) (other_same : other.processId = processId) :
    serveLine manifest host line = serveLine manifest other line := by
  unfold serveLine
  unfold sentBy at asks_nothing
  split_ifs at asks_nothing ⊢ with blank
  · rfl
  cases found : messageOf line with
  | none => rfl
  | some req =>
      rw [found, Option.bind_some] at asks_nothing
      refine congrArg some ?_
      by_cases method : (req.get "method").bind Json.asStr = some "tools/call"
      · rw [if_pos method] at asks_nothing
        cases name : ((req.getOrNull "params").get "name").bind Json.asStr with
        | none => exact answerMessage_untold (fun _ => name) host other
        | some tool =>
            simp only [name, Option.bind_some] at asks_nothing
            obtain ⟨-, error, fails⟩ | ⟨label, sent_method, params, asks, -⟩ :=
              route_asked processId tool ((req.getOrNull "params").getOrNull "arguments")
            · rw [answerMessage_tool method name, answerMessage_tool method name, fails host same,
                fails other other_same]
            · rw [asks] at asks_nothing
              cases asks_nothing
      · exact answerMessage_untold (fun named => absurd named method) host other

/-- The id of the message on a line. -/
def lineId (line : String) : Value := ((messageOf line).map (·.getOrNull "id")).getD .null

/-- What the server replies to a line whose tool makes a call. -/
def outcomeEnvelope (id : Value) (label : String) : Except ClientError Value → Value
  | .ok result => resultEnvelope id result
  | .error error => errorEnvelope id (-32000) s!"{label} failed: {error.display}"

/-- The word with which the tool of a line tells of a failed call. -/
def Labels (manifest : Manifest) (processId : UInt32) (line label : String) : Prop :=
  ∀ outcome, serveLine manifest (returned processId outcome) line =
    some (outcomeEnvelope (lineId line) label outcome)

/-- A line which asks for a call is answered, under its id, by what the call returns. -/
theorem serveLine_of_some (asks : sentBy processId line = some sent) :
    (∀ error, serveLine manifest (unreached processId (.error error)) line =
        some (errorEnvelope (lineId line) (-32000)
          s!"failed to connect to teamcomm daemon: {error}")) ∧
      ∃ label, Labels manifest processId line label := by
  unfold sentBy at asks
  split_ifs at asks with blank
  obtain ⟨req, found, asks⟩ := Option.bind_eq_some_iff.mp asks
  split_ifs at asks with method
  obtain ⟨tool, name, asks⟩ := Option.bind_eq_some_iff.mp asks
  obtain ⟨none_asked, -⟩ | ⟨label, sent_method, params, -, forwards⟩ :=
    route_asked processId tool ((req.getOrNull "params").getOrNull "arguments")
  · rw [none_asked] at asks
    cases asks
  have id : lineId line = req.getOrNull "id" := by
    rw [lineId, found, Option.map_some, Option.getD_some]
  refine ⟨fun error => ?_, label, fun outcome => ?_⟩
  · rw [serveLine, if_neg blank, found, id]
    dsimp only
    rw [answerMessage_tool method name, forwards _ rfl]
    rfl
  · rw [serveLine, if_neg blank, found, id]
    dsimp only
    rw [answerMessage_tool method name, forwards _ rfl]
    cases outcome <;> rfl

end Lines

/-! ## Runs -/

section Runs

variable [Chrono] [SerdeText] {manifest : Manifest} {processId : UInt32} {start : ServerState}
  {front : List ServerEvent} {line : String} {link : Link}

/-- What the events of the server are to the connection of a running call. -/
def linkEvents (events : List ServerEvent) : List LinkEvent :=
  events.filterMap fun event =>
    match event with
    | .link event => some event
    | .line .. | .ends => none

omit [Chrono] [SerdeText] in
theorem linkEvents_append (front back : List ServerEvent) :
    linkEvents (front ++ back) = linkEvents front ++ linkEvents back :=
  List.filterMap_append

/-- The server has read a line behind `before`, has connected to the daemon as it was then, and the
call which the line asks for has been running ever since. -/
structure Calling (manifest : Manifest) (processId : UInt32) (state : AppStateInner)
    (front : List ServerEvent) (line : String) (sent : MethodCall) (opened : AppStateInner)
    (before between : List ServerEvent) : Prop where
  split : front = before ++ .line line (.ok ⟨⟩) none :: between
  opens : (server manifest processId).run (.reading state) before = .reading opened
  asks : sentBy processId line = some sent
  runs : ∀ part, part <+: between →
    (server manifest processId).run (.reading state)
        (before ++ .line line (.ok ⟨⟩) none :: part) =
      .calling line (TeamComm.link.run (.connected opened) (.call sent none :: linkEvents part))

theorem step_calling (line : String) {link : Link} {event : LinkEvent}
    (nothing : (TeamComm.link.step link event).1 = none) :
    (server manifest processId).step (.calling line link) (.link event) =
      (none, .calling line (TeamComm.link.step link event).2) := by
  have outcome : TeamComm.link.step link event = (none, (TeamComm.link.step link event).2) :=
    Prod.ext nothing rfl
  simp only [server]
  rw [outcome]

theorem step_finished (line : String) {link : Link} {event : LinkEvent} {finished : Finished}
    (outcome : (TeamComm.link.step link event).1 = some finished) :
    (server manifest processId).step (.calling line link) (.link event) =
      (serveLine manifest (returned processId finished.outcome) line,
        .reading (TeamComm.link.step link event).2.state) := by
  have both : TeamComm.link.step link event = (some finished, (TeamComm.link.step link event).2) :=
    Prod.ext outcome rfl
  simp only [server]
  rw [both]

/-- What the server does about a line. -/
inductive LineServed (manifest : Manifest) (processId : UInt32) (state : AppStateInner)
    (line : String) (connect : Except String Unit) (fault : Option Nat) :
    Option Value × ServerState → Prop
  /-- It answers without the daemon. -/
  | own (asks : sentBy processId line = none) : LineServed manifest processId state line connect
      fault (serveLine manifest (unreached processId connect) line, .reading state)
  /-- It does not reach the daemon. -/
  | unreached {sent : MethodCall} {error : String} (asks : sentBy processId line = some sent)
      (failed : connect = .error error) : LineServed manifest processId state line connect fault
        (serveLine manifest (unreached processId (.error error)) line, .reading state)
  /-- It fails to write the request of the call. -/
  | unsent {sent : MethodCall} {position : Nat} (asks : sentBy processId line = some sent)
      (connected : connect = .ok ⟨⟩) (failed : fault = some position) :
        LineServed manifest processId state line connect fault
          (serveLine manifest (returned processId (.error .write)) line, .reading state)
  /-- It has begun the call. -/
  | begun {sent : MethodCall} (asks : sentBy processId line = some sent)
      (connected : connect = .ok ⟨⟩) (sends : fault = none) :
        LineServed manifest processId state line connect fault
          (none, .calling line ((Link.connected state).begin sent none).2)

theorem step_line (state : AppStateInner) (line : String) (connect : Except String Unit)
    (fault : Option Nat) : LineServed manifest processId state line connect fault
      ((server manifest processId).step (.reading state) (.line line connect fault)) := by
  cases asks : sentBy processId line with
  | none =>
      simp only [server, asks]
      exact .own asks
  | some sent =>
      cases connect with
      | error error =>
          simp only [server, asks]
          exact .unreached asks rfl
      | ok =>
          simp only [server, asks]
          cases fault with
          | none => exact .begun asks rfl rfl
          | some position => exact .unsent asks rfl rfl

/-- An event which leaves the call of a line running. -/
theorem Calling.snoc {state opened : AppStateInner} {before between : List ServerEvent}
    (calling : Calling manifest processId state front line sent opened before between)
    {event : ServerEvent}
    (still : (server manifest processId).run (.reading state) (front ++ [event]) =
      .calling line (TeamComm.link.run (.connected opened)
        (.call sent none :: linkEvents (between ++ [event])))) :
    Calling manifest processId state (front ++ [event]) line sent opened before
      (between ++ [event]) where
  split := by rw [calling.split, List.append_assoc, List.cons_append]
  opens := calling.opens
  asks := calling.asks
  runs part inside := by
    rcases List.prefix_concat_iff.mp inside with rfl | earlier
    · rw [← still, calling.split, List.append_assoc, List.cons_append]
    · exact calling.runs part earlier

/-- Where the call of a line runs, it has run since the line was read. -/
theorem calling_run (state : AppStateInner) (front : List ServerEvent) :
    ∀ line link, (server manifest processId).run (.reading state) front = .calling line link →
      ∃ sent opened before between,
        Calling manifest processId state front line sent opened before between ∧
        link = TeamComm.link.run (.connected opened) (.call sent none :: linkEvents between) ∧
        link.client = .waiting sent := by
  induction front using List.reverseRecOn with
  | nil => exact fun _ _ other => (by cases other)
  | append_singleton front event ih =>
      intro line link same
      have here := same
      rw [Mealy.run_snoc] at here
      generalize at_front : (server manifest processId).run (.reading state) front = reached
        at here ih
      cases reached with
      | ended reached =>
          rcases event with _ | _ | event
          · cases here
          · cases here
          · cases event <;> cases here
      | reading opened =>
          rcases event with ⟨text, connect, fault⟩ | _ | event
          · have stepped := @step_line _ _ manifest processId opened text connect fault
            generalize (server manifest processId).step (.reading opened)
              (.line text connect fault) = served at stepped here
            cases stepped with
            | own | unreached | unsent => cases here
            | @begun sent asks connected sends =>
                obtain ⟨rfl, rfl⟩ := ServerState.calling.inj here
                subst connected sends
                refine ⟨sent, opened, front, [], ⟨rfl, at_front, asks, ?_⟩, rfl, rfl⟩
                intro part inside
                obtain rfl := List.prefix_nil.mp inside
                exact same
          · cases here
          · cases event <;> cases here
      | calling text running =>
          obtain ⟨sent, opened, before, between, calling, runs, client⟩ := ih text running rfl
          have stays (quiet : linkEvents (between ++ [event]) = linkEvents between)
              (unmoved : ServerState.calling text running = .calling line link) :
              ∃ sent opened before between,
                Calling manifest processId state (front ++ [event]) line sent opened before
                  between ∧
                link = TeamComm.link.run (.connected opened) (.call sent none :: linkEvents between) ∧
                link.client = .waiting sent := by
            obtain ⟨rfl, rfl⟩ := ServerState.calling.inj unmoved
            refine ⟨sent, opened, before, _, calling.snoc ?_, quiet.symm ▸ runs, client⟩
            rw [same, quiet, runs]
          rcases event with ⟨other, connect, fault⟩ | _ | event
          · exact stays (by simp [linkEvents]) here
          · exact stays (by simp [linkEvents]) here
          · cases nothing : (TeamComm.link.step running event).1 with
            | some finished =>
                rw [step_finished text nothing] at here
                cases here
            | none =>
                rw [step_calling text nothing] at here
                obtain ⟨rfl, rfl⟩ := ServerState.calling.inj here
                have further : (TeamComm.link.step running event).2 =
                    TeamComm.link.run (.connected opened)
                      (.call sent none :: linkEvents (between ++ [.link event])) := by
                  rw [linkEvents_append, ← List.cons_append, runs]
                  exact (Mealy.run_snoc ..).symm
                refine ⟨sent, opened, before, _, calling.snoc ?_, further,
                  waiting_of_none client nothing⟩
                rw [same, further]

/-- The daemon has served the call of a line once since the line was read, and has answered it with
an outcome there. -/
def ServesLine (manifest : Manifest) (processId : UInt32) (state : AppStateInner) (line : String)
    (sent : MethodCall) (opened : AppStateInner) (before between : List ServerEvent)
    (outcome : Except ClientError Value) : Prop :=
  ∃ part env, part ++ [.link (.process env)] <+: between ∧
    ServedOnce (.connected opened) (.call sent none :: linkEvents between) sent
      (.call sent none :: linkEvents part) env ∧
    Executes sent env
      ((server manifest processId).run (.reading state)
        (before ++ .line line (.ok ⟨⟩) none :: part)).daemon
      ((server manifest processId).run (.reading state)
        (before ++ .line line (.ok ⟨⟩) none :: (part ++ [.link (.process env)]))).daemon outcome

/-- What a reply of the server rests on. -/
inductive Rests (manifest : Manifest) (processId : UInt32) (state : AppStateInner)
    (front : List ServerEvent) (event : ServerEvent) (reply : Value) : Prop
  /-- On the line alone which it reads. -/
  | own (line : String) (connect : Except String Unit) (fault : Option Nat)
      (reads : event = .line line connect fault) (asks : sentBy processId line = none)
      (answers : ∀ host, host.processId = processId → serveLine manifest host line = some reply)
  /-- On the line which it reads, whose tool does not reach the daemon. -/
  | unreached (line error : String) (fault : Option Nat) (sent : MethodCall)
      (reads : event = .line line (.error error) fault) (asks : sentBy processId line = some sent)
      (answers : reply =
        errorEnvelope (lineId line) (-32000) s!"failed to connect to teamcomm daemon: {error}")
  /-- On the line which it reads, whose call could not be written. -/
  | unsent (line : String) (position : Nat) (sent : MethodCall) (label : String)
      (reads : event = .line line (.ok ⟨⟩) (some position))
      (asks : sentBy processId line = some sent)
      (labels : Labels manifest processId line label)
      (answers : reply = outcomeEnvelope (lineId line) label (.error .write))
  /-- On the call of the line which it has read last: that call returns. -/
  | called (line : String) (sent : MethodCall) (opened : AppStateInner)
      (before between : List ServerEvent) (last : LinkEvent) (passes : List LineStep)
      (outcome : Except ClientError Value) (label : String)
      (calling : Calling manifest processId state front line sent opened before between)
      (happens : event = .link last)
      (returns : (TeamComm.link.step (TeamComm.link.run (.connected opened)
        (.call sent none :: linkEvents between)) last).1 = some ⟨sent, outcome, passes⟩)
      (labels : Labels manifest processId line label)
      (answers : reply = outcomeEnvelope (lineId line) label outcome)
      (serves : IsAnswer outcome →
        ServesLine manifest processId state line sent opened before between outcome)

/-- A point behind the begin of the call is a point of the server's run. -/
theorem point_of_served {opened : AppStateInner} {sent : MethodCall}
    {between : List ServerEvent} {earlier : List LinkEvent} {env : Env}
    (served : ServedOnce (.connected opened) (.call sent none :: linkEvents between) sent earlier
      env) :
    ∃ part, part ++ [.link (.process env)] <+: between ∧
      earlier = .call sent none :: linkEvents part := by
  obtain ⟨later, split⟩ := served.here
  obtain ⟨first, rest, started, -⟩ := served.awaited
  obtain ⟨behind, rfl, inner⟩ : ∃ behind, earlier = .call sent none :: behind ∧
      linkEvents between = behind ++ .process env :: later := by
    cases earlier with
    | nil => simp at started
    | cons head behind =>
        rw [List.cons_append, List.cons_append, List.append_assoc] at split
        obtain ⟨rfl, inner⟩ := List.cons.inj split
        exact ⟨behind, rfl, inner.symm⟩
  obtain ⟨part, back, rfl, rfl, rest⟩ := List.filterMap_eq_append_iff.mp inner
  obtain ⟨quiet, event, tail, rfl, silent, found, -⟩ := List.filterMap_eq_cons_iff.mp rest
  obtain ⟨-, rfl⟩ | rfl : False ∧ event = .ends ∨ event = .link (.process env) := by
    rcases event with _ | _ | event
    · cases found
    · cases found
    · exact .inr (by rw [Option.some.inj found])
  · contradiction
  refine ⟨part ++ quiet, ⟨tail, by simp⟩, ?_⟩
  have none_of_quiet : linkEvents quiet = [] := List.filterMap_eq_nil_iff.mpr silent
  rw [linkEvents_append, none_of_quiet, List.append_nil]
  rfl

/-- An answer to the call of a line is what the daemon has answered behind the line. -/
theorem Calling.serves {state opened : AppStateInner} {before between : List ServerEvent}
    (calling : Calling manifest processId state front line sent opened before between)
    {last : LinkEvent} {finished : Finished}
    (returned : (TeamComm.link.step (TeamComm.link.run (.connected opened)
      (.call sent none :: linkEvents between)) last).1 = some finished)
    (call : finished.call = sent) (answer : IsAnswer finished.outcome) :
    ServesLine manifest processId state line sent opened before between finished.outcome := by
  obtain ⟨earlier, env, served, executes⟩ := served_of_answer opened returned answer
  rw [call] at served executes
  obtain ⟨part, inside, rfl⟩ := point_of_served served
  have here := calling.runs part ((List.prefix_append _ _).trans inside)
  have behind := calling.runs _ inside
  refine ⟨part, env, inside, served, ?_⟩
  rw [here, behind, linkEvents_append]
  exact executes

theorem rests_of_reply (state : AppStateInner) (front : List ServerEvent) (event : ServerEvent)
    {reply : Value} (replies : ((server manifest processId).step
      ((server manifest processId).run (.reading state) front) event).1 = some reply) :
    Rests manifest processId state front event reply := by
  generalize at_front : (server manifest processId).run (.reading state) front = reached at replies
  cases reached with
  | ended => rcases event with _ | _ | ⟨_ | _ | _ | _ | _ | _ | _⟩ <;> cases replies
  | reading reached =>
      rcases event with ⟨text, connect, fault⟩ | _ | event
      · have stepped := @step_line _ _ manifest processId reached text connect fault
        generalize (server manifest processId).step (.reading reached)
          (.line text connect fault) = served at stepped replies
        cases stepped with
        | own asks =>
            dsimp only at replies
            refine .own text connect fault rfl asks fun host same => ?_
            have unhosted : serveLine manifest host text =
                serveLine manifest (unreached processId connect) text :=
              serveLine_of_none asks same rfl
            exact unhosted.trans replies
        | @unreached sent error asks failed =>
            obtain ⟨fails, -⟩ := @serveLine_of_some _ manifest _ _ _ asks
            subst failed
            dsimp only at replies
            rw [fails] at replies
            exact .unreached text error fault sent rfl asks (Option.some.inj replies).symm
        | @unsent sent position asks connected failed =>
            obtain ⟨-, label, answers⟩ := @serveLine_of_some _ manifest _ _ _ asks
            subst connected failed
            dsimp only at replies
            rw [answers] at replies
            exact .unsent text position sent label rfl asks answers (Option.some.inj replies).symm
        | begun => cases replies
      · cases replies
      · cases event <;> cases replies
  | calling text running =>
      obtain ⟨sent, opened, before, between, calling, runs, client⟩ :=
        calling_run state front text running at_front
      rcases event with _ | _ | last
      · cases replies
      · cases replies
      · cases returns : (TeamComm.link.step running last).1 with
        | none =>
            rw [step_calling text returns] at replies
            cases replies
        | some finished =>
            rw [step_finished text returns] at replies
            obtain ⟨-, label, answers⟩ := @serveLine_of_some _ manifest _ _ _ calling.asks
            dsimp only at replies
            rw [answers] at replies
            obtain ⟨rfl, -⟩ := call_of_returned client returns
            rw [runs] at returns
            exact .called text finished.call opened before between last finished.passes
              finished.outcome label calling rfl returns answers (Option.some.inj replies).symm
              (calling.serves returns rfl)

/-- Every reply of the server rests on the line alone which it reads, on a tool of the line which
has not reached the daemon or could not write its call, or on the call of the last line which it has
read.  If that call returns an answer, the daemon has served it once since the line was read, and
has answered it so at that point.  Reading a line changes nothing, and no advertised tool makes a
call. -/
theorem mcp_exchange (manifest : Manifest) (processId : UInt32) (state : AppStateInner)
    (front : List ServerEvent) :
    (∀ event reply, ((server manifest processId).step
        ((server manifest processId).run (.reading state) front) event).1 = some reply →
      Rests manifest processId state front event reply) ∧
    (∀ line connect fault, ((server manifest processId).step
        ((server manifest processId).run (.reading state) front)
          (.line line connect fault)).2.daemon =
      ((server manifest processId).run (.reading state) front).daemon) ∧
    ∀ tool ∈ advertisedTools, ∀ args, asked processId tool.name args = none := by
  refine ⟨fun event reply => rests_of_reply state front event, ?_, ?_⟩
  · intro line connect fault
    generalize (server manifest processId).run (.reading state) front = reached
    cases reached with
    | calling | ended => rfl
    | reading reached =>
        have stepped := @step_line _ _ manifest processId reached line connect fault
        generalize (server manifest processId).step (.reading reached)
          (.line line connect fault) = served at stepped
        cases stepped <;> rfl
  · intro tool advertised args
    rw [asked, route_unrouted _ _ (advertised_unrouted tool advertised)]

end Runs

section Deregister

attribute [local instance] Chrono.utc compactText

/-- A line which calls a tool. -/
def deregisterLine : String :=
  "\x7b\"id\":5,\"method\":\"tools/call\",\"params\":\x7b\"name\":\"teamcomm_session_deregister\"," ++
    "\"arguments\":\x7b\"session_id\":\"sess_a\"\x7d\x7d\x7d"

/-- The line is read, and its call is served. -/
def deregisterRun : List ServerEvent :=
  [.line deregisterLine (.ok ⟨⟩) none, .link (.process (.ofSeconds 1 "b")), .link (.flush none)]

theorem mcp_exchange_deregisterRun :
    ∃ reply, (reply.get "result").isSome = true ∧
      Rests ⟨"teamcomm", "0.1.0", .array []⟩ 9 registeredState deregisterRun (.link (.receive 0))
        reply := by
  have replied : (((server ⟨"teamcomm", "0.1.0", .array []⟩ 9).step
      ((server ⟨"teamcomm", "0.1.0", .array []⟩ 9).run (.reading registeredState) deregisterRun)
      (.link (.receive 0))).1.any fun reply => (reply.get "result").isSome) = true := by
    decide +kernel
  obtain ⟨reply, replies, result⟩ := (Option.any_eq_true ..).mp replied
  exact ⟨reply, result, (mcp_exchange ⟨"teamcomm", "0.1.0", .array []⟩ 9 registeredState
    deregisterRun).1 (.link (.receive 0)) reply replies⟩

end Deregister

end Mcp

end TeamComm
