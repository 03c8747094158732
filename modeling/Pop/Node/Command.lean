import Mathlib.Data.List.Basic

/-!
# Daemon commands (`node/message.go`, `hop get`, `pop status`)

A client sends the daemon a `Command` with one of its seven fields set; the daemon's
`CommandServer.GotMsg` runs the node method of the first field set, in the order Ping, Add,
Status, Pack, Quote, Push, Get, and starts Push and Get in their own goroutines. Results come
back as `Notify` messages, which the CLI's callbacks filter: `hop get` (`runGet`) waits for
`GetResult`s and `pop status` (`runStatus`) for one `StatusResult`. JSON encoding is a
parameter (`unmarshal`); the node methods are not in the sources.

`gotMsgBytes_client` says that the daemon runs each client method's own node call, with the
client's arguments; `runGet_eq` says what `hop get` prints and returns for any stream of
notifications.
-/

namespace Pop.Node
set_option autoImplicit false

/-! ## Commands -/

/-- `PingArgs`. -/
structure PingArgs where
  addr : String
  deriving DecidableEq, Repr

/-- `AddArgs`. -/
structure AddArgs where
  path : String
  chunkSize : Int
  deriving DecidableEq, Repr

/-- `StatusArgs`. -/
structure StatusArgs where
  verbose : Bool
  deriving DecidableEq, Repr

/-- `PackArgs`. -/
structure PackArgs where
  archive : Bool
  deriving DecidableEq, Repr

/-- `QuoteArgs`; `Duration` is an `int64` count of nanoseconds. -/
structure QuoteArgs where
  ref : String
  storageRF : Int
  duration : BitVec 64
  maxPrice : UInt64
  deriving DecidableEq, Repr

/-- `PushArgs`, without the `Miners` set, which nothing modelled reads. -/
structure PushArgs where
  ref : String
  noCache : Bool
  cacheOnly : Bool
  cacheRF : Int
  storageRF : Int
  duration : BitVec 64
  deriving DecidableEq, Repr

/-- `GetArgs`. -/
structure GetArgs where
  cid : String
  segments : List String
  sel : String
  out : String
  timeout : Int
  verbose : Bool
  miner : String
  deriving DecidableEq, Repr

/-- `Command`: each field is a pointer, `none` for nil. -/
structure Command where
  ping : Option PingArgs
  add : Option AddArgs
  status : Option StatusArgs
  pack : Option PackArgs
  quote : Option QuoteArgs
  push : Option PushArgs
  get : Option GetArgs
  deriving DecidableEq, Repr

/-- The zero `Command`. -/
def Command.empty : Command := ⟨none, none, none, none, none, none, none⟩

/-- A call of `GotMsg` on the node. -/
inductive Call where
  | ping (addr : String)
  | add (args : AddArgs)
  | status (args : StatusArgs)
  | pack (args : PackArgs)
  | quote (args : QuoteArgs)
  | push (args : PushArgs)
  | get (args : GetArgs)
  deriving DecidableEq, Repr

/-- How `GotMsg` makes a call: in line, or in a new goroutine (`go`). -/
inductive Dispatch where
  | run (c : Call)
  | spawn (c : Call)
  deriving DecidableEq, Repr

/-- `CommandServer.GotMsg`. -/
def gotMsg (cmd : Command) : Except String Dispatch :=
  if let some c := cmd.ping then .ok (.run (.ping c.addr))
  else if let some c := cmd.add then .ok (.run (.add c))
  else if let some c := cmd.status then .ok (.run (.status c))
  else if let some c := cmd.pack then .ok (.run (.pack c))
  else if let some c := cmd.quote then .ok (.run (.quote c))
  else if let some c := cmd.push then .ok (.spawn (.push c))
  else if let some c := cmd.get then .ok (.spawn (.get c))
  else .error "CommandServer: no command specified"

/-- `CommandServer.GotMsgBytes` with `json.Unmarshal` as `unmarshal`: an empty message is
dropped (`none`) without an error. -/
def gotMsgBytes (unmarshal : List UInt8 → Except String Command) (b : List UInt8) :
    Except String (Option Dispatch) :=
  if b.length = 0 then .ok none
  else
    match unmarshal b with
    | .error e => .error e
    | .ok cmd => (gotMsg cmd).map some

/-- The methods of `CommandClient` that send a command. -/
inductive Request where
  | ping (addr : String)
  | add (args : AddArgs)
  | status (args : StatusArgs)
  | pack (args : PackArgs)
  | quote (args : QuoteArgs)
  | push (args : PushArgs)
  | get (args : GetArgs)
  deriving DecidableEq, Repr

/-- The `Command` each method of `CommandClient` hands `send`. -/
def Request.command : Request → Command
  | .ping addr => { Command.empty with ping := some ⟨addr⟩ }
  | .add args => { Command.empty with add := some args }
  | .status args => { Command.empty with status := some args }
  | .pack args => { Command.empty with pack := some args }
  | .quote args => { Command.empty with quote := some args }
  | .push args => { Command.empty with push := some args }
  | .get args => { Command.empty with get := some args }

/-- The node call of the same name with the same arguments, as the client means it. -/
def Request.call : Request → Call
  | .ping addr => .ping addr
  | .add args => .add args
  | .status args => .status args
  | .pack args => .pack args
  | .quote args => .quote args
  | .push args => .push args
  | .get args => .get args

/-- The calls the daemon starts in the background: the long ones, Push and Get. -/
def Call.background : Call → Bool
  | .push _ | .get _ => true
  | _ => false

/-- Client and daemon agree: whatever the JSON codec, as long as it reads back the command
the client wrote and writes a non-empty message, the daemon makes the call of the client
method's name with the client's arguments, in the background exactly for Push and Get. -/
theorem gotMsgBytes_client (marshal : Command → List UInt8)
    (unmarshal : List UInt8 → Except String Command) (r : Request)
    (decodes : unmarshal (marshal r.command) = .ok r.command)
    (nonempty : marshal r.command ≠ []) :
    gotMsgBytes unmarshal (marshal r.command) =
      .ok (some (if r.call.background then .spawn r.call else .run r.call)) := by
  rw [gotMsgBytes, if_neg (by simpa using nonempty), decodes]
  cases r <;> rfl

/-! ## `hop get` and `pop status` -/

/-- The fields of `GetResult` that `runGet` reads. -/
structure GetResult where
  dealID : String
  err : String
  deriving DecidableEq, Repr

/-- `StatusResult`. -/
structure StatusResult where
  output : String
  err : String
  deriving DecidableEq, Repr

/-- The fields of `Notify` that the CLI's callbacks read. -/
structure Notify where
  statusResult : Option StatusResult
  getResult : Option GetResult
  deriving DecidableEq, Repr

/-- The `get` command's flags. -/
structure GetFlags where
  selector : String
  output : String
  timeout : Int
  verbose : Bool
  deriving DecidableEq, Repr

/-- The flags' defaults: all blocks, no output file, a five-minute timeout, quiet. -/
def getFlagDefaults : GetFlags := ⟨"all", "", 5, false⟩

/-- What a CLI command's `select` can take: a notification handed to the callback, or the end
of the context, with `ctx.Err()`. -/
inductive Event where
  | notify (n : Notify)
  | done (err : String)
  deriving DecidableEq, Repr

/-- What `runGet` prints: `"started retrieval deal %s\n"`, or the completion line
`"get operation completed in %v\n"` with the seconds since the request. -/
inductive GetLine where
  | started (dealID : String)
  | completed
  deriving DecidableEq, Repr

/-- `runGet`'s loop over what reaches its `select`: the lines it prints and, once it returns,
its result (`none` while it still waits). The callback forwards only `GetResult`s. -/
def getLoop : List Event → List GetLine × Option (Except String Unit)
  | [] => ([], none)
  | .done _ :: _ => ([], some (.error "Get operation timed out"))
  | .notify n :: events =>
    match n.getResult with
    | none => getLoop events
    | some gr =>
      if gr.err ≠ "" then ([], some (.error gr.err))
      else if gr.dealID ≠ "" then
        let (lines, result) := getLoop events
        (.started gr.dealID :: lines, result)
      else ([.completed], some (.ok ()))

/-- The `Command` `runGet` sends for `cid`: `Segments` and `Miner` are left unset. -/
def getCommand (flags : GetFlags) (cid : String) : Command :=
  { Command.empty with
    get := some ⟨cid, [], flags.selector, flags.output, flags.timeout, flags.verbose, ""⟩ }

/-- `runGet`: the command sent, then the loop; `none` is the panic of `args[0]` without a
CID argument. -/
def runGet (flags : GetFlags) (args : List String) (events : List Event) :
    Option (Command × List GetLine × Option (Except String Unit)) :=
  match args with
  | [] => none
  | cid :: _ => some (getCommand flags cid, getLoop events)

/-- `runStatus`: the command sent, then the lines printed and the result once its `select`
has taken a `StatusResult` or the end of the context (`none` while it still waits). -/
def runStatus : List Event → Command × Option (List String × Except String Unit)
  | [] => ({ Command.empty with status := some ⟨false⟩ }, none)
  | .done err :: _ => ({ Command.empty with status := some ⟨false⟩ }, some ([], .error err))
  | .notify n :: events =>
    match n.statusResult with
    | none => runStatus events
    | some sr =>
      ({ Command.empty with status := some ⟨false⟩ }, some <|
        if sr.err ≠ "" then ([], .error sr.err)
        else if sr.output = "" then (["Nothing to pack, workdag clean.\n"], .ok ())
        else (["Staged for storage:\n", sr.output ++ "\n"], .ok ()))

/-- The deal ID of a `GetResult` reporting a started deal: no error, a deal ID. -/
def Event.dealStarted : Event → Option String
  | .notify ⟨_, some gr⟩ => if gr.err = "" ∧ gr.dealID ≠ "" then some gr.dealID else none
  | _ => none

/-- The result of an event that ends `runGet`'s wait: the end of the context, a `GetResult`
with an error, or one with neither an error nor a deal ID. -/
def Event.getOutcome : Event → Option (Except String Unit)
  | .done _ => some (.error "Get operation timed out")
  | .notify ⟨_, some gr⟩ =>
    if gr.err ≠ "" then some (.error gr.err) else if gr.dealID ≠ "" then none else some (.ok ())
  | .notify ⟨_, none⟩ => none

theorem getLoop_cons_of_waiting {e : Event} (events : List Event) (waiting : e.getOutcome = none) :
    getLoop (e :: events) =
      ((e.dealStarted.map GetLine.started).toList ++ (getLoop events).1, (getLoop events).2) := by
  rcases e with ⟨_, _ | ⟨dealID, err⟩⟩ | err
  · rfl
  · by_cases failed : err = "" <;> by_cases started : dealID = "" <;>
      simp_all [getLoop, Event.getOutcome, Event.dealStarted]
  · cases waiting

theorem getLoop_of_getOutcome {e : Event} {r : Except String Unit} (events : List Event)
    (ends : e.getOutcome = some r) :
    getLoop (e :: events) = (if r.toBool then [.completed] else [], some r) := by
  rcases e with ⟨_, _ | ⟨dealID, err⟩⟩ | err
  · cases ends
  · by_cases failed : err = "" <;> by_cases started : dealID = "" <;>
      simp_all [getLoop, Event.getOutcome, Except.toBool] <;> subst ends <;> rfl
  · cases ends
    rfl

/-- For every stream of notifications, `hop get` sends the `Get` command for its CID and
flags, prints one line for each deal started before the first event that ends its wait, in
order, and returns that event's outcome, printing the completion line exactly when it
succeeds. -/
theorem runGet_eq (flags : GetFlags) (cid : String) (args : List String) (pre : List Event)
    (e : Event) (post : List Event) (r : Except String Unit)
    (waiting : ∀ e ∈ pre, e.getOutcome = none) (ends : e.getOutcome = some r) :
    runGet flags (cid :: args) (pre ++ e :: post) =
      some (getCommand flags cid,
        (pre.filterMap Event.dealStarted).map GetLine.started ++
          (if r.toBool then [GetLine.completed] else []),
        some r) := by
  simp only [runGet, Option.some.injEq, Prod.mk.injEq, true_and]
  induction pre with
  | nil => simpa using getLoop_of_getOutcome post ends
  | cons e' pre ih =>
    rw [List.cons_append, getLoop_cons_of_waiting _ (waiting e' (List.mem_cons_self _ _)),
      ih fun e he => waiting e (List.mem_cons_of_mem _ he)]
    cases started : e'.dealStarted <;> simp [started, List.filterMap_cons]

theorem runGet_eq_one_deal :
    (∀ e ∈ [Event.notify ⟨none, some ⟨"deal-1", ""⟩⟩, .notify ⟨some ⟨"", ""⟩, none⟩],
      e.getOutcome = none) ∧
    (Event.notify ⟨none, some ⟨"", ""⟩⟩).getOutcome = some (.ok ()) ∧
    runGet getFlagDefaults ["bafy"]
        ([.notify ⟨none, some ⟨"deal-1", ""⟩⟩, .notify ⟨some ⟨"", ""⟩, none⟩] ++
          [.notify ⟨none, some ⟨"", ""⟩⟩]) =
      some (getCommand getFlagDefaults "bafy",
        ([Event.notify ⟨none, some ⟨"deal-1", ""⟩⟩, .notify ⟨some ⟨"", ""⟩, none⟩].filterMap
            Event.dealStarted).map GetLine.started ++
          (if (Except.ok () : Except String Unit).toBool then [GetLine.completed] else []),
        some (.ok ())) :=
  have waiting : ∀ e ∈ [Event.notify ⟨none, some ⟨"deal-1", ""⟩⟩, .notify ⟨some ⟨"", ""⟩, none⟩],
      e.getOutcome = none := by
    simp [Event.getOutcome]
  ⟨waiting, rfl, runGet_eq getFlagDefaults "bafy" [] _ _ [] (.ok ()) waiting rfl⟩

end Pop.Node
