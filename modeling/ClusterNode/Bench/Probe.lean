import ClusterNode.Bench.Report
import ClusterNode.Workload.Basic

/-!
The probe: a workload whose requests say what the node is to do, so that each of its operations can
be tried by itself.
-/

set_option autoImplicit false

namespace ClusterNode.Bench.Probe

/-- What a handler for requests for an identity does after it has left a note. -/
inductive InitHook where
  | accept
  | refuse
  | explode
deriving DecidableEq, Repr

inductive Job where
  | received (request : Message)
  | answering (payload : Json)
  | answeredOnce
  | relayed (tag : String) (result : Except NodeError Message)
  | asked (result : Except NodeError UInt64)
  | sent (result : Except NodeError Unit)
  | replied (request reply : Message)
  | hooked
  | ending (result : Except NodeError Unit)

def kinds : List String :=
  ["echo", "fail", "fire", "guarded", "panic", "relay", "reply_raw", "send", "sleep", "twice",
    "whoami"]

def answer (tag : String) (fields : List (String × Json)) : Json :=
  .object (Dictionary.ofList (("type", .string tag) :: fields))

def destOf (body : Json) : String :=
  ((body.field? "dest").bind Json.toString?).getD "n2"

def call (body : Json) (patience : Patience) (tag : String) : Action Job :=
  .call (destOf body) (valueAt "request" body) patience (.relayed tag)

def patienceOf (view : View) (body : Json) : Patience :=
  .atMost (((naturalAt? "timeout_ms" body).map Duration.ofMillis).getD view.rpcTimeout)

def begin (view : View) (request : Message) : Action Job :=
  let body := request.body
  match request.kind with
  | "echo" => .proceed (.answering (answer "echo_ok" [("echo", valueAt "echo" body)]))
  | "fail" => .finish (.error (describedNode (valueAt "error" body)))
  | "panic" => .abandon
  | "relay" => call body (patienceOf view body) "relay_ok"
  | "guarded" => call body .untilCancelled "guarded_ok"
  | "fire" => .ask (destOf body) (valueAt "request" body) (.replied request) .asked
  | "sleep" =>
    .sleep (.ofMillis ((naturalAt? "ms" body).getD 0)) (.answering (answer "sleep_ok" []))
  | "whoami" =>
    match view.identify with
    | .error e => .finish (.error e)
    | .ok identity =>
      .proceed (.answering (answer "whoami_ok"
        [("id", .string identity.id), ("peers", .ofStrings identity.peers)]))
  | "send" => .send (destOf body) (valueAt "request" body) .sent
  | "reply_raw" => .proceed (.answering (valueAt "value" body))
  | "twice" =>
    .reply (answer "first" []) fun
      | .ok () => .answeredOnce
      | .error e => .ending (.error e)
  | "init" =>
    .note (.object [("event", .string "init_hook"),
      ("id", match view.identity with | some identity => .string identity.id | none => .null)])
      .hooked
  | kind => .notARequest kind

def step (hook : InitHook) (view : View) : Job → Action Job
  | .received request => begin view request
  | .answering payload => .reply payload .ending
  | .answeredOnce => .reply (answer "second" []) .ending
  | .relayed _ (.error e) => .finish (.error e)
  | .relayed tag (.ok reply) => .proceed (.answering (answer tag [("reply", reply.body)]))
  | .asked (.error e) => .finish (.error e)
  | .asked (.ok id) => .proceed (.answering (answer "fire_ok" [("id", .ofUInt64 id)]))
  | .sent (.error e) => .finish (.error e)
  | .sent (.ok ()) => .proceed (.answering (answer "send_ok" []))
  | .replied request reply =>
    .note (.object [("event", .string "callback"), ("reply", .string reply.display),
      ("tag", valueAt "tag" request.body)]) (.ending (.ok ()))
  | .hooked =>
    match hook with
    | .accept => .finish (.ok ())
    | .refuse => .fail ⟨.abort, "hook refused"⟩
    | .explode => .finish (.error (.other "hook exploded"))
  | .ending result => .finish result

/-- The handlers, with one for requests for an identity if there is a hook. -/
def handlers (hook : Option InitHook) : Registry (Message → Job) :=
  ⟨Dictionary.ofList
    ((if hook.isSome then "init" :: kinds else kinds).map fun kind => (kind, .received))⟩

def workload (hook : Option InitHook) : Workload where
  Job := Job
  Shared := Unit
  handlers := handlers hook
  shared := ()
  step view _ job := (step (hook.getD .accept) view job, ())

end ClusterNode.Bench.Probe
