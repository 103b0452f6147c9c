import CurieBle.Program

/-! The client together with its caller and the messaging substrate, as a labelled step function.
A single caller runs the blocking operations one after another, one statement per step; the
substrate answers each submission at once, may keep one reply of the request's own kind, and
delivers held replies and unsolicited events to the dispatcher at any step; fire-and-forget calls
and clock ticks may come at any step too. -/

namespace CurieBle

/-- A reply the substrate holds, with the ticket of the caller's request it answers; the replies
to fire-and-forget requests carry none. -/
structure Reply where
  msg : CfwMessage
  answers : Option Nat
  deriving DecidableEq, Repr

/-- The caller: the statements left of the operation in progress (none when idle), and the locals
`timeout` of `wait_for_condition` and `delay_until` of `ble_client_init`. -/
structure Caller where
  prog : List Stmt
  timeout : UInt32
  delayUntil : UInt32
  deriving DecidableEq, Repr

/-- `clock` is `get_uptime_32k()`; `tickets` counts the caller's submissions. -/
structure System where
  client : Client
  caller : Caller
  inFlight : List Reply
  tickets : Nat
  clock : UInt32
  deriving DecidableEq, Repr

inductive FireAndForget where
  | startAdvertise (timeout : UInt16)
  | stopAdvertise
  deriving DecidableEq, Repr

def FireAndForget.request : FireAndForget → Request
  | .startAdvertise timeout => bleClientGapStartAdvertise timeout
  | .stopAdvertise => bleClientGapStopAdvertise

/-- One step of a run: the caller enters an operation or runs its next statement (`submit`
carries the substrate's answer and the reply it keeps), the substrate delivers a held reply or an
unsolicited event, the clock advances, or someone calls a fire-and-forget operation. -/
inductive Label where
  | call (op : Op)
  | advance
  | submit (result : BleStatus) (reply : Option CfwMessage)
  | deliver (reply : Reply)
  | event (msg : CfwMessage)
  | tick (ticks : UInt32)
  | fireAndForget (call : FireAndForget) (result : BleStatus) (reply : Option CfwMessage)
  deriving DecidableEq, Repr

/-- The substrate keeps a reply only for a request it accepted, and only of the request's kind. -/
def Request.accepts (request : Request) (result : BleStatus) (reply : Option CfwMessage) : Bool :=
  reply.all fun msg => result = .success && request.answeredBy msg

@[simp] theorem Request.accepts_some {request : Request} {result : BleStatus} {msg : CfwMessage} :
    request.accepts result (some msg) = true ↔ result = .success ∧ request.answeredBy msg = true := by
  simp [Request.accepts]

namespace System

def init : System := ⟨Client.init, ⟨[], 0, 0⟩, [], 0, 0⟩

def setProg (s : System) (prog : List Stmt) : System := { s with caller.prog := prog }

section SetProg

variable (s : System) (prog : List Stmt)

@[simp] theorem setProg_client : (s.setProg prog).client = s.client := rfl
@[simp] theorem setProg_prog : (s.setProg prog).caller.prog = prog := rfl
@[simp] theorem setProg_timeout : (s.setProg prog).caller.timeout = s.caller.timeout := rfl
@[simp] theorem setProg_delayUntil : (s.setProg prog).caller.delayUntil = s.caller.delayUntil := rfl
@[simp] theorem setProg_inFlight : (s.setProg prog).inFlight = s.inFlight := rfl
@[simp] theorem setProg_tickets : (s.setProg prog).tickets = s.tickets := rfl
@[simp] theorem setProg_clock : (s.setProg prog).clock = s.clock := rfl

end SetProg

def advance (s : System) : Stmt → List Stmt → Option (System × List Obs)
  | .checkConnected, rest =>
      if s.client.session.connected then some (s.setProg rest, [])
      else some (s.setProg [], [.ret .wrongState])
  | .armResponse, rest => some ({ s.setProg rest with client.sync.response := false }, [.arm])
  | .setParam param, rest =>
      some ({ s.setProg rest with client.sync.param := param }, [.setParam param])
  | .startWait, rest => some ({ s.setProg rest with caller.timeout := s.clock + 32768 }, [])
  | .pollResponse, rest =>
      if s.client.sync.response then some (s.setProg rest, [])
      else some (s.setProg (.checkDeadline :: .pollResponse :: rest), [])
  | .checkDeadline, rest =>
      if s.clock > s.caller.timeout then some (s.setProg [], [.ret .timeout])
      else some (s.setProg rest, [])
  | .startDelay, rest => some ({ s.setProg rest with caller.delayUntil := s.clock + 32 }, [])
  | .spinDelay, rest =>
      if s.clock < s.caller.delayUntil then some (s.setProg (.spinDelay :: rest), [])
      else some (s.setProg rest, [])
  | .returnIfStatus, rest =>
      if s.client.sync.status ≠ .success then some (s.setProg [.returnStatus], [])
      else some (s.setProg rest, [])
  | .returnStatus, _ => some (s.setProg [], [.ret s.client.sync.status])
  | .setGapEventCb cb, rest => some ({ s.setProg rest with client.registry.gapEventCb := cb }, [])
  | .setGapEventParam param, rest =>
      some ({ s.setProg rest with client.registry.gapEventParam := param }, [])
  | .setGattsEventCb cb, rest =>
      some ({ s.setProg rest with client.registry.gattsEventCb := cb }, [])
  | .setGattsEventParam param, rest =>
      some ({ s.setProg rest with client.registry.gattsEventParam := param }, [])
  | .submit _, _ | .submitOnConn _, _ | .submitIgnoringResult _, _ => none

def offer (s : System) (request : Request) (result : BleStatus) (reply : Option CfwMessage) :
    Option (System × List Obs) :=
  if request.accepts result reply then
    some ({ s with
        inFlight := s.inFlight ++ (reply.map fun msg => ⟨msg, some s.tickets⟩).toList
        tickets := s.tickets + 1 },
      [.submit (request.addr s.client.serviceHandle) request result (some s.tickets)])
  else none

/-- `if (submission) return BLE_STATUS_ERROR;` -/
def submitChecked (s : System) (request : Request) (result : BleStatus)
    (reply : Option CfwMessage) (rest : List Stmt) : Option (System × List Obs) :=
  (s.offer request result reply).map fun (s', obs) =>
    if result = .success then (s'.setProg rest, obs) else (s'.setProg [], obs ++ [.ret .error])

def submitStmt (s : System) (result : BleStatus) (reply : Option CfwMessage) :
    Stmt → List Stmt → Option (System × List Obs)
  | .submit request, rest => s.submitChecked request result reply rest
  | .submitOnConn request, rest =>
      s.submitChecked (.onConn s.client.session.connHandle request) result reply rest
  | .submitIgnoringResult request, rest =>
      (s.offer request result reply).map fun (s', obs) => (s'.setProg rest, obs)
  | _, _ => none

def dispatch (s : System) (msg : CfwMessage) (answers : Option Nat) : System × List Obs :=
  ({ s with client := (s.client.bleCoreClientHandleMessage msg).1 },
    .dispatch msg answers :: (s.client.bleCoreClientHandleMessage msg).2)

def fireAndForget (s : System) (call : FireAndForget) (result : BleStatus)
    (reply : Option CfwMessage) : Option (System × List Obs) :=
  if call.request.accepts result reply then
    some ({ s with inFlight := s.inFlight ++ (reply.map fun msg => ⟨msg, none⟩).toList },
      [.submit (.serviceHandle s.client.serviceHandle) call.request result none,
        .advertiseRet result])
  else none

def step (s : System) : Label → Option (System × List Obs)
  | .call op => if s.caller.prog = [] then some (s.setProg op.body, [.call op]) else none
  | .advance =>
      match s.caller.prog with
      | stmt :: rest => s.advance stmt rest
      | [] => none
  | .submit result reply =>
      match s.caller.prog with
      | stmt :: rest => s.submitStmt result reply stmt rest
      | [] => none
  | .deliver reply =>
      if reply ∈ s.inFlight then
        some ({ s with inFlight := s.inFlight.erase reply }.dispatch reply.msg reply.answers)
      else none
  | .event msg => if msg.unsolicited then some (s.dispatch msg none) else none
  | .tick ticks => some ({ s with clock := s.clock + ticks }, [])
  | .fireAndForget call result reply => s.fireAndForget call result reply

def exec (s : System) : List Label → Option (System × List Obs)
  | [] => some (s, [])
  | label :: labels =>
      match s.step label with
      | some (s', obs) => (exec s' labels).map fun (t, obs') => (t, obs ++ obs')
      | none => none

end System

inductive Reachable : System → List Obs → Prop
  | init : Reachable System.init []
  | step {s s' : System} {log obs : List Obs} {label : Label} :
      Reachable s log → s.step label = some (s', obs) → Reachable s' (log ++ obs)

end CurieBle
