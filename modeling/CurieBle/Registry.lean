import CurieBle.Session

/-! The subscriber registry: `ble_client_gap_event_cb`, `ble_client_gap_event_param`,
`ble_client_gatts_event_cb` and `ble_client_gatts_event_param`. The four assignments that end
`ble_client_init` are its only writers; the dispatcher only reads it, to invoke the subscribers.
Over every run, each change of the registry is one of these assignments, run while the operation
the caller entered last is `ble_client_init`, and stores that call's argument; and every subscriber
invocation comes right after the dispatch of an event of its kind and passes a callback that a
`ble_client_init` call of the log was given. -/

namespace CurieBle

def Obs.isCall : Obs → Bool
  | .call _ => true
  | _ => false

/-- `op` is the operation the caller entered last. -/
def LastCall (log : List Obs) (op : Op) : Prop :=
  ∃ pre post, log = pre ++ .call op :: post ∧ ∀ o ∈ post, o.isCall = false

theorem LastCall.append {log obs : List Obs} {op : Op} (last : LastCall log op)
    (noCall : ∀ o ∈ obs, o.isCall = false) : LastCall (log ++ obs) op := by
  obtain ⟨pre, post, rfl, later⟩ := last
  refine ⟨pre, post ++ obs, by simp, fun o mem => ?_⟩
  rcases List.mem_append.mp mem with mem | mem
  · exact later o mem
  · exact noCall o mem

theorem LastCall.mem {log : List Obs} {op : Op} (last : LastCall log op) : .call op ∈ log := by
  obtain ⟨pre, post, rfl, -⟩ := last
  simp

def Stmt.isStore : Stmt → Bool
  | .setGapEventCb _ | .setGapEventParam _ | .setGattsEventCb _ | .setGattsEventParam _ => true
  | _ => false

/-- The registry after a statement of the caller: one of the four assignments of
`ble_client_init`, or no write. -/
def Stmt.storeInto (registry : Registry) : Stmt → Registry
  | .setGapEventCb cb => { registry with gapEventCb := cb }
  | .setGapEventParam param => { registry with gapEventParam := param }
  | .setGattsEventCb cb => { registry with gattsEventCb := cb }
  | .setGattsEventParam param => { registry with gattsEventParam := param }
  | _ => registry

theorem Stmt.storeInto_of_not_isStore (registry : Registry) {stmt : Stmt}
    (other : stmt.isStore = false) : stmt.storeInto registry = registry := by
  cases stmt <;> first | rfl | cases other

def Op.isInit : Op → Bool
  | .init .. => true
  | _ => false

theorem Op.body_any_isStore (op : Op) : op.body.any Stmt.isStore = op.isInit := by
  cases op <;> rfl

theorem Op.store_of_mem_body {op : Op} {stmt : Stmt} (mem : stmt ∈ op.body)
    (store : stmt.isStore = true) :
    ∃ gapEventCb gapEventParam gattsEventCb gattsEventParam,
      op = .init gapEventCb gapEventParam gattsEventCb gattsEventParam ∧
      (stmt = .setGapEventCb gapEventCb ∨ stmt = .setGapEventParam gapEventParam ∨
        stmt = .setGattsEventCb gattsEventCb ∨ stmt = .setGattsEventParam gattsEventParam) := by
  have init : op.isInit = true := op.body_any_isStore ▸ List.any_eq_true.mpr ⟨stmt, mem, store⟩
  obtain ⟨a, b, c, d, rfl⟩ : ∃ a b c d, op = .init a b c d := by
    cases op <;> first | exact ⟨_, _, _, _, rfl⟩ | cases init
  refine ⟨a, b, c, d, rfl, ?_⟩
  cases stmt <;> simp_all [Op.body, bleClientInit, exchange, waitForCondition, Stmt.isStore]

/-- The tag the dispatcher passes to the GAP subscriber for a message, if it invokes it. -/
def CfwMessage.gapEvent : CfwMessage → Option BleClientGapEvent
  | .bleGapConnectEvt _ => some .connected
  | .bleGapDisconnectEvt => some .disconnected
  | .bleGapToEvt .adv => some .advTimeout
  | .bleGapToEvt .conn => some .connTimeout
  | .bleGapRssiEvt => some .rssi
  | _ => none

def CfwMessage.gattsEvent : CfwMessage → Option BleClientGattsEvent
  | .bleGattsWriteEvt => some .write
  | _ => none

/-- The two subscriber slots of the registry: a callback and its user parameter each. -/
inductive Subscriber where
  | gap
  | gatts
  deriving DecidableEq, Repr

def Registry.cb (registry : Registry) : Subscriber → Option Callback
  | .gap => registry.gapEventCb
  | .gatts => registry.gattsEventCb

def Registry.param (registry : Registry) : Subscriber → Ptr
  | .gap => registry.gapEventParam
  | .gatts => registry.gattsEventParam

/-- A subscriber invocation: the slot it reads, its callback, its message and its parameter. -/
def Obs.invocation : Obs → Option (Subscriber × Callback × CfwMessage × Ptr)
  | .gapEvent cb _ msg param => some (.gap, cb, msg, param)
  | .gattsEvent cb _ msg param => some (.gatts, cb, msg, param)
  | _ => none

def Obs.tagged : Obs → Bool
  | .gapEvent _ event msg _ => msg.gapEvent == some event
  | .gattsEvent _ event msg _ => msg.gattsEvent == some event
  | _ => false

theorem Client.handleMessage_of_invocation (c : Client) (msg : CfwMessage) {o : Obs}
    {slot : Subscriber} {cb : Callback} {m : CfwMessage} {param : Ptr}
    (mem : o ∈ (c.bleCoreClientHandleMessage msg).2)
    (invokes : o.invocation = some (slot, cb, m, param)) :
    (c.bleCoreClientHandleMessage msg).2 = [o, .free msg] ∧ m = msg ∧ o.tagged = true ∧
      c.registry.cb slot = some cb ∧ param = c.registry.param slot := by
  cases o <;> simp only [Obs.invocation, reduceCtorEq, Option.some.injEq, Prod.mk.injEq] at invokes <;>
    obtain ⟨rfl, rfl, rfl, rfl⟩ := invokes <;>
    cases msg <;> simp [bleCoreClientHandleMessage] at mem ⊢ <;> (repeat' split at mem) <;>
    simp_all [Obs.tagged, CfwMessage.gapEvent, CfwMessage.gattsEvent, Registry.cb, Registry.param]

theorem Obs.isCall_of_source {o : Obs} (source : o.source ≠ .caller) : o.isCall = false := by
  cases o <;> first | rfl | exact (source rfl).elim

namespace System

variable {s s' : System} {obs : List Obs}

theorem advance_registry {stmt : Stmt} {rest : List Stmt} (h : s.advance stmt rest = some (s', obs)) :
    s'.client.registry = stmt.storeInto s.client.registry ∧ ∀ o ∈ obs, o.isCall = false := by
  cases stmt <;> simp only [advance, reduceCtorEq] at h <;> (try split at h) <;>
    simp only [Option.some.injEq, Prod.mk.injEq, reduceCtorEq] at h <;> obtain ⟨rfl, rfl⟩ := h <;>
    exact ⟨rfl, by simp [Obs.isCall]⟩

theorem submitStmt_calls {result : BleStatus} {reply : Option CfwMessage} {stmt : Stmt}
    {rest : List Stmt} (h : s.submitStmt result reply stmt rest = some (s', obs)) :
    ∀ o ∈ obs, o.isCall = false := by
  cases stmt <;> simp only [submitStmt, submitChecked, reduceCtorEq] at h <;>
    obtain ⟨⟨a, b⟩, offered, h⟩ := Option.map_eq_some'.mp h
  all_goals (try split at h) <;> simp only [Prod.mk.injEq] at h <;> obtain ⟨-, rfl⟩ := h <;>
    simp [(offer_spec offered).1, Obs.isCall]

theorem dispatch_calls (msg : CfwMessage) (answers : Option Nat) :
    ∀ o ∈ (s.dispatch msg answers).2, o.isCall = false := by
  intro o mem
  rcases List.mem_cons.mp mem with rfl | effect
  · rfl
  · exact Obs.isCall_of_source (by simp [s.client.handleMessage_source msg o effect])

theorem step_registry {label : Label} (h : s.step label = some (s', obs)) :
    (∃ op, label = .call op ∧ obs = [.call op] ∧ s'.caller.prog = op.body ∧
      s'.client = s.client) ∨
    ((∀ o ∈ obs, o.isCall = false) ∧ (s'.client.registry = s.client.registry ∨
      ∃ stmt rest, label = .advance ∧ s.caller.prog = stmt :: rest ∧
        s'.client.registry = stmt.storeInto s.client.registry)) := by
  cases label with
  | call op =>
      simp only [step] at h
      split at h <;> simp only [Option.some.injEq, Prod.mk.injEq, reduceCtorEq] at h
      obtain ⟨rfl, rfl⟩ := h
      exact .inl ⟨op, rfl, rfl, rfl, rfl⟩
  | advance =>
      simp only [step] at h
      split at h
      · obtain ⟨stored, noCall⟩ := advance_registry h
        exact .inr ⟨noCall, .inr ⟨_, _, rfl, by assumption, stored⟩⟩
      · simp at h
  | submit result reply =>
      simp only [step] at h
      split at h
      · exact .inr ⟨submitStmt_calls h, .inl (by rw [(submitStmt_client h).1])⟩
      · simp at h
  | deliver reply =>
      simp only [step] at h
      split at h <;> simp at h
      obtain ⟨rfl, rfl⟩ := h
      exact .inr ⟨dispatch_calls _ _, .inl (Client.handleMessage_registry _ _)⟩
  | event msg =>
      simp only [step] at h
      split at h <;> simp at h
      obtain ⟨rfl, rfl⟩ := h
      exact .inr ⟨dispatch_calls _ _, .inl (Client.handleMessage_registry _ _)⟩
  | tick ticks =>
      simp only [step, Option.some.injEq, Prod.mk.injEq] at h
      obtain ⟨rfl, rfl⟩ := h
      exact .inr ⟨by simp, .inl rfl⟩
  | fireAndForget call result reply =>
      simp only [step, fireAndForget] at h
      split at h <;> simp only [Option.some.injEq, Prod.mk.injEq, reduceCtorEq] at h
      obtain ⟨rfl, rfl⟩ := h
      exact .inr ⟨by simp [Obs.isCall], .inl rfl⟩

end System

def StoresFrom (prog : List Stmt) (log : List Obs) : Prop :=
  ∀ stmt ∈ prog, stmt.isStore = true → ∃ op, LastCall log op ∧ stmt ∈ op.body

/-- Each field of the registry holds its zero initial value or the argument of a
`ble_client_init` call of the log. -/
def RegistryFrom (registry : Registry) (log : List Obs) : Prop :=
  (registry.gapEventCb = none ∨ ∃ b c d, .call (.init registry.gapEventCb b c d) ∈ log) ∧
  (registry.gapEventParam = 0 ∨ ∃ a c d, .call (.init a registry.gapEventParam c d) ∈ log) ∧
  (registry.gattsEventCb = none ∨ ∃ a b d, .call (.init a b registry.gattsEventCb d) ∈ log) ∧
  (registry.gattsEventParam = 0 ∨ ∃ a b c, .call (.init a b c registry.gattsEventParam) ∈ log)

theorem RegistryFrom.append {registry : Registry} {log obs : List Obs}
    (held : RegistryFrom registry log) : RegistryFrom registry (log ++ obs) := by
  obtain ⟨gapCb, gapParam, gattsCb, gattsParam⟩ := held
  exact ⟨gapCb.imp_right fun ⟨b, c, d, mem⟩ => ⟨b, c, d, by simp [mem]⟩,
    gapParam.imp_right fun ⟨a, c, d, mem⟩ => ⟨a, c, d, by simp [mem]⟩,
    gattsCb.imp_right fun ⟨a, b, d, mem⟩ => ⟨a, b, d, by simp [mem]⟩,
    gattsParam.imp_right fun ⟨a, b, c, mem⟩ => ⟨a, b, c, by simp [mem]⟩⟩

theorem RegistryFrom.storeInto {registry : Registry} {log : List Obs} {stmt : Stmt}
    {a : Option Callback} {b : Ptr} {c : Option Callback} {d : Ptr}
    (held : RegistryFrom registry log) (called : .call (.init a b c d) ∈ log)
    (stmt_eq : stmt = .setGapEventCb a ∨ stmt = .setGapEventParam b ∨ stmt = .setGattsEventCb c ∨
      stmt = .setGattsEventParam d) :
    RegistryFrom (stmt.storeInto registry) log := by
  obtain ⟨gapCb, gapParam, gattsCb, gattsParam⟩ := held
  rcases stmt_eq with rfl | rfl | rfl | rfl
  · exact ⟨.inr ⟨b, c, d, called⟩, gapParam, gattsCb, gattsParam⟩
  · exact ⟨gapCb, .inr ⟨a, c, d, called⟩, gattsCb, gattsParam⟩
  · exact ⟨gapCb, gapParam, .inr ⟨a, b, d, called⟩, gattsParam⟩
  · exact ⟨gapCb, gapParam, gattsCb, .inr ⟨a, b, c, called⟩⟩

namespace System

variable {s s' : System} {label : Label} {obs mid rest : List Obs} {cb : Callback} {msg : CfwMessage}
  {param : Ptr}

theorem step_invocation {o : Obs} {slot : Subscriber} (stepped : s.step label = some (s', obs))
    (split : obs = mid ++ o :: rest) (invokes : o.invocation = some (slot, cb, msg, param)) :
    (∃ answers, mid = [.dispatch msg answers]) ∧ o.tagged = true ∧
      s.client.registry.cb slot = some cb ∧ param = s.client.registry.param slot := by
  have mem : o ∈ obs := by simp [split]
  rcases step_cases stepped with ⟨m, answers, rfl, -⟩ | ⟨rfl, -⟩ | ⟨p, rfl, -⟩ | ⟨-, -, quiet⟩
  · rcases List.mem_cons.mp mem with rfl | effect
    · cases invokes
    obtain ⟨effects, rfl, tagged, registered, rfl⟩ :=
      s.client.handleMessage_of_invocation m effect invokes
    rw [effects] at split
    exact ⟨⟨answers, mid_of_bracket split (by rintro rfl; cases invokes)
      (by rintro rfl; cases invokes)⟩, tagged, registered, rfl⟩
  · obtain rfl := List.mem_singleton.mp mem
    cases invokes
  · obtain rfl := List.mem_singleton.mp mem
    cases invokes
  · cases o <;> first | (cases invokes; done) | (rcases quiet _ mem with h | h <;> cases h)

end System

variable {s : System} {log : List Obs}

theorem Reachable.storesFrom (reach : Reachable s log) : StoresFrom s.caller.prog log := by
  induction reach with
  | init => simp [StoresFrom, System.init]
  | @step s s' log obs label reach stepped ih =>
      intro stmt mem store
      rcases System.step_registry stepped with ⟨op, -, rfl, body, -⟩ | ⟨noCall, -⟩
      · rw [body] at mem
        exact ⟨op, ⟨log, [], rfl, by simp⟩, mem⟩
      · have earlier : stmt ∈ s.caller.prog := by
          rcases System.step_caller stepped with ⟨same, -⟩ | ⟨op, -, rfl, -⟩ |
            ⟨stmt', rest, prog, moves, -⟩
          · rwa [← same]
          · simp [Obs.isCall] at noCall
          · rcases moves.mem mem with rfl | rfl | earlier
            · cases store
            · cases store
            · rwa [prog]
        obtain ⟨op, last, inBody⟩ := ih stmt earlier store
        exact ⟨op, last.append noCall, inBody⟩

theorem Reachable.store_of_prog (reach : Reachable s log) {stmt : Stmt} {rest : List Stmt}
    (prog : s.caller.prog = stmt :: rest) (store : stmt.isStore = true) :
    ∃ a b c d, LastCall log (.init a b c d) ∧ (stmt = .setGapEventCb a ∨
      stmt = .setGapEventParam b ∨ stmt = .setGattsEventCb c ∨ stmt = .setGattsEventParam d) := by
  obtain ⟨op, last, mem⟩ := reach.storesFrom stmt (by simp [prog]) store
  obtain ⟨a, b, c, d, rfl, stmt_eq⟩ := Op.store_of_mem_body mem store
  exact ⟨a, b, c, d, last, stmt_eq⟩

theorem Reachable.registryFrom (reach : Reachable s log) : RegistryFrom s.client.registry log := by
  induction reach with
  | init => exact ⟨.inl rfl, .inl rfl, .inl rfl, .inl rfl⟩
  | @step s s' log obs label reach stepped ih =>
      rcases System.step_registry stepped with ⟨op, -, -, -, same⟩ | ⟨-, same | ⟨stmt, rest, -, prog, stored⟩⟩
      · rw [same]
        exact ih.append
      · rw [same]
        exact ih.append
      · rw [stored]
        by_cases store : stmt.isStore = true
        · obtain ⟨a, b, c, d, last, stmt_eq⟩ := reach.store_of_prog prog store
          exact (ih.storeInto last.mem stmt_eq).append
        · rw [Stmt.storeInto_of_not_isStore _ (by simpa using store)]
          exact ih.append

/-- Over every run, a step that changes the subscriber registry is the caller running one of the
four assignments of the `ble_client_init` call it entered last, and stores that call's argument
in the field the assignment names. -/
theorem registry_written_by_init {labels : List Label} (run : System.init.exec labels = some (s, log))
    {label : Label} {s' : System} {obs : List Obs} (stepped : s.step label = some (s', obs))
    (written : s'.client.registry ≠ s.client.registry) :
    label = .advance ∧ ∃ gapEventCb gapEventParam gattsEventCb gattsEventParam,
      LastCall log (.init gapEventCb gapEventParam gattsEventCb gattsEventParam) ∧
      (s'.client.registry = { s.client.registry with gapEventCb := gapEventCb } ∨
        s'.client.registry = { s.client.registry with gapEventParam := gapEventParam } ∨
        s'.client.registry = { s.client.registry with gattsEventCb := gattsEventCb } ∨
        s'.client.registry = { s.client.registry with gattsEventParam := gattsEventParam }) := by
  rcases System.step_registry stepped with ⟨-, -, -, -, same⟩ |
    ⟨-, same | ⟨stmt, rest, rfl, prog, stored⟩⟩
  · exact absurd (by rw [same]) written
  · exact absurd same written
  have store : stmt.isStore = true := by
    by_contra other
    exact written (stored.trans (Stmt.storeInto_of_not_isStore _ (by simpa using other)))
  obtain ⟨a, b, c, d, last, stmt_eq⟩ := (reachable_of_exec run).store_of_prog prog store
  refine ⟨rfl, a, b, c, d, last, ?_⟩
  rw [stored]
  rcases stmt_eq with rfl | rfl | rfl | rfl
  · exact .inl rfl
  · exact .inr (.inl rfl)
  · exact .inr (.inr (.inl rfl))
  · exact .inr (.inr (.inr rfl))

/-- `ble_client_init` of `initRun` with the callbacks 5 and 6 and parameters 50 and 60, stopped
before its four assignments. -/
def storingRun : List Label :=
  [.call (.init (some 5) 50 (some 6) 60), .advance, .submit .success (some (.cfwSvcAvailEvt .bleCore)),
    .advance, .deliver ⟨.cfwSvcAvailEvt .bleCore, some 0⟩, .advance, .advance, .tick 32, .advance,
    .advance, .submit .success (some (.cfwOpenService 7)), .advance,
    .deliver ⟨.cfwOpenService 7, some 1⟩, .advance]

theorem init_stores_gap_callback :
    ∃ s log s' obs, System.init.exec storingRun = some (s, log) ∧
      s.step .advance = some (s', obs) ∧ s'.client.registry ≠ s.client.registry ∧
      Label.advance = .advance ∧ ∃ gapEventCb gapEventParam gattsEventCb gattsEventParam,
        LastCall log (.init gapEventCb gapEventParam gattsEventCb gattsEventParam) ∧
        (s'.client.registry = { s.client.registry with gapEventCb := gapEventCb } ∨
          s'.client.registry = { s.client.registry with gapEventParam := gapEventParam } ∨
          s'.client.registry = { s.client.registry with gattsEventCb := gattsEventCb } ∨
          s'.client.registry = { s.client.registry with gattsEventParam := gattsEventParam }) :=
  ⟨_, _, _, _, rfl, rfl, by decide,
    @registry_written_by_init _ _ storingRun rfl _ _ _ rfl (by decide)⟩

theorem Reachable.subscribers (reach : Reachable s log) :
    ∀ pre o post, log = pre ++ o :: post →
      (∀ cb event msg param, o = .gapEvent cb event msg param →
        (∃ before answers, pre = before ++ [.dispatch msg answers]) ∧ msg.gapEvent = some event ∧
        (∃ b c d, .call (.init (some cb) b c d) ∈ pre) ∧
        (param = 0 ∨ ∃ a c d, .call (.init a param c d) ∈ pre)) ∧
      (∀ cb event msg param, o = .gattsEvent cb event msg param →
        (∃ before answers, pre = before ++ [.dispatch msg answers]) ∧ msg.gattsEvent = some event ∧
        (∃ a b d, .call (.init a b (some cb) d) ∈ pre) ∧
        (param = 0 ∨ ∃ a b c, .call (.init a b c param) ∈ pre)) := by
  refine reach.forall_obs fun reach stepped mid o rest split => ⟨?_, ?_⟩
  · rintro cb event msg param rfl
    obtain ⟨⟨answers, rfl⟩, tagged, registered, rfl⟩ := System.step_invocation stepped split rfl
    obtain ⟨gapCb, gapParam, -, -⟩ := reach.registryFrom
    obtain ⟨b, c, d, called⟩ := gapCb.resolve_left (by simp [Registry.cb] at registered; simp [registered])
    refine ⟨⟨_, answers, rfl⟩, by simpa [Obs.tagged] using tagged,
      ⟨b, c, d, by simp [Registry.cb] at registered; simp [← registered, called]⟩, ?_⟩
    exact gapParam.imp_right fun ⟨a, c, d, mem⟩ => ⟨a, c, d, by simp [Registry.param, mem]⟩
  · rintro cb event msg param rfl
    obtain ⟨⟨answers, rfl⟩, tagged, registered, rfl⟩ := System.step_invocation stepped split rfl
    obtain ⟨-, -, gattsCb, gattsParam⟩ := reach.registryFrom
    obtain ⟨a, b, d, called⟩ := gattsCb.resolve_left (by simp [Registry.cb] at registered; simp [registered])
    refine ⟨⟨_, answers, rfl⟩, by simpa [Obs.tagged] using tagged,
      ⟨a, b, d, by simp [Registry.cb] at registered; simp [← registered, called]⟩, ?_⟩
    exact gattsParam.imp_right fun ⟨a, b, c, mem⟩ => ⟨a, b, c, by simp [Registry.param, mem]⟩

/-- Over every run, each invocation of a subscriber comes right after the dispatch of the event it
reports and carries the tag of that event's kind; its callback was given to a `ble_client_init`
call before it, and so was its parameter, unless that is still the zero initial value. -/
theorem subscribers_invoked_for_events {labels : List Label}
    (run : System.init.exec labels = some (s, log)) :
    ∀ pre o post, log = pre ++ o :: post →
      (∀ cb event msg param, o = .gapEvent cb event msg param →
        (∃ before answers, pre = before ++ [.dispatch msg answers]) ∧ msg.gapEvent = some event ∧
        (∃ b c d, .call (.init (some cb) b c d) ∈ pre) ∧
        (param = 0 ∨ ∃ a c d, .call (.init a param c d) ∈ pre)) ∧
      (∀ cb event msg param, o = .gattsEvent cb event msg param →
        (∃ before answers, pre = before ++ [.dispatch msg answers]) ∧ msg.gattsEvent = some event ∧
        (∃ a b d, .call (.init a b (some cb) d) ∈ pre) ∧
        (param = 0 ∨ ∃ a b c, .call (.init a b c param) ∈ pre)) :=
  (reachable_of_exec run).subscribers

def invokingRun : List Label :=
  storingRun ++ [.advance, .advance, .advance, .advance, .advance, .event (.bleGapConnectEvt 9)]

theorem connect_invokes_registered_callback :
    ∃ s log, System.init.exec invokingRun = some (s, log) ∧
      .gapEvent 5 .connected (.bleGapConnectEvt 9) 50 ∈ log ∧
      ∀ pre o post, log = pre ++ o :: post →
        (∀ cb event msg param, o = .gapEvent cb event msg param →
          (∃ before answers, pre = before ++ [.dispatch msg answers]) ∧ msg.gapEvent = some event ∧
          (∃ b c d, .call (.init (some cb) b c d) ∈ pre) ∧
          (param = 0 ∨ ∃ a c d, .call (.init a param c d) ∈ pre)) ∧
        (∀ cb event msg param, o = .gattsEvent cb event msg param →
          (∃ before answers, pre = before ++ [.dispatch msg answers]) ∧ msg.gattsEvent = some event ∧
          (∃ a b d, .call (.init a b (some cb) d) ∈ pre) ∧
          (param = 0 ∨ ∃ a b c, .call (.init a b c param) ∈ pre)) :=
  ⟨_, _, rfl, by decide, @subscribers_invoked_for_events _ _ invokingRun rfl⟩

end CurieBle
