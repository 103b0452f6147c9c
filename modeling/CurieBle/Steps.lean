import CurieBle.System

/-! What one step can do. To the client: the slot `sync` and the session are replays of the log,
since a step changes them exactly as its observations say; the dispatcher is the only writer of
`sync.status` and of the session, the caller the only writer of `sync.param` and the only one to
clear `sync.response`. To the caller: it enters an operation, or runs the head statement of its
program and moves on, returns, loops, or stays. -/

namespace CurieBle

def CfwMsgRspSync.observe (sync : CfwMsgRspSync) : Obs → CfwMsgRspSync
  | .arm => { sync with response := false }
  | .setParam param => { sync with param := param }
  | .dispatch msg _ =>
      if msg.completes then { sync with response := true, status := msg.carried } else sync
  | _ => sync

def Session.observe (session : Session) : Obs → Session
  | .dispatch msg _ => session.after msg
  | _ => session

theorem CfwMsgRspSync.observe_of_source (sync : CfwMsgRspSync) {o : Obs} (slot : o.source ≠ .slot)
    (dispatch : o.source ≠ .dispatch) : sync.observe o = sync := by
  cases o <;> first | rfl | exact (slot rfl).elim | exact (dispatch rfl).elim

theorem Session.observe_of_source (session : Session) {o : Obs} (dispatch : o.source ≠ .dispatch) :
    session.observe o = session := by
  cases o <;> first | rfl | exact (dispatch rfl).elim

/-- An observation made between two others, and equal to neither, is the middle one. -/
theorem mid_of_bracket {a b o : Obs} {mid rest : List Obs} (split : [a, o, b] = mid ++ o :: rest)
    (first : o ≠ a) (last : o ≠ b) : mid = [a] := by
  rcases mid with _ | ⟨x, _ | ⟨y, _ | ⟨z, mid⟩⟩⟩ <;> simp_all [eq_comm]

theorem foldl_of_forall_fixed {α β : Type} {f : α → β → α} {a : α} {l : List β}
    (fixed : ∀ x, ∀ o ∈ l, f x o = x) : l.foldl f a = a :=
  (List.foldl_ext f (fun x _ => x) a fixed).trans (List.foldl_fixed l)

def Stmt.isSubmission : Stmt → Bool
  | .submit _ | .submitOnConn _ | .submitIgnoringResult _ => true
  | _ => false

namespace System

variable {s s' : System} {obs : List Obs}

theorem offer_spec {request result reply} (h : s.offer request result reply = some (s', obs)) :
    obs = [.submit (request.addr s.client.serviceHandle) request result (some s.tickets)] ∧
      s'.client = s.client ∧ s'.caller = s.caller ∧ request.accepts result reply = true ∧
      s'.inFlight = s.inFlight ++ (reply.map fun msg => (⟨msg, some s.tickets⟩ : Reply)).toList := by
  unfold offer at h
  split at h <;> simp only [Option.some.injEq, Prod.mk.injEq, reduceCtorEq] at h
  obtain ⟨rfl, rfl⟩ := h
  exact ⟨rfl, rfl, rfl, by assumption, rfl⟩

theorem fireAndForget_spec {call result reply}
    (h : s.fireAndForget call result reply = some (s', obs)) :
    obs = [.submit (.serviceHandle s.client.serviceHandle) call.request result none,
        .advertiseRet result] ∧
      s'.client = s.client ∧ s'.caller = s.caller ∧ call.request.accepts result reply = true ∧
      s'.inFlight = s.inFlight ++ (reply.map fun msg => (⟨msg, none⟩ : Reply)).toList := by
  unfold fireAndForget at h
  split at h <;> simp only [Option.some.injEq, Prod.mk.injEq, reduceCtorEq] at h
  obtain ⟨rfl, rfl⟩ := h
  exact ⟨rfl, rfl, rfl, by assumption, rfl⟩

theorem submitChecked_client {request result reply rest}
    (h : s.submitChecked request result reply rest = some (s', obs)) :
    s'.client = s.client ∧ ∀ o ∈ obs, o.source = .caller ∨ o.source = .substrate := by
  obtain ⟨⟨a, b⟩, offered, h⟩ := Option.map_eq_some'.mp h
  obtain ⟨rfl, same, -⟩ := offer_spec offered
  by_cases accepted : result = .success <;> simp only [accepted, if_true, if_false,
    Prod.mk.injEq] at h <;> obtain ⟨rfl, rfl⟩ := h <;> simp [same, Obs.source]

theorem submitStmt_client {result reply stmt rest}
    (h : s.submitStmt result reply stmt rest = some (s', obs)) :
    s'.client = s.client ∧ ∀ o ∈ obs, o.source = .caller ∨ o.source = .substrate := by
  cases stmt <;> simp only [submitStmt, reduceCtorEq] at h
  case submit | submitOnConn => exact submitChecked_client h
  case submitIgnoringResult =>
    obtain ⟨⟨a, b⟩, offered, h⟩ := Option.map_eq_some'.mp h
    simp only [Prod.mk.injEq] at h
    obtain ⟨rfl, rfl⟩ := h
    obtain ⟨rfl, same, -⟩ := offer_spec offered
    simp [same, Obs.source]

theorem submitStmt_inFlight {result reply stmt rest}
    (h : s.submitStmt result reply stmt rest = some (s', obs)) :
    s'.inFlight = s.inFlight ++ (reply.map fun msg => (⟨msg, some s.tickets⟩ : Reply)).toList := by
  cases stmt <;> simp only [submitStmt, submitChecked, reduceCtorEq] at h <;>
    obtain ⟨⟨a, b⟩, offered, h⟩ := Option.map_eq_some'.mp h
  all_goals (try split at h) <;> simp only [Prod.mk.injEq] at h <;> obtain ⟨rfl, -⟩ := h <;>
    exact (offer_spec offered).2.2.2.2

theorem advance_frame {stmt rest} (h : s.advance stmt rest = some (s', obs)) :
    stmt.isSubmission = false ∧ s'.client.serviceHandle = s.client.serviceHandle ∧
      s'.inFlight = s.inFlight ∧ ∀ o ∈ obs, o.source = .caller ∨ o.source = .slot := by
  cases stmt <;> simp only [advance, reduceCtorEq] at h <;> (try split at h) <;>
    simp only [Option.some.injEq, Prod.mk.injEq, reduceCtorEq] at h <;> obtain ⟨rfl, rfl⟩ := h <;>
    simp [Stmt.isSubmission, Obs.source]

theorem advance_client {stmt rest} (h : s.advance stmt rest = some (s', obs)) :
    (obs = [.arm] ∧ s'.client = { s.client with sync.response := false }) ∨
    (∃ param, obs = [.setParam param] ∧ s'.client = { s.client with sync.param := param }) ∨
    (s'.client.sync = s.client.sync ∧ s'.client.session = s.client.session ∧
      ∀ o ∈ obs, o.source = .caller ∨ o.source = .substrate) := by
  cases stmt <;> simp only [advance, reduceCtorEq] at h <;> (try split at h) <;>
    simp only [Option.some.injEq, Prod.mk.injEq, reduceCtorEq] at h <;> obtain ⟨rfl, rfl⟩ := h
  all_goals first
    | exact .inl ⟨rfl, rfl⟩
    | exact .inr (.inl ⟨_, rfl, rfl⟩)
    | exact .inr (.inr ⟨rfl, rfl, by simp [Obs.source]⟩)

/-- What one step can do to the client: dispatch a message, arm the slot, set its destination, or
leave the slot and the session alone. -/
theorem step_cases {label : Label} (h : s.step label = some (s', obs)) :
    (∃ msg answers, obs = .dispatch msg answers :: (s.client.bleCoreClientHandleMessage msg).2 ∧
      s'.client = (s.client.bleCoreClientHandleMessage msg).1) ∨
    (obs = [.arm] ∧ s'.client = { s.client with sync.response := false }) ∨
    (∃ param, obs = [.setParam param] ∧ s'.client = { s.client with sync.param := param }) ∨
    (s'.client.sync = s.client.sync ∧ s'.client.session = s.client.session ∧
      ∀ o ∈ obs, o.source = .caller ∨ o.source = .substrate) := by
  cases label with
  | call op =>
      simp only [step] at h
      split at h <;> simp at h
      obtain ⟨rfl, rfl⟩ := h
      simp [Obs.source]
  | advance =>
      simp only [step] at h
      split at h
      · exact .inr (advance_client h)
      · simp at h
  | submit result reply =>
      simp only [step] at h
      split at h
      · obtain ⟨same, quiet⟩ := submitStmt_client h
        exact .inr (.inr (.inr ⟨by rw [same], by rw [same], quiet⟩))
      · simp at h
  | deliver reply =>
      simp only [step] at h
      split at h <;> simp at h
      obtain ⟨rfl, rfl⟩ := h
      exact .inl ⟨reply.msg, reply.answers, rfl, rfl⟩
  | event msg =>
      simp only [step] at h
      split at h <;> simp at h
      obtain ⟨rfl, rfl⟩ := h
      exact .inl ⟨msg, none, rfl, rfl⟩
  | tick ticks =>
      simp only [step, Option.some.injEq, Prod.mk.injEq] at h
      obtain ⟨rfl, rfl⟩ := h
      simp
  | fireAndForget call result reply =>
      obtain ⟨rfl, same, -⟩ := fireAndForget_spec h
      exact .inr (.inr (.inr ⟨by rw [same], by rw [same], by simp [Obs.source]⟩))

theorem step_sync {label : Label} (h : s.step label = some (s', obs)) :
    s'.client.sync = obs.foldl CfwMsgRspSync.observe s.client.sync := by
  rcases step_cases h with ⟨msg, answers, rfl, same⟩ | ⟨rfl, same⟩ | ⟨param, rfl, same⟩ |
    ⟨same, -, quiet⟩
  · have effects := s.client.handleMessage_source msg
    rw [List.foldl_cons, foldl_of_forall_fixed fun x o mem =>
      x.observe_of_source (by simp [effects o mem]) (by simp [effects o mem]), same]
    ext <;> simp only [Client.handleMessage_response, Client.handleMessage_status,
      Client.handleMessage_param, CfwMsgRspSync.observe] <;> split <;> simp_all
  · simp [same, CfwMsgRspSync.observe]
  · simp [same, CfwMsgRspSync.observe]
  · rw [same, foldl_of_forall_fixed fun x o mem => x.observe_of_source
      (by rcases quiet o mem with h | h <;> simp [h]) (by rcases quiet o mem with h | h <;> simp [h])]

theorem step_session {label : Label} (h : s.step label = some (s', obs)) :
    s'.client.session = obs.foldl Session.observe s.client.session := by
  rcases step_cases h with ⟨msg, answers, rfl, same⟩ | ⟨rfl, same⟩ | ⟨param, rfl, same⟩ |
    ⟨-, same, quiet⟩
  · have effects := s.client.handleMessage_source msg
    rw [List.foldl_cons, foldl_of_forall_fixed fun x o mem =>
      x.observe_of_source (by simp [effects o mem]), same, Client.handleMessage_session]
    rfl
  · simp [same, Session.observe]
  · simp [same, Session.observe]
  · rw [same, foldl_of_forall_fixed fun x o mem =>
      x.observe_of_source (by rcases quiet o mem with h | h <;> simp [h])]

/-- Where a statement leaves the caller's program: at the next statement, finished, back at the
deadline check, at `return sync.status`, or still spinning. -/
def Moves (stmt : Stmt) (rest next : List Stmt) : Prop :=
  next = rest ∨ next = [] ∨ (stmt = .pollResponse ∧ next = .checkDeadline :: stmt :: rest) ∨
    (stmt = .returnIfStatus ∧ next = [.returnStatus]) ∨ (stmt = .spinDelay ∧ next = stmt :: rest)

theorem advance_caller {stmt rest} (h : s.advance stmt rest = some (s', obs)) :
    Moves stmt rest s'.caller.prog ∧
    (stmt = .checkConnected → s'.caller.prog ≠ [] → s.client.session.connected = true) ∧
    (stmt = .pollResponse → s'.caller.prog = rest → s.client.sync.response = true) ∧
    (stmt ≠ .armResponse → s'.client.sync.response = s.client.sync.response) := by
  cases stmt <;> simp [advance] at h <;> (try split at h) <;>
    (try simp only [Option.some.injEq, Prod.mk.injEq] at h) <;> obtain ⟨rfl, rfl⟩ := h <;>
    simp_all [Moves]
  intro same
  have := congrArg List.length same
  simp only [List.length_cons] at this
  omega

theorem submitStmt_caller {result reply stmt rest}
    (h : s.submitStmt result reply stmt rest = some (s', obs)) :
    (s'.caller.prog = rest ∨ s'.caller.prog = []) ∧ stmt ≠ .checkConnected ∧
      stmt ≠ .pollResponse := by
  cases stmt <;> simp only [submitStmt, submitChecked, reduceCtorEq] at h <;>
    obtain ⟨⟨a, b⟩, -, h⟩ := Option.map_eq_some'.mp h
  all_goals (try split at h) <;> simp only [Prod.mk.injEq] at h <;> obtain ⟨rfl, rfl⟩ := h <;> simp

theorem step_caller {label : Label} (h : s.step label = some (s', obs)) :
    (s'.caller = s.caller ∧ (s.client.sync.response = true → s'.client.sync.response = true)) ∨
    (∃ op, s.caller.prog = [] ∧ obs = [.call op] ∧ s'.caller.prog = op.body ∧
      s'.client = s.client) ∨
    (∃ stmt rest, s.caller.prog = stmt :: rest ∧ Moves stmt rest s'.caller.prog ∧
      (stmt = .checkConnected → s'.caller.prog ≠ [] → s.client.session.connected = true) ∧
      (stmt = .pollResponse → s'.caller.prog = rest → s.client.sync.response = true) ∧
      (stmt ≠ .armResponse → s'.client.sync.response = s.client.sync.response)) := by
  cases label with
  | call op =>
      simp only [step] at h
      split at h <;> simp at h
      obtain ⟨rfl, rfl⟩ := h
      exact .inr (.inl ⟨op, by assumption, rfl, rfl, rfl⟩)
  | advance =>
      simp only [step] at h
      split at h
      · exact .inr (.inr ⟨_, _, by assumption, advance_caller h⟩)
      · simp at h
  | submit result reply =>
      simp only [step] at h
      split at h
      · have same := (submitStmt_client h).1
        obtain ⟨moved, notCheck, notPoll⟩ := submitStmt_caller h
        refine .inr (.inr ⟨_, _, by assumption, ?_, by simp [notCheck], by simp [notPoll],
          by simp [same]⟩)
        rcases moved with moved | moved <;> simp [Moves, moved]
      · simp at h
  | deliver reply =>
      simp only [step] at h
      split at h <;> simp at h
      obtain ⟨rfl, rfl⟩ := h
      exact .inl ⟨rfl, by simp_all [dispatch]⟩
  | event msg =>
      simp only [step] at h
      split at h <;> simp at h
      obtain ⟨rfl, rfl⟩ := h
      exact .inl ⟨rfl, by simp_all [dispatch]⟩
  | tick ticks =>
      simp only [step, Option.some.injEq, Prod.mk.injEq] at h
      obtain ⟨rfl, rfl⟩ := h
      exact .inl ⟨rfl, id⟩
  | fireAndForget call result reply =>
      simp only [step, fireAndForget] at h
      split at h <;> simp at h
      obtain ⟨rfl, rfl⟩ := h
      exact .inl ⟨rfl, id⟩

theorem step_advance_of_prog {stmt : Stmt} {rest : List Stmt} (prog : s.caller.prog = stmt :: rest) :
    s.step .advance = s.advance stmt rest := by
  simp only [step, prog]

theorem step_submit_of_prog {stmt : Stmt} {rest : List Stmt} {result : BleStatus}
    {reply : Option CfwMessage} (prog : s.caller.prog = stmt :: rest) :
    s.step (.submit result reply) = s.submitStmt result reply stmt rest := by
  simp only [step, prog]

theorem exec_singleton {label : Label} (stepped : s.step label = some (s', obs)) :
    s.exec [label] = some (s', obs) := by
  simp [exec, stepped]

theorem step_deliver (s : System) {reply : Reply} (present : reply ∈ s.inFlight) :
    s.step (.deliver reply) =
      some ({ s with inFlight := s.inFlight.erase reply }.dispatch reply.msg reply.answers) := by
  simp [step, present]

theorem step_fireAndForget (s : System) {call : FireAndForget} {result : BleStatus}
    {reply : Option CfwMessage} (accepts : call.request.accepts result reply = true) :
    s.step (.fireAndForget call result reply) =
      some ({ s with inFlight := s.inFlight ++ (reply.map fun msg => (⟨msg, none⟩ : Reply)).toList },
        [.submit (.serviceHandle s.client.serviceHandle) call.request result none,
          .advertiseRet result]) := by
  simp [step, fireAndForget, accepts]

end System

variable {s : System} {log : List Obs}

theorem Reachable.exec {labels : List Label} {t : System} {obs : List Obs}
    (reach : Reachable s log) (run : s.exec labels = some (t, obs)) : Reachable t (log ++ obs) := by
  induction labels generalizing s log obs with
  | nil =>
      simp only [System.exec, Option.some.injEq, Prod.mk.injEq] at run
      obtain ⟨rfl, rfl⟩ := run
      simpa using reach
  | cons label labels ih =>
      simp only [System.exec] at run
      split at run
      · rename_i s' obs' stepped
        obtain ⟨⟨t', obs''⟩, rest, same⟩ := Option.map_eq_some'.mp run
        simp only [Prod.mk.injEq] at same
        obtain ⟨rfl, rfl⟩ := same
        simpa using ih (reach.step stepped) rest
      · simp at run

theorem System.exec_cons (s : System) (label : Label) (labels : List Label) :
    s.exec (label :: labels) = (s.step label).bind fun (t, obs) =>
      (t.exec labels).map fun (u, obs') => (u, obs ++ obs') := by
  simp only [System.exec]
  split <;> simp_all

theorem System.exec_append (s : System) (labels labels' : List Label) :
    s.exec (labels ++ labels') = (s.exec labels).bind fun (t, obs) =>
      (t.exec labels').map fun (u, obs') => (u, obs ++ obs') := by
  induction labels generalizing s with
  | nil => simp [System.exec]
  | cons label labels ih =>
      simp only [List.cons_append, System.exec]
      split <;> simp [ih, Option.map_bind, Option.bind_map, Function.comp_def]

theorem System.exec_append_of {t u : System} {labels labels' : List Label} {obs obs' : List Obs}
    (first : s.exec labels = some (t, obs)) (second : t.exec labels' = some (u, obs')) :
    s.exec (labels ++ labels') = some (u, obs ++ obs') := by
  simp [System.exec_append, first, second]

theorem reachable_of_exec {labels : List Label} (run : System.init.exec labels = some (s, log)) :
    Reachable s log := by
  simpa using Reachable.init.exec run

theorem Reachable.sync (reach : Reachable s log) :
    s.client.sync = log.foldl CfwMsgRspSync.observe Client.init.sync := by
  induction reach with
  | init => rfl
  | step _ stepped ih => rw [System.step_sync stepped, ih, List.foldl_append]

theorem Reachable.session (reach : Reachable s log) :
    s.client.session = log.foldl Session.observe Client.init.session := by
  induction reach with
  | init => rfl
  | step _ stepped ih => rw [System.step_session stepped, ih, List.foldl_append]

/-- A property of each observation, read against the log before it, holds along every run once
each step's own observations have it. -/
theorem Reachable.forall_obs {Q : List Obs → Obs → Prop}
    (stepQ : ∀ {s s' : System} {log obs : List Obs} {label : Label}, Reachable s log →
      s.step label = some (s', obs) → ∀ mid o rest, obs = mid ++ o :: rest → Q (log ++ mid) o)
    (reach : Reachable s log) : ∀ pre o post, log = pre ++ o :: post → Q pre o := by
  induction reach with
  | init => simp
  | step reach stepped ih =>
      intro pre o post split
      rcases List.append_eq_append_iff.mp split with ⟨mid, rfl, rest⟩ | ⟨_ | ⟨x, earlier⟩, rfl, later⟩
      · exact stepQ reach stepped mid o post rest
      · simpa using stepQ reach stepped [] o post later.symm
      · simp only [List.cons_append, List.cons.injEq] at later
        obtain ⟨rfl, rfl⟩ := later
        exact ih pre o earlier rfl

end CurieBle
