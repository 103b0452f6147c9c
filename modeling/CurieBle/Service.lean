import CurieBle.Matching

/-! `service_handle`, the address of every request but the two of `ble_client_init`, which go to
`client_handle`. Only the handler of the reply to `cfw_open_service` writes it, so over every run
it holds the client handle of the last such reply dispatched (NULL before one), every other
request, blocking or fire-and-forget, goes to the handle it holds at the submission, and every
reply that sets it answers an earlier `cfw_open_service` request, since the substrate keeps for
each request only a reply of the request's own kind. -/

namespace CurieBle

def CfwMessage.serviceAfter (handle : Nat) : CfwMessage → Nat
  | .cfwOpenService clientHandle => clientHandle
  | _ => handle

def Obs.serviceAfter (handle : Nat) : Obs → Nat
  | .dispatch msg _ => msg.serviceAfter handle
  | _ => handle

theorem Obs.serviceAfter_of_source {o : Obs} (source : o.source ≠ .dispatch) (handle : Nat) :
    o.serviceAfter handle = handle := by
  cases o <;> first | rfl | exact (source rfl).elim

theorem FireAndForget.request_addr (call : FireAndForget) (handle : Nat) :
    call.request.addr handle = .serviceHandle handle := by
  cases call <;> rfl

@[simp] theorem Client.handleMessage_serviceHandle (c : Client) (msg : CfwMessage) :
    (c.bleCoreClientHandleMessage msg).1.serviceHandle = msg.serviceAfter c.serviceHandle := by
  cases msg <;> first | rfl | (rename_i serviceId; cases serviceId <;> rfl)

namespace System

variable {s s' : System} {obs : List Obs}

/-- What one step does to `service_handle` and to the replies the substrate holds: the dispatcher
runs on a held reply or an unsolicited event and keeps no new reply; a submission, the caller's or
a fire-and-forget one, is observed first, addressed by its request, and adds at most a reply of its
request's kind under its ticket; every other step touches neither. -/
theorem step_service {label : Label} (h : s.step label = some (s', obs)) :
    (∃ msg answers, obs = .dispatch msg answers :: (s.client.bleCoreClientHandleMessage msg).2 ∧
      s'.client = (s.client.bleCoreClientHandleMessage msg).1 ∧
      (∀ r ∈ s'.inFlight, r ∈ s.inFlight) ∧
      (msg.unsolicited = true ∧ answers = none ∨ ⟨msg, answers⟩ ∈ s.inFlight)) ∨
    (∃ request result ticket reply tail,
      obs = .submit (request.addr s.client.serviceHandle) request result ticket :: tail ∧
      s'.client = s.client ∧ request.accepts result reply = true ∧
      s'.inFlight = s.inFlight ++ (reply.map fun msg => (⟨msg, ticket⟩ : Reply)).toList ∧
      ∀ o ∈ tail, o.source = .caller) ∨
    (s'.client.serviceHandle = s.client.serviceHandle ∧ s'.inFlight = s.inFlight ∧
      ∀ o ∈ obs, o.source = .caller ∨ o.source = .slot) := by
  cases label with
  | call op =>
      simp only [step] at h
      split at h <;> simp only [Option.some.injEq, Prod.mk.injEq, reduceCtorEq] at h
      obtain ⟨rfl, rfl⟩ := h
      exact .inr (.inr ⟨rfl, rfl, by simp [Obs.source]⟩)
  | advance =>
      simp only [step] at h
      split at h
      · obtain ⟨-, handle, held, caller⟩ := advance_frame h
        exact .inr (.inr ⟨handle, held, caller⟩)
      · simp at h
  | submit result reply =>
      simp only [step] at h
      split at h
      · rename_i stmt rest _
        refine .inr (.inl ?_)
        cases stmt <;> simp only [submitStmt, submitChecked, reduceCtorEq] at h <;>
          obtain ⟨⟨t, obs'⟩, offered, h⟩ := Option.map_eq_some'.mp h <;>
          obtain ⟨rfl, same, -, accepts, held⟩ := offer_spec offered
        all_goals (try split at h) <;> simp only [Prod.mk.injEq] at h <;> obtain ⟨rfl, rfl⟩ := h <;>
          exact ⟨_, result, _, reply, _, rfl, same, accepts, held, by simp [Obs.source]⟩
      · simp at h
  | deliver reply =>
      simp only [step] at h
      split at h <;> simp only [Option.some.injEq, Prod.mk.injEq, reduceCtorEq] at h
      obtain ⟨rfl, rfl⟩ := h
      exact .inl ⟨reply.msg, reply.answers, rfl, rfl, fun r mem => List.mem_of_mem_erase mem,
        .inr (by assumption)⟩
  | event msg =>
      simp only [step] at h
      split at h <;> simp only [Option.some.injEq, Prod.mk.injEq, reduceCtorEq] at h
      obtain ⟨rfl, rfl⟩ := h
      exact .inl ⟨msg, none, rfl, rfl, fun r mem => mem, .inl ⟨by assumption, rfl⟩⟩
  | tick ticks =>
      simp only [step, Option.some.injEq, Prod.mk.injEq] at h
      obtain ⟨rfl, rfl⟩ := h
      exact .inr (.inr ⟨rfl, rfl, by simp⟩)
  | fireAndForget call result reply =>
      obtain ⟨rfl, same, -, accepts, held⟩ := fireAndForget_spec h
      exact .inr (.inl ⟨call.request, result, none, reply, _,
        by rw [call.request_addr], same, accepts, held, by simp [Obs.source]⟩)

theorem step_serviceHandle {label : Label} (h : s.step label = some (s', obs)) :
    s'.client.serviceHandle = obs.foldl Obs.serviceAfter s.client.serviceHandle := by
  rcases step_service h with ⟨msg, answers, rfl, client, -⟩ |
    ⟨request, result, ticket, reply, tail, rfl, client, -, -, caller⟩ | ⟨same, -, caller⟩
  · have effects := s.client.handleMessage_source msg
    rw [List.foldl_cons, foldl_of_forall_fixed fun x o mem =>
      Obs.serviceAfter_of_source (by simp [effects o mem]) x, client,
      Client.handleMessage_serviceHandle]
    rfl
  · rw [List.foldl_cons, foldl_of_forall_fixed fun x o mem =>
      Obs.serviceAfter_of_source (by simp [caller o mem]) x, client]
    rfl
  · rw [same, foldl_of_forall_fixed fun x o mem =>
      Obs.serviceAfter_of_source (by rcases caller o mem with h | h <;> simp [h]) x]

end System

variable {s : System} {log : List Obs}

theorem Reachable.serviceHandle (reach : Reachable s log) :
    s.client.serviceHandle = log.foldl Obs.serviceAfter 0 := by
  induction reach with
  | init => rfl
  | step _ stepped ih => rw [System.step_serviceHandle stepped, ih, List.foldl_append]

end CurieBle
