import CurieBle.Deadline

/-! `ble_client_init`: a blocking wait for the availability of the core service, a settling delay
of 32 ticks, a second blocking wait for the opening of the service, whose submission is not
tested, and then the storing of the subscriber callbacks. When the availability event never
comes, the first wait times out, the service is never opened and no callback is stored; when the
opening is refused, the call still waits for it. -/

namespace CurieBle

namespace System

variable {s : System} {request : Request} {msg : CfwMessage} {rest : List Stmt}

theorem exec_call_armed {op : Op} (idle : s.caller.prog = [])
    (body : op.body = .armResponse :: rest) :
    s.exec [.call op, .advance] =
      some ({ s.setProg rest with client.sync.response := false }, [.call op, .arm]) := by
  have called : s.step (.call op) = some (s.setProg op.body, [.call op]) := by
    simp [step, idle]
  have armed : (s.setProg op.body).step .advance =
      some ({ s.setProg rest with client.sync.response := false }, [.arm]) := by
    rw [step_advance_of_prog (by rw [setProg_prog, body])]
    rfl
  exact exec_append_of (exec_singleton called) (exec_singleton armed)

theorem exec_delivered {stmt : Stmt} (prog : s.caller.prog = stmt :: waitForCondition ++ rest)
    (submits : stmt = .submit request ∨ stmt = .submitIgnoringResult request)
    (own : request.answeredBy msg = true) :
    ∃ t, s.exec [.submit .success (some msg), .advance, .deliver ⟨msg, some s.tickets⟩, .advance] =
      some (t, .submit (request.addr s.client.serviceHandle) request .success (some s.tickets) ::
        .dispatch msg (some s.tickets) :: (s.client.bleCoreClientHandleMessage msg).2) ∧
      t.client = (s.client.bleCoreClientHandleMessage msg).1 ∧ t.tickets = s.tickets + 1 ∧
      t.clock = s.clock ∧ t.caller.prog = if (s.client.bleCoreClientHandleMessage msg).1.sync.response then rest
        else .checkDeadline :: .pollResponse :: rest := by
  simp only [waitForCondition, List.cons_append, List.nil_append] at prog
  let s1 : System :=
    { s with
      inFlight := s.inFlight ++ [(⟨msg, some s.tickets⟩ : Reply)]
      tickets := s.tickets + 1 }.setProg (.startWait :: .pollResponse :: rest)
  have h1 : s.step (.submit .success (some msg)) =
      some (s1, [.submit (request.addr s.client.serviceHandle) request .success (some s.tickets)]) := by
    rw [step_submit_of_prog prog]
    rcases submits with rfl | rfl <;>
      simp [submitStmt, submitChecked, offer, Request.accepts, own]
  let s2 : System := { s1.setProg (.pollResponse :: rest) with caller.timeout := s1.clock + 32768 }
  have h2 : s1.step .advance = some (s2, []) := by
    rw [step_advance_of_prog rfl]
    rfl
  let s3 : System :=
    { s2 with
      client := (s.client.bleCoreClientHandleMessage msg).1
      inFlight := s2.inFlight.erase (⟨msg, some s.tickets⟩ : Reply) }
  have h3 : s2.step (.deliver ⟨msg, some s.tickets⟩) =
      some (s3, .dispatch msg (some s.tickets) :: (s.client.bleCoreClientHandleMessage msg).2) := by
    simp only [step]
    rw [if_pos (by simp [s2, s1])]
    rfl
  let next : List Stmt := if s3.client.sync.response then rest
    else .checkDeadline :: .pollResponse :: rest
  have h4 : s3.step .advance = some (s3.setProg next, []) := by
    rw [step_advance_of_prog rfl]
    simp only [advance, next]
    split <;> rfl
  refine ⟨s3.setProg next, ?_, rfl, rfl, rfl, rfl⟩
  simp only [exec_cons, h1, h2, h3, h4, Option.some_bind, exec, Option.map_some', List.append_nil,
    List.nil_append, List.cons_append, List.singleton_append]


/-- `delay_until = get_uptime_32k() + 32; while (get_uptime_32k() < delay_until);` when the
clock advances by exactly 32 ticks: the loop ends at its first test, wrapped or not. -/
theorem exec_settle (settling : s.caller.prog = .startDelay :: .spinDelay :: rest) :
    s.exec [.advance, .tick 32, .advance] =
      some ({ s with clock := s.clock + 32, caller.delayUntil := s.clock + 32 }.setProg rest, []) := by
  let delayed : System := { s.setProg (.spinDelay :: rest) with caller.delayUntil := s.clock + 32 }
  have started : s.step .advance = some (delayed, []) := by
    rw [step_advance_of_prog settling]
    rfl
  have ticked : delayed.step (.tick 32) = some ({ delayed with clock := s.clock + 32 }, []) := rfl
  have ended : ({ delayed with clock := s.clock + 32 } : System).step .advance =
      some (({ delayed with clock := s.clock + 32 } : System).setProg rest, []) := by
    rw [step_advance_of_prog rfl]
    simp [advance, delayed]
  exact exec_append_of (exec_singleton started)
    (exec_append_of (exec_singleton ticked) (exec_singleton ended))

theorem step_submit_untested {request : Request} {result : BleStatus}
    (prog : s.caller.prog = .submitIgnoringResult request :: rest) :
    s.step (.submit result none) =
      some ({ s with tickets := s.tickets + 1 }.setProg rest,
        [.submit (request.addr s.client.serviceHandle) request result (some s.tickets)]) := by
  rw [step_submit_of_prog prog]
  simp [submitStmt, offer, Request.accepts]

end System

variable {s : System} {gapEventCb gattsEventCb : Option Callback} {gapEventParam gattsEventParam : Ptr}

theorem exec_init_registered (idle : s.caller.prog = []) :
    ∃ t, s.exec [.call (.init gapEventCb gapEventParam gattsEventCb gattsEventParam), .advance,
        .submit .success (some (.cfwSvcAvailEvt .bleCore)), .advance,
        .deliver ⟨.cfwSvcAvailEvt .bleCore, some s.tickets⟩, .advance, .advance, .tick 32, .advance,
        .advance] =
      some (t, [.call (.init gapEventCb gapEventParam gattsEventCb gattsEventParam), .arm,
        .submit .clientHandle .cfwRegisterSvcAvailable .success (some s.tickets),
        .dispatch (.cfwSvcAvailEvt .bleCore) (some s.tickets), .free (.cfwSvcAvailEvt .bleCore),
        .arm]) ∧
      t.caller.prog = .submitIgnoringResult .cfwOpenService :: waitForCondition ++
        [.setGapEventCb gapEventCb, .setGapEventParam gapEventParam, .setGattsEventCb gattsEventCb,
          .setGattsEventParam gattsEventParam, .returnStatus] ∧
      t.client.serviceHandle = s.client.serviceHandle ∧ t.client.registry = s.client.registry ∧
      t.client.sync.response = false ∧ t.tickets = s.tickets + 1 ∧ t.clock = s.clock + 32 := by
  let opening : List Stmt := .submitIgnoringResult .cfwOpenService :: waitForCondition ++
    [.setGapEventCb gapEventCb, .setGapEventParam gapEventParam, .setGattsEventCb gattsEventCb,
      .setGattsEventParam gattsEventParam, .returnStatus]
  let settling : List Stmt := .startDelay :: .spinDelay :: .armResponse :: opening
  let registering : System :=
    { s.setProg (.submit .cfwRegisterSvcAvailable :: waitForCondition ++ settling) with
      client.sync.response := false }
  have entered := System.exec_call_armed idle (show
    (Op.init gapEventCb gapEventParam gattsEventCb gattsEventParam).body =
      .armResponse :: .submit .cfwRegisterSvcAvailable :: waitForCondition ++ settling from rfl)
  obtain ⟨available, registered, client, tickets, clock, prog⟩ :=
    @System.exec_delivered registering .cfwRegisterSvcAvailable (.cfwSvcAvailEvt .bleCore)
      settling _ rfl (.inl rfl) rfl
  have settled := System.exec_settle (show available.caller.prog = settling by rw [prog]; rfl)
  let opening₀ : System :=
    ({ available with
      clock := available.clock + 32
      caller.delayUntil := available.clock + 32 } : System).setProg (.armResponse :: opening)
  let armed : System := { opening₀.setProg opening with client.sync.response := false }
  have armStep : opening₀.step .advance = some (armed, [.arm]) := by
    rw [System.step_advance_of_prog rfl]
    rfl
  refine ⟨armed, System.exec_append_of entered (System.exec_append_of registered
    (System.exec_append_of settled (System.exec_singleton armStep))), rfl, ?_, ?_, rfl, tickets,
    by simp [armed, opening₀, clock, registering]⟩
  · show available.client.serviceHandle = _
    rw [client]
    rfl
  · show available.client.registry = _
    rw [client, Client.handleMessage_registry]
    rfl

/-- `ble_client_init` from any idle state whose registration is accepted but whose availability
event never comes, while neither the deadline nor the clock wraps: the call has not returned
after any polls within the budget, and returns TIMEOUT at the first poll past it, having
submitted nothing else, so the service is never opened and the service handle and the
subscriber registry are as they were. -/
theorem init_times_out_without_service {ds : List UInt32} {ticks : UInt32}
    (idle : s.caller.prog = []) (fits : s.clock.toNat + 32768 < 4294967296)
    (within : elapsedTicks ds ≤ 32768) (late : 32768 < elapsedTicks ds + ticks.toNat)
    (noWrap : s.clock.toNat + elapsedTicks ds + ticks.toNat < 4294967296) :
    (∃ t, s.exec ([.call (.init gapEventCb gapEventParam gattsEventCb gattsEventParam), .advance,
        .submit .success none, .advance] ++ pollRounds ds) =
      some (t, [.call (.init gapEventCb gapEventParam gattsEventCb gattsEventParam), .arm,
        .submit .clientHandle .cfwRegisterSvcAvailable .success (some s.tickets)]) ∧
      t.caller.prog.head? = some .pollResponse) ∧
    ∃ t, s.exec ([.call (.init gapEventCb gapEventParam gattsEventCb gattsEventParam), .advance,
        .submit .success none, .advance] ++ pollRounds (ds ++ [ticks])) =
      some (t, [.call (.init gapEventCb gapEventParam gattsEventCb gattsEventParam), .arm,
        .submit .clientHandle .cfwRegisterSvcAvailable .success (some s.tickets),
        .ret .timeout]) ∧
      t.caller.prog = [] ∧ t.client.serviceHandle = s.client.serviceHandle ∧
      t.client.registry = s.client.registry := by
  let registering : System :=
    { s.setProg ((Op.init gapEventCb gapEventParam gattsEventCb gattsEventParam).body.drop 1) with
      client.sync.response := false }
  have entered := System.exec_call_armed idle (show
    (Op.init gapEventCb gapEventParam gattsEventCb gattsEventParam).body =
      .armResponse :: (Op.init gapEventCb gapEventParam gattsEventCb gattsEventParam).body.drop 1
    from rfl)
  let waiting : System :=
    { registering with tickets := s.tickets + 1 }.setProg (registering.caller.prog.drop 1)
  have submitted : registering.exec [.submit .success none] =
      some (waiting, [.submit .clientHandle .cfwRegisterSvcAvailable .success
        (some s.tickets)]) := by
    refine System.exec_singleton ?_
    rw [System.step_submit_of_prog rfl]
    simp only [System.submitStmt, System.submitChecked, System.offer, Request.accepts,
      Option.all_none, if_true, Option.map_none', Option.toList_none, List.append_nil,
      Option.map_some']
    rfl
  obtain ⟨⟨t, run, prog, -⟩, u, run', idle', client⟩ :=
    System.exec_wait_times_out (show waiting.caller.prog = .startWait :: .pollResponse :: _ from rfl)
      rfl fits within late noWrap
  exact ⟨⟨t, System.exec_append_of entered (System.exec_append_of submitted run), by simp [prog]⟩,
    u, System.exec_append_of entered (System.exec_append_of submitted run'), idle',
    by simp [client, waiting, registering], by simp [client, waiting, registering]⟩

theorem init_without_service_times_out_after_budget :
    (∃ t, System.init.exec ([.call (.init none 0 none 0), .advance, .submit .success none,
        .advance] ++ pollRounds [32768]) =
      some (t, [.call (.init none 0 none 0), .arm, .submit .clientHandle .cfwRegisterSvcAvailable .success
        (some 0)]) ∧ t.caller.prog.head? = some .pollResponse) ∧
    ∃ t, System.init.exec ([.call (.init none 0 none 0), .advance, .submit .success none,
        .advance] ++ pollRounds ([32768] ++ [1])) =
      some (t, [.call (.init none 0 none 0), .arm, .submit .clientHandle .cfwRegisterSvcAvailable .success
        (some 0), .ret .timeout]) ∧
      t.caller.prog = [] ∧ t.client.serviceHandle = 0 ∧ t.client.registry = ⟨none, 0, none, 0⟩ :=
  @init_times_out_without_service System.init none none 0 0 [32768] 1 rfl (by decide) (by decide)
    (by decide) (by decide)

/-- `ble_client_init` does not test the result of `cfw_open_service`. From any idle state whose
registration is answered, whatever the substrate answers the opening, a refusal included, the call
does not return ERROR but waits: with nothing completing the slot, and neither the deadline nor
the clock wrapping, it has not returned after any polls within the budget and returns TIMEOUT at
the first poll past it, leaving the service handle and the subscriber registry as they were. -/
theorem init_waits_after_unanswered_open {result : BleStatus} {ds : List UInt32} {ticks : UInt32}
    (idle : s.caller.prog = []) (fits : s.clock.toNat + 32 + 32768 < 4294967296)
    (within : elapsedTicks ds ≤ 32768) (late : 32768 < elapsedTicks ds + ticks.toNat)
    (noWrap : s.clock.toNat + 32 + elapsedTicks ds + ticks.toNat < 4294967296) :
    (∃ t, s.exec ([.call (.init gapEventCb gapEventParam gattsEventCb gattsEventParam), .advance,
        .submit .success (some (.cfwSvcAvailEvt .bleCore)), .advance,
        .deliver ⟨.cfwSvcAvailEvt .bleCore, some s.tickets⟩, .advance, .advance, .tick 32, .advance,
        .advance, .submit result none, .advance] ++ pollRounds ds) =
      some (t, [.call (.init gapEventCb gapEventParam gattsEventCb gattsEventParam), .arm,
        .submit .clientHandle .cfwRegisterSvcAvailable .success (some s.tickets),
        .dispatch (.cfwSvcAvailEvt .bleCore) (some s.tickets), .free (.cfwSvcAvailEvt .bleCore),
        .arm, .submit .clientHandle .cfwOpenService result (some (s.tickets + 1))]) ∧
      t.caller.prog.head? = some .pollResponse) ∧
    ∃ t, s.exec ([.call (.init gapEventCb gapEventParam gattsEventCb gattsEventParam), .advance,
        .submit .success (some (.cfwSvcAvailEvt .bleCore)), .advance,
        .deliver ⟨.cfwSvcAvailEvt .bleCore, some s.tickets⟩, .advance, .advance, .tick 32, .advance,
        .advance, .submit result none, .advance] ++ pollRounds (ds ++ [ticks])) =
      some (t, [.call (.init gapEventCb gapEventParam gattsEventCb gattsEventParam), .arm,
        .submit .clientHandle .cfwRegisterSvcAvailable .success (some s.tickets),
        .dispatch (.cfwSvcAvailEvt .bleCore) (some s.tickets), .free (.cfwSvcAvailEvt .bleCore),
        .arm, .submit .clientHandle .cfwOpenService result (some (s.tickets + 1)),
        .ret .timeout]) ∧
      t.caller.prog = [] ∧ t.client.serviceHandle = s.client.serviceHandle ∧
      t.client.registry = s.client.registry := by
  obtain ⟨armed, registered, prog, service, registry, pending, tickets, clock⟩ :=
    @exec_init_registered s gapEventCb gattsEventCb gapEventParam gattsEventParam idle
  have submitted : armed.exec [.submit result none] =
      some ({ armed with tickets := armed.tickets + 1 }.setProg (armed.caller.prog.drop 1),
        [.submit .clientHandle .cfwOpenService result (some (s.tickets + 1))]) := by
    rw [← tickets, prog]
    exact System.exec_singleton (System.step_submit_untested prog)
  have settled : armed.clock.toNat = s.clock.toNat + 32 := by
    rw [clock, uint32_toNat_add]
    exact Nat.mod_eq_of_lt (by simp only [show (32 : UInt32).toNat = 32 from rfl]; omega)
  obtain ⟨⟨t, run, waiting, -⟩, u, run', done, client⟩ :=
    @System.exec_wait_times_out ({ armed with tickets := armed.tickets + 1 }.setProg
      (armed.caller.prog.drop 1)) _ ds ticks (by rw [System.setProg_prog, prog]; rfl)
      pending (show armed.clock.toNat + 32768 < 4294967296 by omega) within late
      (show armed.clock.toNat + elapsedTicks ds + ticks.toNat < 4294967296 by omega)
  exact ⟨⟨t, System.exec_append_of registered (System.exec_append_of submitted run),
    by simp [waiting]⟩, u, System.exec_append_of registered (System.exec_append_of submitted run'),
    done, by rw [client]; exact service, by rw [client]; exact registry⟩

theorem init_waits_after_refused_open :
    (∃ t, System.init.exec ([.call (.init none 0 none 0), .advance,
        .submit .success (some (.cfwSvcAvailEvt .bleCore)), .advance,
        .deliver ⟨.cfwSvcAvailEvt .bleCore, some 0⟩, .advance, .advance, .tick 32, .advance,
        .advance, .submit .error none, .advance] ++ pollRounds [32768]) =
      some (t, [.call (.init none 0 none 0), .arm, .submit .clientHandle .cfwRegisterSvcAvailable .success (some 0),
        .dispatch (.cfwSvcAvailEvt .bleCore) (some 0), .free (.cfwSvcAvailEvt .bleCore), .arm,
        .submit .clientHandle .cfwOpenService .error (some 1)]) ∧
      t.caller.prog.head? = some .pollResponse) ∧
    ∃ t, System.init.exec ([.call (.init none 0 none 0), .advance,
        .submit .success (some (.cfwSvcAvailEvt .bleCore)), .advance,
        .deliver ⟨.cfwSvcAvailEvt .bleCore, some 0⟩, .advance, .advance, .tick 32, .advance,
        .advance, .submit .error none, .advance] ++ pollRounds ([32768] ++ [1])) =
      some (t, [.call (.init none 0 none 0), .arm, .submit .clientHandle .cfwRegisterSvcAvailable .success (some 0),
        .dispatch (.cfwSvcAvailEvt .bleCore) (some 0), .free (.cfwSvcAvailEvt .bleCore), .arm,
        .submit .clientHandle .cfwOpenService .error (some 1), .ret .timeout]) ∧
      t.caller.prog = [] ∧ t.client.serviceHandle = 0 ∧ t.client.registry = ⟨none, 0, none, 0⟩ :=
  @init_waits_after_unanswered_open System.init none none 0 0 .error [32768] 1 rfl (by decide)
    (by decide) (by decide) (by decide)

end CurieBle
