import CurieBle.Steps

/-! Non-interference of `ble_client_gap_start_advertise` and `ble_client_gap_stop_advertise`.
They submit and return the substrate's answer without touching the slot, and the dispatcher
ignores their responses. So their calls, and the deliveries of their replies, can be inserted
anywhere into a run: the run goes on to the same client, caller and clock, with the same
observations apart from their own. A dispatch is one step here, so a call made from inside a
subscriber callback is placed right after the step that dispatched the event. -/

namespace CurieBle

def Reply.isAdvertising (reply : Reply) : Bool :=
  reply.answers.isNone && reply.msg.isAdvertisingRsp

def Label.isAdvertising : Label → Bool
  | .fireAndForget .. => true
  | .deliver reply => reply.isAdvertising
  | _ => false

def Obs.isAdvertising : Obs → Bool
  | .submit _ _ _ ticket => ticket.isNone
  | .advertiseRet _ => true
  | .dispatch msg _ | .free msg => msg.isAdvertisingRsp
  | _ => false

/-- The fire-and-forget steps of a label sequence can be taken whatever the other steps do: each
call is one the substrate can answer, and each delivery of an advertising reply takes one that an
earlier call left pending. -/
def advertisingFeasible (pending : List Reply) : List Label → Bool
  | [] => true
  | .fireAndForget call result reply :: labels =>
      call.request.accepts result reply &&
        advertisingFeasible (pending ++ (reply.map fun msg => (⟨msg, none⟩ : Reply)).toList) labels
  | .deliver reply :: labels =>
      if reply.isAdvertising then
        decide (reply ∈ pending) && advertisingFeasible (pending.erase reply) labels
      else advertisingFeasible pending labels
  | _ :: labels => advertisingFeasible pending labels

theorem advertisingFeasible_cons {pending : List Reply} {label : Label} {labels : List Label}
    (kept : label.isAdvertising = false) :
    advertisingFeasible pending (label :: labels) = advertisingFeasible pending labels := by
  cases label <;> first | rfl | simp_all [advertisingFeasible, Label.isAdvertising]

theorem FireAndForget.isAdvertisingRsp_of_answeredBy (call : FireAndForget) {msg : CfwMessage}
    (answered : call.request.answeredBy msg = true) : msg.isAdvertisingRsp = true := by
  cases call <;> cases msg <;> first | rfl | cases answered

theorem Client.handleMessage_of_isAdvertisingRsp (c : Client) {msg : CfwMessage}
    (advertising : msg.isAdvertisingRsp = true) :
    c.bleCoreClientHandleMessage msg = (c, [.free msg]) := by
  cases msg <;> first | rfl | cases advertising

namespace System

def withoutAdvertising (s : System) : System :=
  { s with inFlight := s.inFlight.filter fun reply => !reply.isAdvertising }

def advertising (s : System) : List Reply := s.inFlight.filter Reply.isAdvertising

section WithoutAdvertising

variable (s : System)

@[simp] theorem withoutAdvertising_client : s.withoutAdvertising.client = s.client := rfl
@[simp] theorem withoutAdvertising_caller : s.withoutAdvertising.caller = s.caller := rfl
@[simp] theorem withoutAdvertising_clock : s.withoutAdvertising.clock = s.clock := rfl
@[simp] theorem withoutAdvertising_tickets : s.withoutAdvertising.tickets = s.tickets := rfl

end WithoutAdvertising

variable {s s' : System} {obs : List Obs}

theorem advance_withoutAdvertising (stmt : Stmt) (rest : List Stmt) :
    s.withoutAdvertising.advance stmt rest =
      (s.advance stmt rest).map fun (t, obs) => (t.withoutAdvertising, obs) := by
  cases stmt <;> simp only [advance, withoutAdvertising_client, withoutAdvertising_caller,
    withoutAdvertising_clock] <;> (try split) <;> rfl

theorem offer_withoutAdvertising (request : Request) (result : BleStatus)
    (reply : Option CfwMessage) :
    s.withoutAdvertising.offer request result reply =
      (s.offer request result reply).map fun (t, obs) => (t.withoutAdvertising, obs) := by
  unfold offer
  split
  · cases reply <;> simp [withoutAdvertising, Reply.isAdvertising]
  · rfl

theorem submitStmt_withoutAdvertising (result : BleStatus) (reply : Option CfwMessage)
    (stmt : Stmt) (rest : List Stmt) :
    s.withoutAdvertising.submitStmt result reply stmt rest =
      (s.submitStmt result reply stmt rest).map fun (t, obs) => (t.withoutAdvertising, obs) := by
  cases stmt <;> simp only [submitStmt, submitChecked, withoutAdvertising_client,
    offer_withoutAdvertising, Option.map_map] <;> try rfl
  all_goals congr 1; funext ⟨t, obs⟩; (try split) <;> rfl

theorem step_of_isAdvertising {label : Label} (stepped : s.step label = some (s', obs))
    (advertising : label.isAdvertising = true) :
    s'.withoutAdvertising = s.withoutAdvertising ∧ obs.all Obs.isAdvertising := by
  cases label <;> simp only [Label.isAdvertising, reduceCtorEq] at advertising
  case fireAndForget call result reply =>
    simp only [step, fireAndForget] at stepped
    split at stepped <;> simp only [Option.some.injEq, Prod.mk.injEq, reduceCtorEq] at stepped
    obtain ⟨rfl, rfl⟩ := stepped
    rename_i accepted
    cases reply with
    | none => simp [withoutAdvertising, Obs.isAdvertising]
    | some msg =>
        simp [withoutAdvertising, Obs.isAdvertising, Reply.isAdvertising,
          call.isAdvertisingRsp_of_answeredBy (Request.accepts_some.mp accepted).2]
  case deliver reply =>
    simp only [step] at stepped
    split at stepped <;> simp only [Option.some.injEq, reduceCtorEq] at stepped
    obtain ⟨none, msgAdvertising⟩ : reply.answers = none ∧ reply.msg.isAdvertisingRsp = true := by
      simpa [Reply.isAdvertising] using advertising
    simp only [dispatch, s.client.handleMessage_of_isAdvertisingRsp msgAdvertising,
      Prod.mk.injEq] at stepped
    obtain ⟨rfl, rfl⟩ := stepped
    refine ⟨?_, by simp [Obs.isAdvertising, msgAdvertising]⟩
    simp only [withoutAdvertising, ← List.erase_filter]
    rw [List.erase_of_not_mem (by simp [advertising])]

theorem step_withoutAdvertising (s : System) {label : Label} (kept : label.isAdvertising = false) :
    s.withoutAdvertising.step label =
      (s.step label).map fun (t, obs) => (t.withoutAdvertising, obs) := by
  cases label with
  | call op =>
      simp only [step, withoutAdvertising_caller]
      split <;> rfl
  | advance =>
      simp only [step, withoutAdvertising_caller]
      split
      · exact advance_withoutAdvertising _ _
      · rfl
  | submit result reply =>
      simp only [step, withoutAdvertising_caller]
      split
      · exact submitStmt_withoutAdvertising _ _ _ _
      · rfl
  | deliver reply =>
      replace kept : reply.isAdvertising = false := by simpa [Label.isAdvertising] using kept
      by_cases present : reply ∈ s.inFlight <;>
        simp [step, withoutAdvertising, present, kept, dispatch, List.erase_filter]
  | event msg =>
      simp only [step]
      split <;> rfl
  | tick ticks => rfl
  | fireAndForget => simp [Label.isAdvertising] at kept

theorem advertising_of_step {label : Label} (stepped : s.step label = some (s', obs))
    (kept : label.isAdvertising = false) : s'.advertising = s.advertising := by
  cases label with
  | call op =>
      simp only [step] at stepped
      split at stepped <;> simp only [Option.some.injEq, Prod.mk.injEq, reduceCtorEq] at stepped
      obtain ⟨rfl, -⟩ := stepped
      rfl
  | advance =>
      simp only [step] at stepped
      split at stepped
      · simp only [advertising, (advance_frame stepped).2.2.1]
      · cases stepped
  | submit result reply =>
      simp only [step] at stepped
      split at stepped
      · cases reply <;> simp [advertising, submitStmt_inFlight stepped, Reply.isAdvertising]
      · cases stepped
  | deliver reply =>
      replace kept : reply.isAdvertising = false := by simpa [Label.isAdvertising] using kept
      simp only [step] at stepped
      split at stepped <;> simp only [Option.some.injEq, reduceCtorEq] at stepped
      obtain ⟨rfl, -⟩ := stepped
      simp [advertising, dispatch, ← List.erase_filter, kept]
  | event msg =>
      simp only [step] at stepped
      split at stepped <;> simp only [Option.some.injEq, reduceCtorEq] at stepped
      obtain ⟨rfl, -⟩ := stepped
      rfl
  | tick ticks =>
      simp only [step, Option.some.injEq, Prod.mk.injEq] at stepped
      obtain ⟨rfl, -⟩ := stepped
      rfl
  | fireAndForget => simp [Label.isAdvertising] at kept

theorem step_advertising_enabled {label : Label} {labels : List Label}
    (adv : label.isAdvertising = true)
    (feasible : advertisingFeasible s.advertising (label :: labels) = true) :
    ∃ s' obs, s.step label = some (s', obs) ∧ advertisingFeasible s'.advertising labels = true := by
  cases label <;> simp only [Label.isAdvertising, reduceCtorEq] at adv
  case fireAndForget call result reply =>
    simp only [advertisingFeasible, Bool.and_eq_true] at feasible
    refine ⟨_, _, s.step_fireAndForget feasible.1, ?_⟩
    cases reply with
    | none => simpa [advertising] using feasible.2
    | some msg =>
        have answered := (Request.accepts_some.mp feasible.1).2
        simpa [advertising, Reply.isAdvertising, call.isAdvertisingRsp_of_answeredBy answered]
          using feasible.2
  case deliver reply =>
    simp only [advertisingFeasible, adv, Bool.and_eq_true, decide_eq_true_eq, if_true] at feasible
    refine ⟨_, _, s.step_deliver (List.mem_filter.mp feasible.1).1, ?_⟩
    simpa [advertising, dispatch, ← List.erase_filter] using feasible.2

theorem exec_insertAdvertising {labels : List Label} {s u t : System} {log : List Obs}
    (same : u.withoutAdvertising = s.withoutAdvertising)
    (run : s.exec (labels.filter fun label => !label.isAdvertising) = some (t, log))
    (feasible : advertisingFeasible u.advertising labels = true) :
    ∃ t' log', u.exec labels = some (t', log') ∧ t'.withoutAdvertising = t.withoutAdvertising ∧
      log'.filter (fun o => !o.isAdvertising) = log.filter fun o => !o.isAdvertising := by
  induction labels generalizing s u log with
  | nil =>
      simp only [List.filter_nil, exec, Option.some.injEq, Prod.mk.injEq] at run
      obtain ⟨rfl, rfl⟩ := run
      exact ⟨u, [], rfl, same, rfl⟩
  | cons label labels ih =>
      cases advertising : label.isAdvertising
      · simp only [List.filter_cons, advertising, Bool.not_false, if_true, exec] at run
        split at run
        · rename_i s₁ obs₁ stepped
          obtain ⟨⟨t₁, log₁⟩, rest, joined⟩ := Option.map_eq_some'.mp run
          simp only [Prod.mk.injEq] at joined
          obtain ⟨rfl, rfl⟩ := joined
          have mirrored := u.step_withoutAdvertising advertising
          rw [same, s.step_withoutAdvertising advertising, stepped, Option.map_some'] at mirrored
          obtain ⟨⟨u₁, obs⟩, ustepped, image⟩ := Option.map_eq_some'.mp mirrored.symm
          simp only [Prod.mk.injEq] at image
          obtain ⟨same₁, rfl⟩ := image
          have kept : advertisingFeasible u₁.advertising labels = true := by
            rwa [advertising_of_step ustepped advertising, ← advertisingFeasible_cons advertising]
          obtain ⟨t', log', urun, final, filtered⟩ := ih same₁ rest kept
          exact ⟨t', obs ++ log', by simp [exec, ustepped, urun], final, by simp [filtered]⟩
        · cases run
      · simp only [List.filter_cons, advertising, Bool.not_true, if_false] at run
        obtain ⟨u₁, obs, ustepped, kept⟩ := step_advertising_enabled advertising feasible
        obtain ⟨same₁, quiet⟩ := step_of_isAdvertising ustepped advertising
        obtain ⟨t', log', urun, final, filtered⟩ := ih (same₁.trans same) run kept
        have dropped : obs.filter (fun o => !o.isAdvertising) = [] :=
          List.filter_eq_nil_iff.mpr fun o mem => by simpa using List.all_eq_true.mp quiet o mem
        exact ⟨t', obs ++ log', by simp [exec, ustepped, urun], final, by simp [dropped, filtered]⟩

end System

variable {t : System} {log : List Obs}

theorem advertising_does_not_interfere {labels labels' : List Label}
    (run : System.init.exec labels = some (t, log))
    (inserted : labels'.filter (fun label => !label.isAdvertising) = labels)
    (feasible : advertisingFeasible [] labels' = true) :
    (∃ t' log', System.init.exec labels' = some (t', log') ∧
      t'.withoutAdvertising = t.withoutAdvertising ∧
      log'.filter (fun o => !o.isAdvertising) = log.filter (fun o => !o.isAdvertising)) ∧
    ∀ (s : System) call result reply,
      (call.request.accepts result reply = true →
        ∃ s', s.step (.fireAndForget call result reply) = some (s',
          [.submit (.serviceHandle s.client.serviceHandle) call.request result none,
            .advertiseRet result]) ∧ s'.withoutAdvertising = s.withoutAdvertising) ∧
      ∀ s' obs, s.step (.fireAndForget call result reply) = some (s', obs) →
        obs = [.submit (.serviceHandle s.client.serviceHandle) call.request result none,
          .advertiseRet result] := by
  subst inserted
  exact ⟨System.exec_insertAdvertising rfl run feasible, fun s call result reply =>
    ⟨fun accepts => ⟨_, s.step_fireAndForget accepts,
      (System.step_of_isAdvertising (s.step_fireAndForget accepts) rfl).1⟩,
    fun s' obs stepped => (System.fireAndForget_spec stepped).1⟩⟩

def wrAdvDataRun : List Label :=
  [.call (.gapWrAdvData 200 3), .advance, .submit .success (some (.bleGapWrAdvDataRsp .success)),
    .advance, .deliver ⟨.bleGapWrAdvDataRsp .success, some 0⟩, .advance, .advance]

/-- The same run with `ble_client_gap_start_advertise` called while the caller waits, its reply
delivered before the caller's own. -/
def advertisingRun : List Label :=
  [.call (.gapWrAdvData 200 3), .advance, .submit .success (some (.bleGapWrAdvDataRsp .success)),
    .fireAndForget (.startAdvertise 0) .success (some (.bleGapEnableAdvRsp .success)), .advance,
    .deliver ⟨.bleGapEnableAdvRsp .success, none⟩, .deliver ⟨.bleGapWrAdvDataRsp .success, some 0⟩,
    .advance, .advance]

theorem start_advertise_inserted :
    ∃ t log, System.init.exec wrAdvDataRun = some (t, log) ∧
      (∃ t' log', System.init.exec advertisingRun = some (t', log') ∧
        t'.withoutAdvertising = t.withoutAdvertising ∧
        log'.filter (fun o => !o.isAdvertising) = log.filter (fun o => !o.isAdvertising)) ∧
      ∀ (s : System) call result reply,
        (call.request.accepts result reply = true →
          ∃ s', s.step (.fireAndForget call result reply) = some (s',
            [.submit (.serviceHandle s.client.serviceHandle) call.request result none,
              .advertiseRet result]) ∧ s'.withoutAdvertising = s.withoutAdvertising) ∧
        ∀ s' obs, s.step (.fireAndForget call result reply) = some (s', obs) →
          obs = [.submit (.serviceHandle s.client.serviceHandle) call.request result none,
            .advertiseRet result] :=
  ⟨_, _, rfl, @advertising_does_not_interfere _ _ wrAdvDataRun advertisingRun rfl rfl rfl⟩

end CurieBle
