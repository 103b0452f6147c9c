import CurieBle.Steps

/-! Request/response correlation through the single slot `sync`. A blocking call reads its
result from the slot, and the slot holds whatever the last completing message wrote, whoever it
answers: a reply that arrives after its own call timed out, or a core service-available event,
completes the wait of the next call in its place. What holds on every run is weaker: a harvested
status is the one carried by the last completing message dispatched since the slot was last
armed, and at least one such message exists. -/

namespace CurieBle

def Obs.movesResponse : Obs → Bool
  | .arm => true
  | .dispatch msg _ => msg.completes
  | _ => false

/-- `status` is carried by the last completing message dispatched in `pre` after the slot was last
armed there. -/
def LastCompletion (pre : List Obs) (status : BleStatus) : Prop :=
  ∃ before msg answers window, pre = before ++ .dispatch msg answers :: window ∧
    msg.completes = true ∧ msg.carried = status ∧ ∀ o ∈ window, o.movesResponse = false

def Stmt.isAfterWait : Stmt → Bool
  | .startDelay | .spinDelay | .returnIfStatus | .returnStatus | .setGapEventCb _
  | .setGapEventParam _ | .setGattsEventCb _ | .setGattsEventParam _ => true
  | _ => false

def Stmt.follows (a b : Stmt) : Bool :=
  !b.isAfterWait || a == .pollResponse || a.isAfterWait

def chained : List Stmt → Bool
  | a :: b :: rest => a.follows b && chained (b :: rest)
  | _ => true

@[simp] theorem chained_cons_cons (a b : Stmt) (rest : List Stmt) :
    chained (a :: b :: rest) = (a.follows b && chained (b :: rest)) := rfl

theorem chained_tail {a : Stmt} {rest : List Stmt} (chain : chained (a :: rest) = true) :
    chained rest = true := by
  cases rest with
  | nil => rfl
  | cons b rest => simp_all

theorem Op.body_chained (op : Op) :
    chained op.body = true ∧ op.body.head?.any Stmt.isAfterWait = false := by
  cases op <;> exact ⟨rfl, rfl⟩

/-- The statement at the head of the caller's program runs only once the slot is completed. -/
structure Harvested (prog : List Stmt) (response : Bool) : Prop where
  chain : chained prog = true
  completed : prog.head?.any Stmt.isAfterWait = true → response = true

theorem Harvested.step {s s' : System} {label : Label} {obs : List Obs}
    (inv : Harvested s.caller.prog s.client.sync.response)
    (stepped : s.step label = some (s', obs)) :
    Harvested s'.caller.prog s'.client.sync.response := by
  rcases System.step_caller stepped with ⟨same, kept⟩ | ⟨op, -, -, body, -⟩ |
    ⟨stmt, rest, prog, moves, -, polled, unarmed⟩
  · rw [same]
    exact ⟨inv.chain, fun head => kept (inv.completed head)⟩
  · rw [body]
    exact ⟨op.body_chained.1, by simp [op.body_chained.2]⟩
  · obtain ⟨chain, completed⟩ := inv
    rw [prog] at chain completed
    have afterWait : stmt ≠ .armResponse → stmt.isAfterWait = true →
        s'.client.sync.response = true := fun notArm after =>
      (unarmed notArm).trans (completed (by simp [after]))
    rcases moves with next | next | ⟨rfl, next⟩ | ⟨rfl, next⟩ | ⟨rfl, next⟩ <;> rw [next]
    · refine ⟨chained_tail chain, fun head => ?_⟩
      obtain _ | ⟨b, rest⟩ := rest
      · simp at head
      · simp only [List.head?_cons, Option.any_some] at head
        simp only [chained_cons_cons, Stmt.follows, head, Bool.not_true, Bool.false_or,
          Bool.and_eq_true, Bool.or_eq_true, beq_iff_eq] at chain
        rcases chain.1 with rfl | after
        · exact (unarmed (by simp)).trans (polled rfl next)
        · exact afterWait (by rintro rfl; simp [Stmt.isAfterWait] at after) after
    · exact ⟨rfl, by simp⟩
    · exact ⟨by simpa [Stmt.follows, Stmt.isAfterWait] using chain, by simp [Stmt.isAfterWait]⟩
    · exact ⟨rfl, fun _ => afterWait (by simp) rfl⟩
    · exact ⟨chain, fun _ => afterWait (by simp) rfl⟩

theorem Reachable.harvested {s : System} {log : List Obs} (reach : Reachable s log) :
    Harvested s.caller.prog s.client.sync.response := by
  induction reach with
  | init => exact ⟨rfl, by simp [System.init]⟩
  | step _ stepped ih => exact ih.step stepped

theorem CfwMsgRspSync.observe_of_not_movesResponse (sync : CfwMsgRspSync) {o : Obs}
    (quiet : o.movesResponse = false) :
    (sync.observe o).response = sync.response ∧ (sync.observe o).status = sync.status := by
  cases o <;> first | exact ⟨rfl, rfl⟩ | cases quiet | simp_all [Obs.movesResponse, observe]

theorem foldl_observe_completed {log : List Obs} {sync : CfwMsgRspSync}
    (fresh : sync.response = false)
    (completed : (log.foldl CfwMsgRspSync.observe sync).response = true) :
    LastCompletion log (log.foldl CfwMsgRspSync.observe sync).status := by
  induction log using List.reverseRecOn with
  | nil => simp_all
  | append_singleton log o ih =>
      rw [List.foldl_append, List.foldl_cons, List.foldl_nil] at completed ⊢
      by_cases moves : o.movesResponse = true
      · cases o <;> simp only [Obs.movesResponse, reduceCtorEq] at moves
        · simp [CfwMsgRspSync.observe] at completed
        · exact ⟨log, _, _, [], rfl, moves, by simp [CfwMsgRspSync.observe, moves], by simp⟩
      · replace moves : o.movesResponse = false := by simpa using moves
        have same := (log.foldl CfwMsgRspSync.observe sync).observe_of_not_movesResponse moves
        rw [same.1] at completed
        rw [same.2]
        obtain ⟨before, msg, answers, window, rfl, completes, carried, rest⟩ := ih completed
        exact ⟨before, msg, answers, window ++ [o], by simp, completes, carried,
          by simpa [or_imp, forall_and] using ⟨rest, moves⟩⟩

theorem Client.ret_not_mem_handleMessage (c : Client) (msg : CfwMessage) (status : BleStatus) :
    Obs.ret status ∉ (c.bleCoreClientHandleMessage msg).2 := fun mem => by
  simpa [Obs.source] using c.handleMessage_source msg _ mem

namespace System

variable {s s' : System} {obs : List Obs} {status : BleStatus}

theorem advance_ret {stmt : Stmt} {rest : List Stmt} (h : s.advance stmt rest = some (s', obs))
    (mem : .ret status ∈ obs) :
    status = .wrongState ∨ status = .timeout ∨
      (obs = [.ret status] ∧ stmt = .returnStatus ∧ status = s.client.sync.status) := by
  cases stmt <;> simp [advance] at h <;> (try split at h) <;>
    (try simp only [Option.some.injEq, Prod.mk.injEq] at h) <;> obtain ⟨rfl, rfl⟩ := h <;>
    simp_all

theorem submitStmt_ret {result : BleStatus} {reply : Option CfwMessage} {stmt : Stmt}
    {rest : List Stmt} (h : s.submitStmt result reply stmt rest = some (s', obs))
    (mem : .ret status ∈ obs) : status = .error := by
  cases stmt <;> simp only [submitStmt, submitChecked, offer, reduceCtorEq] at h <;>
    obtain ⟨⟨a, b⟩, offered, h⟩ := Option.map_eq_some'.mp h <;>
    split at offered <;> simp only [Option.some.injEq, Prod.mk.injEq, reduceCtorEq] at offered <;>
    obtain ⟨-, rfl⟩ := offered
  all_goals (try split at h) <;> simp only [Prod.mk.injEq] at h <;> obtain ⟨-, rfl⟩ := h <;>
    simp_all

theorem step_ret {label : Label} {mid rest : List Obs} (stepped : s.step label = some (s', obs))
    (split : obs = mid ++ .ret status :: rest) :
    status = .wrongState ∨ status = .error ∨ status = .timeout ∨
      (mid = [] ∧ s.caller.prog.head? = some .returnStatus ∧ status = s.client.sync.status) := by
  have mem : Obs.ret status ∈ obs := by simp [split]
  cases label with
  | advance =>
      simp only [step] at stepped
      split at stepped
      · rename_i prog
        rcases advance_ret stepped mem with wrong | late | ⟨rfl, rfl, harvested⟩
        · exact .inl wrong
        · exact .inr (.inr (.inl late))
        · exact .inr (.inr (.inr ⟨(show mid = [] ∧ rest = [] by simpa [List.cons_eq_append_iff] using split).1,
            by simp [prog],
            harvested⟩))
      · simp at stepped
  | submit result reply =>
      simp only [step] at stepped
      split at stepped
      · exact .inr (.inl (submitStmt_ret stepped mem))
      · simp at stepped
  | call op =>
      simp only [step] at stepped
      split at stepped <;> simp only [Option.some.injEq, Prod.mk.injEq, reduceCtorEq] at stepped
      obtain ⟨-, rfl⟩ := stepped
      simp at mem
  | deliver reply =>
      simp only [step] at stepped
      split at stepped <;> simp only [Option.some.injEq, reduceCtorEq] at stepped
      simp only [dispatch, Prod.mk.injEq] at stepped
      obtain ⟨-, rfl⟩ := stepped
      simp [Client.ret_not_mem_handleMessage] at mem
  | event msg =>
      simp only [step] at stepped
      split at stepped <;> simp only [Option.some.injEq, reduceCtorEq] at stepped
      simp only [dispatch, Prod.mk.injEq] at stepped
      obtain ⟨-, rfl⟩ := stepped
      simp [Client.ret_not_mem_handleMessage] at mem
  | tick ticks =>
      simp only [step, Option.some.injEq, Prod.mk.injEq] at stepped
      simp [← stepped.2] at mem
  | fireAndForget call result reply =>
      simp only [step, fireAndForget] at stepped
      split at stepped <;> simp only [Option.some.injEq, Prod.mk.injEq, reduceCtorEq] at stepped
      simp [← stepped.2] at mem

end System

variable {s : System} {log : List Obs}

theorem Reachable.ret_lastCompletion (reach : Reachable s log) :
    ∀ pre o post, log = pre ++ o :: post → ∀ status, o = .ret status →
      status ≠ .timeout → status ≠ .error → status ≠ .wrongState → LastCompletion pre status := by
  refine reach.forall_obs fun reach stepped mid o rest split status ret late refused wrong => ?_
  subst ret
  rcases System.step_ret stepped split with wrong' | refused' | late' | ⟨rfl, head, rfl⟩
  · exact absurd wrong' wrong
  · exact absurd refused' refused
  · exact absurd late' late
  · have completed := reach.harvested.completed (by simp [head, Stmt.isAfterWait])
    rw [reach.sync] at completed ⊢
    simpa using foldl_observe_completed rfl completed

theorem returned_status_is_last_completion {labels : List Label} {pre post : List Obs}
    {status : BleStatus} (run : System.init.exec labels = some (s, log))
    (split : log = pre ++ .ret status :: post)
    (harvested : status ≠ .timeout ∧ status ≠ .error ∧ status ≠ .wrongState) :
    LastCompletion pre status :=
  (reachable_of_exec run).ret_lastCompletion pre _ post split status rfl harvested.1 harvested.2.1
    harvested.2.2

theorem returned_status_of_wr_adv_data :
    LastCompletion [.call (.gapWrAdvData 200 3), .arm,
      .submit (.serviceHandle 0) (.bleGapWrAdvData ⟨200, 3⟩) .success (some 0),
      .dispatch (.bleGapWrAdvDataRsp .success) (some 0), .free (.bleGapWrAdvDataRsp .success)]
      .success :=
  @returned_status_is_last_completion _ _ [.call (.gapWrAdvData 200 3), .advance,
    .submit .success (some (.bleGapWrAdvDataRsp .success)), .advance,
    .deliver ⟨.bleGapWrAdvDataRsp .success, some 0⟩, .advance, .advance] _ [] _ rfl rfl
    ⟨by decide, by decide, by decide⟩

def publicAddr : BleAddr := ⟨0, [1, 2, 3, 4, 5, 6]⟩

/-- `ble_client_init`, each wait answered at once; the core service opens as client 7. -/
def initRun : List Label :=
  [.call (.init none 0 none 0), .advance, .submit .success (some (.cfwSvcAvailEvt .bleCore)),
    .advance, .deliver ⟨.cfwSvcAvailEvt .bleCore, some 0⟩, .advance, .advance, .tick 32, .advance,
    .advance, .submit .success (some (.cfwOpenService 7)), .advance,
    .deliver ⟨.cfwOpenService 7, some 1⟩, .advance, .advance, .advance, .advance, .advance, .advance]

/-- After `initRun`, `ble_client_gap_get_bda` into address 100 times out; its reply arrives while
`ble_client_gap_wr_adv_data` waits for its own. -/
def staleRun : List Label :=
  initRun ++
  [.call (.gapGetBda (some 100)), .advance, .advance,
    .submit .success (some (.bleGapRdBdaRsp .success publicAddr)), .advance, .tick 40000, .advance,
    .advance,
    .call (.gapWrAdvData 200 3), .advance, .submit .success (some (.bleGapWrAdvDataRsp (.other 5))),
    .advance, .deliver ⟨.bleGapRdBdaRsp .success publicAddr, some 2⟩, .advance, .advance]

/-- `ble_client_gap_wr_adv_data` returns SUCCESS, the status of the late reply to the read of the
address (ticket 2), while the reply to its own request (ticket 3) carries another status and is
still in flight. -/
theorem stale_reply_completes_next_call :
    (System.init.exec staleRun).map (fun (s, log) => (log.drop (log.length - 7), s.inFlight)) =
      some ([.call (.gapWrAdvData 200 3), .arm,
        .submit (.serviceHandle 7) (.bleGapWrAdvData ⟨200, 3⟩) .success (some 3),
        .dispatch (.bleGapRdBdaRsp .success publicAddr) (some 2), .write 100 (.bda publicAddr),
        .free (.bleGapRdBdaRsp .success publicAddr), .ret .success],
        [⟨.bleGapWrAdvDataRsp (.other 5), some 3⟩]) := by
  decide

end CurieBle
