import CurieBle.Correlation

/-! Writes to caller memory. Each write is made by the handler of a response of one of the four
out-parameter kinds that carries SUCCESS, copies that response's payload, and goes through
`sync.param`, which only the out-parameter operations set and nothing clears: so a late response
writes into the destination of a call that has already returned, or whose destination has another
type. -/

namespace CurieBle

def Obs.isSetParam : Obs → Bool
  | .setParam _ => true
  | _ => false

/-- `dst` is the destination last stored in `sync.param` in `pre`. -/
def LastParam (pre : List Obs) (dst : Ptr) : Prop :=
  ∃ before window, pre = before ++ .setParam (some dst) :: window ∧
    ∀ o ∈ window, o.isSetParam = false

theorem CfwMsgRspSync.observe_param (sync : CfwMsgRspSync) {o : Obs} (kept : o.isSetParam = false) :
    (sync.observe o).param = sync.param := by
  cases o <;> first | rfl | (cases kept <;> done) | (simp only [observe]; split <;> rfl)

theorem foldl_observe_param {log : List Obs} {sync : CfwMsgRspSync} {dst : Ptr}
    (unset : sync.param = none) (set : (log.foldl CfwMsgRspSync.observe sync).param = some dst) :
    LastParam log dst := by
  induction log using List.reverseRecOn with
  | nil => simp_all
  | append_singleton log o ih =>
      rw [List.foldl_append, List.foldl_cons, List.foldl_nil] at set
      by_cases isSet : o.isSetParam = true
      · cases o <;> simp only [Obs.isSetParam, reduceCtorEq] at isSet
        simp only [CfwMsgRspSync.observe] at set
        exact ⟨log, [], by rw [set], by simp⟩
      · replace isSet : o.isSetParam = false := by simpa using isSet
        rw [CfwMsgRspSync.observe_param _ isSet] at set
        obtain ⟨before, window, rfl, rest⟩ := ih set
        exact ⟨before, window ++ [o], by simp, by simpa [or_imp, forall_and] using ⟨rest, isSet⟩⟩

theorem System.step_write {s s' : System} {label : Label} {obs mid rest : List Obs} {dst : Ptr}
    {value : OutValue} (stepped : s.step label = some (s', obs))
    (split : obs = mid ++ .write dst value :: rest) :
    ∃ msg answers, mid = [.dispatch msg answers] ∧ msg.outValue = some value ∧
      msg.carried = .success ∧ s.client.sync.param = some dst := by
  have mem : Obs.write dst value ∈ obs := by simp [split]
  rcases System.step_cases stepped with ⟨msg, answers, rfl, -⟩ | ⟨rfl, -⟩ | ⟨param, rfl, -⟩ |
    ⟨-, -, quiet⟩
  · have effect : Obs.write dst value ∈ (s.client.bleCoreClientHandleMessage msg).2 := by
      simpa using mem
    obtain ⟨param, copied, success⟩ := (s.client.mem_handleMessage_write msg).mp effect
    rw [s.client.handleMessage_of_write msg effect] at split
    exact ⟨msg, answers, mid_of_bracket split (by simp) (by simp), copied, success, param⟩
  · simp at mem
  · simp at mem
  · simpa [Obs.source] using quiet _ mem

variable {s : System} {log : List Obs}

theorem Reachable.write_follows (reach : Reachable s log) :
    ∀ pre o post, log = pre ++ o :: post → ∀ dst value, o = .write dst value →
      ∃ before msg answers, pre = before ++ [.dispatch msg answers] ∧ msg.outValue = some value ∧
        msg.carried = .success ∧ LastParam before dst := by
  refine reach.forall_obs fun reach stepped mid o rest split dst value written => ?_
  subst written
  obtain ⟨msg, answers, rfl, copied, success, param⟩ := System.step_write stepped split
  rw [reach.sync] at param
  exact ⟨_, msg, answers, rfl, copied, success, foldl_observe_param rfl param⟩

theorem write_follows_success_response {labels : List Label} {pre post : List Obs} {dst : Ptr}
    {value : OutValue} (run : System.init.exec labels = some (s, log))
    (split : log = pre ++ .write dst value :: post) :
    ∃ before msg answers, pre = before ++ [.dispatch msg answers] ∧ msg.outValue = some value ∧
      msg.carried = .success ∧ LastParam before dst :=
  (reachable_of_exec run).write_follows pre _ post split dst value rfl

theorem write_follows_rd_bda_rsp :
    ∃ before msg answers, [.call (.gapGetBda (some 100)), .arm, .setParam (some 100),
        .submit (.serviceHandle 0) .bleGapReadBda .success (some 0),
        .dispatch (.bleGapRdBdaRsp .success publicAddr) (some 0)] =
      before ++ [.dispatch msg answers] ∧ msg.outValue = some (.bda publicAddr) ∧
      msg.carried = .success ∧ LastParam before 100 :=
  @write_follows_success_response _ _ [.call (.gapGetBda (some 100)), .advance, .advance,
    .submit .success (some (.bleGapRdBdaRsp .success publicAddr)), .advance,
    .deliver ⟨.bleGapRdBdaRsp .success publicAddr, some 0⟩] _ _ _ _ rfl rfl

/-- `ble_client_gap_get_bda` returns TIMEOUT and leaves address 100 unwritten; the late reply
then writes it while `ble_client_gap_wr_adv_data`, which has no out-parameter, waits. -/
theorem late_reply_writes_after_timeout :
    (System.init.exec staleRun).map (fun (_, log) => log.drop (log.length - 12)) =
      some [.call (.gapGetBda (some 100)), .arm, .setParam (some 100),
        .submit (.serviceHandle 7) .bleGapReadBda .success (some 2), .ret .timeout,
        .call (.gapWrAdvData 200 3), .arm, .submit (.serviceHandle 7) (.bleGapWrAdvData ⟨200, 3⟩) .success (some 3),
        .dispatch (.bleGapRdBdaRsp .success publicAddr) (some 2), .write 100 (.bda publicAddr),
        .free (.bleGapRdBdaRsp .success publicAddr), .ret .success] := by
  decide

end CurieBle
