import CurieBle.Correlation
import CurieBle.Registry

/-! Single-slot correlation is sound when the substrate correlates. The slot `sync` holds whatever
the last completing message wrote, and `Correlated` is the assumption on the substrate that makes
that enough: every completing message it delivers carries the ticket of the caller's latest
request, and comes before the caller arms the slot again. Under it, every harvested status is the
one carried by the reply to the latest request the caller submitted before returning. What the
code contributes is that the caller arms the slot between any two of its requests. -/

namespace CurieBle

def Obs.isTicketed : Obs → Bool
  | .submit _ _ _ (some _) => true
  | _ => false

theorem Obs.isTicketed_of_source {o : Obs} (source : o.source ≠ .substrate) : o.isTicketed = false := by
  cases o <;> first | rfl | exact (source rfl).elim

/-- The ticket of the caller's latest request, unless the slot has been armed since. -/
def Obs.openAfter (pending : Option Nat) : Obs → Option Nat
  | .submit _ _ _ (some ticket) => some ticket
  | .arm => none
  | _ => pending

/-- A completing message is delivered as the reply to the request left open before it. -/
def Obs.answersOpen (pending : Option Nat) : Obs → Bool
  | .dispatch msg answers => !msg.completes || (answers.isSome && answers == pending)
  | _ => true

def correlatedFrom (pending : Option Nat) : List Obs → Bool
  | [] => true
  | o :: rest => o.answersOpen pending && correlatedFrom (o.openAfter pending) rest

/-- The substrate correlates: every completing message it delivers carries the ticket of the
caller's latest request, and the slot has not been armed since that request. -/
def Correlated (log : List Obs) : Prop := correlatedFrom none log = true

instance decidableCorrelated (log : List Obs) : Decidable (Correlated log) :=
  inferInstanceAs (Decidable (correlatedFrom none log = true))

theorem correlatedFrom_append (pending : Option Nat) (pre post : List Obs) :
    correlatedFrom pending (pre ++ post) =
      (correlatedFrom pending pre && correlatedFrom (pre.foldl Obs.openAfter pending) post) := by
  induction pre generalizing pending with
  | nil => simp [correlatedFrom]
  | cons o pre ih => simp [correlatedFrom, ih, Bool.and_assoc]

theorem Obs.openAfter_of_quiet (pending : Option Nat) {o : Obs} (quiet : o.isTicketed = false)
    (notArm : o ≠ .arm) : o.openAfter pending = pending := by
  cases o <;> first | rfl | exact absurd rfl notArm |
    (rename_i ticket; cases ticket <;> first | rfl | cases quiet)

theorem Obs.submit_of_isTicketed {o : Obs} (ticketed : o.isTicketed = true) :
    ∃ service request result ticket, o = .submit service request result (some ticket) := by
  cases o <;> first | cases ticketed | (rename_i ticket; cases ticket <;>
    first | exact ⟨_, _, _, _, rfl⟩ | cases ticketed)

theorem foldl_openAfter_eq_some {pre : List Obs} {ticket : Nat}
    (opened : pre.foldl Obs.openAfter none = some ticket) :
    ∃ before service request result window,
      pre = before ++ .submit service request result (some ticket) :: window ∧
      ∀ o ∈ window, o.isTicketed = false ∧ o ≠ .arm := by
  induction pre using List.reverseRecOn with
  | nil => simp at opened
  | append_singleton pre o ih =>
      rw [List.foldl_append, List.foldl_cons, List.foldl_nil] at opened
      by_cases ticketed : o.isTicketed = true
      · obtain ⟨service, request, result, k, rfl⟩ := Obs.submit_of_isTicketed ticketed
        simp only [Obs.openAfter, Option.some.injEq] at opened
        exact ⟨pre, service, request, result, [], by rw [opened], by simp⟩
      by_cases armed : o = .arm
      · simp [armed, Obs.openAfter] at opened
      rw [Obs.openAfter_of_quiet _ (by simpa using ticketed) armed] at opened
      obtain ⟨before, service, request, result, window, rfl, quiet⟩ := ih opened
      refine ⟨before, service, request, result, window ++ [o], by simp, fun x mem => ?_⟩
      rcases List.mem_append.mp mem with mem | mem
      · exact quiet x mem
      · rw [List.mem_singleton.mp mem]
        exact ⟨by simpa using ticketed, armed⟩

theorem Correlated.reply {log pre post : List Obs} {msg : CfwMessage} {answers : Option Nat}
    (correlated : Correlated log) (split : log = pre ++ .dispatch msg answers :: post)
    (completes : msg.completes = true) :
    ∃ before service request result ticket window,
      pre = before ++ .submit service request result (some ticket) :: window ∧
      answers = some ticket ∧ ∀ o ∈ window, o.isTicketed = false ∧ o ≠ .arm := by
  unfold Correlated at correlated
  rw [split, correlatedFrom_append, correlatedFrom] at correlated
  simp only [Obs.answersOpen, completes, Bool.not_true, Bool.false_or, Bool.and_eq_true,
    beq_iff_eq] at correlated
  obtain ⟨-, ⟨present, opened⟩, -⟩ := correlated
  obtain ⟨ticket, rfl⟩ := Option.isSome_iff_exists.mp present
  obtain ⟨before, service, request, result, window, rfl, quiet⟩ :=
    foldl_openAfter_eq_some opened.symm
  exact ⟨before, service, request, result, ticket, window, rfl, rfl, quiet⟩

/-- Every submission of the program comes after an arming of the slot, with no other submission
between them; `armed` says whether the slot counts as armed at the start. -/
def armsOk (armed : Bool) : List Stmt → Bool
  | [] => true
  | stmt :: rest =>
      if stmt = .armResponse then armsOk true rest
      else if stmt.isSubmission then armed && armsOk false rest
      else armsOk armed rest

theorem Op.body_armsOk (op : Op) : armsOk false op.body = true := by
  cases op <;> rfl

/-- The slot has been armed since the caller's latest request. -/
def ArmedSince (log : List Obs) : Prop :=
  ∃ before window, log = before ++ .arm :: window ∧ ∀ o ∈ window, o.isTicketed = false

theorem ArmedSince.append {log obs : List Obs} (armed : ArmedSince log)
    (quiet : ∀ o ∈ obs, o.isTicketed = false) : ArmedSince (log ++ obs) := by
  obtain ⟨before, window, rfl, later⟩ := armed
  refine ⟨before, window ++ obs, by simp, fun o mem => ?_⟩
  rcases List.mem_append.mp mem with mem | mem
  · exact later o mem
  · exact quiet o mem

theorem ArmedSince.arm_mem_after {pre rest : List Obs} {o : Obs}
    (armed : ArmedSince (pre ++ o :: rest)) (ticketed : o.isTicketed = true) : .arm ∈ rest := by
  obtain ⟨before, window, split, quiet⟩ := armed
  rcases List.append_eq_append_iff.mp split with ⟨_ | ⟨x, a⟩, -, tail⟩ | ⟨_ | ⟨x, c⟩, -, tail⟩ <;>
    simp only [List.nil_append, List.cons_append, List.cons.injEq] at tail
  · rw [tail.1] at ticketed
    cases ticketed
  · simp [tail.2]
  · rw [← tail.1] at ticketed
    cases ticketed
  · exact absurd (quiet o (by simp [tail.2])) (by simp [ticketed])

/-- Every request the caller has still to submit comes after an arming of the slot: in its
program, or, for the next one, in the log since its latest request. -/
def ArmsRequests (prog : List Stmt) (log : List Obs) : Prop :=
  armsOk false prog = true ∨ (ArmedSince log ∧ armsOk true prog = true)

namespace System

variable {s s' : System} {obs : List Obs}

theorem submitStmt_ticketed {result : BleStatus} {reply : Option CfwMessage} {stmt : Stmt}
    {rest : List Stmt} (h : s.submitStmt result reply stmt rest = some (s', obs)) :
    stmt.isSubmission = true ∧ ∃ o later, obs = o :: later ∧ o.isTicketed = true ∧
      ∀ x ∈ later, x.isTicketed = false := by
  cases stmt <;> simp only [submitStmt, submitChecked, reduceCtorEq] at h <;>
    obtain ⟨⟨a, b⟩, offered, h⟩ := Option.map_eq_some'.mp h
  all_goals (try split at h) <;> simp only [Prod.mk.injEq] at h <;> obtain ⟨-, rfl⟩ := h <;>
    rw [(offer_spec offered).1] <;> exact ⟨rfl, _, _, rfl, rfl, by simp [Obs.isTicketed]⟩

theorem step_ticketed {label : Label} (h : s.step label = some (s', obs)) :
    (∃ op, s'.caller.prog = op.body ∧ obs = [.call op]) ∨
    (∃ stmt rest, s.caller.prog = stmt :: rest ∧ s.advance stmt rest = some (s', obs)) ∨
    (∃ result reply stmt rest, s.caller.prog = stmt :: rest ∧
      s.submitStmt result reply stmt rest = some (s', obs)) ∨
    (s'.caller = s.caller ∧ ∀ o ∈ obs, o.isTicketed = false) := by
  cases label with
  | call op =>
      simp only [step] at h
      split at h <;> simp only [Option.some.injEq, Prod.mk.injEq, reduceCtorEq] at h
      obtain ⟨rfl, rfl⟩ := h
      exact .inl ⟨op, rfl, rfl⟩
  | advance =>
      simp only [step] at h
      split at h
      · exact .inr (.inl ⟨_, _, by assumption, h⟩)
      · simp at h
  | submit result reply =>
      simp only [step] at h
      split at h
      · exact .inr (.inr (.inl ⟨result, reply, _, _, by assumption, h⟩))
      · simp at h
  | deliver reply =>
      simp only [step] at h
      split at h <;> simp at h
      obtain ⟨rfl, rfl⟩ := h
      refine .inr (.inr (.inr ⟨rfl, fun o mem => ?_⟩))
      rcases List.mem_cons.mp mem with rfl | effect
      · rfl
      · exact Obs.isTicketed_of_source (by simp [Client.handleMessage_source _ _ o effect])
  | event msg =>
      simp only [step] at h
      split at h <;> simp at h
      obtain ⟨rfl, rfl⟩ := h
      refine .inr (.inr (.inr ⟨rfl, fun o mem => ?_⟩))
      rcases List.mem_cons.mp mem with rfl | effect
      · rfl
      · exact Obs.isTicketed_of_source (by simp [Client.handleMessage_source _ _ o effect])
  | tick ticks =>
      simp only [step, Option.some.injEq, Prod.mk.injEq] at h
      obtain ⟨rfl, rfl⟩ := h
      exact .inr (.inr (.inr ⟨rfl, by simp⟩))
  | fireAndForget call result reply =>
      simp only [step, fireAndForget] at h
      split at h <;> simp only [Option.some.injEq, Prod.mk.injEq, reduceCtorEq] at h
      obtain ⟨rfl, rfl⟩ := h
      exact .inr (.inr (.inr ⟨rfl, by simp [Obs.isTicketed]⟩))

end System

variable {s : System} {log : List Obs}

theorem armsOk_submission {armed : Bool} {stmt : Stmt} {rest : List Stmt}
    (submits : stmt.isSubmission = true) (ok : armsOk armed (stmt :: rest) = true) :
    armed = true ∧ armsOk false rest = true := by
  have notArm : stmt ≠ .armResponse := by
    rintro rfl
    cases submits
  simpa [armsOk, notArm, submits] using ok

theorem Reachable.armsRequests (reach : Reachable s log) : ArmsRequests s.caller.prog log := by
  induction reach with
  | init => exact .inl rfl
  | @step s s' log obs label reach stepped ih =>
      rcases System.step_ticketed stepped with ⟨op, body, rfl⟩ | ⟨stmt, rest, prog, advanced⟩ |
        ⟨result, reply, stmt, rest, prog, submitted⟩ | ⟨same, quiet⟩
      · rw [body]
        exact .inl op.body_armsOk
      · obtain ⟨notSubmit, -, -, caller⟩ := System.advance_frame advanced
        have quiet : ∀ o ∈ obs, o.isTicketed = false := fun o mem =>
          Obs.isTicketed_of_source (by rcases caller o mem with h | h <;> simp [h])
        rw [prog] at ih
        by_cases isArm : stmt = .armResponse
        · subst isArm
          simp only [System.advance, Option.some.injEq, Prod.mk.injEq] at advanced
          obtain ⟨rfl, rfl⟩ := advanced
          refine .inr ⟨⟨log, [], by simp, by simp⟩, ?_⟩
          rcases ih with ok | ⟨-, ok⟩ <;> simpa [armsOk] using ok
        · have next : ∀ b, armsOk b (stmt :: rest) = true → armsOk b s'.caller.prog = true := by
            intro b ok
            rcases (System.advance_caller advanced).1 with h | h | ⟨rfl, h⟩ | ⟨rfl, h⟩ | ⟨rfl, h⟩ <;>
              rw [h] <;> simp_all [armsOk, Stmt.isSubmission]
          rcases ih with ok | ⟨armed, ok⟩
          · exact .inl (next false ok)
          · exact .inr ⟨armed.append quiet, next true ok⟩
      · have ok : armsOk false rest = true := by
          rcases ih with ok | ⟨-, ok⟩ <;> rw [prog] at ok <;>
            exact (armsOk_submission (System.submitStmt_ticketed submitted).1 ok).2
        rcases (System.submitStmt_caller submitted).1 with next | next <;> rw [next]
        · exact .inl ok
        · exact .inl rfl
      · rw [same]
        exact ih.imp_right fun ⟨armed, ok⟩ => ⟨armed.append quiet, ok⟩

theorem Reachable.armed_before_request (reach : Reachable s log) :
    ∀ pre o post, log = pre ++ o :: post → o.isTicketed = true → ArmedSince pre := by
  refine reach.forall_obs fun reach stepped mid o rest split ticketed => ?_
  have mem : o ∈ _ := split ▸ List.mem_append_right mid (List.mem_cons_self o rest)
  rcases System.step_ticketed stepped with ⟨op, -, rfl⟩ | ⟨stmt, rest', -, advanced⟩ |
    ⟨result, reply, stmt, rest', prog, submitted⟩ | ⟨-, quiet⟩
  · rw [List.mem_singleton.mp mem] at ticketed
    cases ticketed
  · have caller := (System.advance_frame advanced).2.2.2 o mem
    exact absurd (Obs.isTicketed_of_source (o := o) (by rcases caller with h | h <;> simp [h]))
      (by simp [ticketed])
  · obtain ⟨submits, first, later, rfl, -, quiet⟩ := System.submitStmt_ticketed submitted
    obtain rfl : mid = [] := by
      rcases mid with _ | ⟨x, mid⟩
      · rfl
      · simp only [List.cons_append, List.cons.injEq] at split
        exact absurd (quiet o (by simp [split.2])) (by simp [ticketed])
    rcases reach.armsRequests with ok | ⟨armed, -⟩
    · rw [prog] at ok
      cases (armsOk_submission submits ok).1
    · simpa using armed
  · exact absurd (quiet o mem) (by simp [ticketed])

/-- On a run where every completing message answers the request in flight, as `Correlated` says,
a harvested status answers the caller's latest request: the message that carried it answers that
request's ticket, and no request of the caller lies between them. -/
theorem harvested_status_answers_latest_request {labels : List Label} {pre post : List Obs}
    {status : BleStatus} (run : System.init.exec labels = some (s, log))
    (correlated : Correlated log) (split : log = pre ++ .ret status :: post)
    (harvested : status ≠ .timeout ∧ status ≠ .error ∧ status ≠ .wrongState) :
    ∃ before service request result ticket window msg,
      pre = before ++ .submit service request result (some ticket) :: window ∧
      (∀ o ∈ window, o.isTicketed = false) ∧
      .dispatch msg (some ticket) ∈ window ∧ msg.completes = true ∧ msg.carried = status := by
  have reach := reachable_of_exec run
  obtain ⟨lead, msg, answers, later, rfl, completes, carried, still⟩ :=
    reach.ret_lastCompletion pre _ post split status rfl harvested.1 harvested.2.1 harvested.2.2
  obtain ⟨before, service, request, result, ticket, window, rfl, rfl, quiet⟩ :=
    correlated.reply
      (show log = lead ++ .dispatch msg answers :: (later ++ .ret status :: post) by simp [split])
      completes
  refine ⟨before, service, request, result, ticket, window ++ .dispatch msg (some ticket) :: later,
    msg, by simp, fun o mem => ?_, by simp, completes, carried⟩
  rcases List.mem_append.mp mem with mem | mem
  · exact (quiet o mem).1
  rcases List.mem_cons.mp mem with rfl | mem
  · rfl
  -- a request after the reply would need an arming after the request the reply answers
  by_contra ticketed
  obtain ⟨first, rest, rfl⟩ := List.append_of_mem mem
  have armed := reach.armed_before_request
    (before ++ .submit service request result (some ticket) :: (window ++
      .dispatch msg (some ticket) :: first)) o (rest ++ .ret status :: post) (by simp [split])
    (by simpa using ticketed)
  have armAfter := armed.arm_mem_after rfl
  simp only [List.mem_append, List.mem_cons, reduceCtorEq, false_or] at armAfter
  rcases armAfter with armAfter | armAfter
  · exact (quiet _ armAfter).2 rfl
  · exact absurd (still .arm (List.mem_append_left _ armAfter)) (by decide)

theorem wr_adv_data_status_answers_own_request :
    ∃ before service request result ticket window msg,
      ([.call (.gapWrAdvData 200 3), .arm, .submit (.serviceHandle 0) (.bleGapWrAdvData ⟨200, 3⟩) .success (some 0),
        .dispatch (.bleGapWrAdvDataRsp .success) (some 0), .free (.bleGapWrAdvDataRsp .success)] :
          List Obs) =
          before ++ .submit service request result (some ticket) :: window ∧
      (∀ o ∈ window, o.isTicketed = false) ∧
      .dispatch msg (some ticket) ∈ window ∧ msg.completes = true ∧ msg.carried = .success :=
  @harvested_status_answers_latest_request _ _ [.call (.gapWrAdvData 200 3), .advance,
    .submit .success (some (.bleGapWrAdvDataRsp .success)), .advance,
    .deliver ⟨.bleGapWrAdvDataRsp .success, some 0⟩, .advance, .advance] _ [] _ rfl (by decide) rfl
    ⟨by decide, by decide, by decide⟩

end CurieBle
