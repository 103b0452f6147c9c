import CurieBle.Deadline
import CurieBle.Matching

/-! The caller cannot block for ever on its own. From every reachable state, its own steps, each
request accepted and no reply kept, and ticks of the clock, with no message delivered, bring it
back to idle, unless it polls a pending slot against the deadline 0xFFFFFFFF, which no 32-bit
clock value passes; from there nothing but a completing message gets it out. The proof drives
the caller statement by statement, and leaves each loop of `wait_for_condition` and of the
settling delay of `ble_client_init` by ticking the clock to 0xFFFFFFFF. -/

namespace CurieBle

/-- The caller's own steps, each request accepted with no reply kept, and ticks of the clock. -/
def Label.isOwn : Label → Bool
  | .advance | .tick _ | .submit .success none => true
  | _ => false

/-- Every poll and deadline test of the program comes right after the start of its wait. -/
def freshWaits : List Stmt → Bool
  | [] => true
  | .startWait :: .pollResponse :: rest => freshWaits rest
  | .pollResponse :: _ | .checkDeadline :: _ => false
  | _ :: rest => freshWaits rest

theorem Op.body_freshWaits (op : Op) : freshWaits op.body = true := by
  cases op <;> rfl

/-- The programs a caller runs: fresh, or inside a wait whose start it has run. -/
def Shaped (prog : List Stmt) : Prop :=
  freshWaits prog = true ∨ ∃ rest, freshWaits rest = true ∧
    (prog = .pollResponse :: rest ∨ prog = .checkDeadline :: .pollResponse :: rest)

theorem freshWaits_head {stmt : Stmt} {rest : List Stmt}
    (fresh : freshWaits (stmt :: rest) = true) : stmt ≠ .pollResponse ∧ stmt ≠ .checkDeadline := by
  constructor <;> rintro rfl <;> simp [freshWaits] at fresh

theorem freshWaits_tail {stmt : Stmt} {rest : List Stmt}
    (fresh : freshWaits (stmt :: rest) = true) (notStart : stmt ≠ .startWait) :
    freshWaits rest = true := by
  cases stmt <;> simp_all [freshWaits]

namespace Shaped

variable {stmt : Stmt} {rest : List Stmt}

theorem tail (shaped : Shaped (stmt :: rest)) : Shaped rest := by
  rcases shaped with fresh | ⟨r, fresh, same | same⟩
  · by_cases start : stmt = .startWait
    · subst start
      rcases rest with _ | ⟨_ | _, r⟩ <;> simp_all [Shaped, freshWaits]
    · exact .inl (freshWaits_tail fresh start)
  · simp only [List.cons.injEq] at same
    exact .inl (same.2 ▸ fresh)
  · simp only [List.cons.injEq] at same
    exact .inr ⟨r, fresh, .inl same.2⟩

theorem fresh_tail (shaped : Shaped (stmt :: rest)) (notStart : stmt ≠ .startWait)
    (notPoll : stmt ≠ .pollResponse) (notCheck : stmt ≠ .checkDeadline) :
    freshWaits rest = true := by
  rcases shaped with fresh | ⟨r, -, same | same⟩
  · exact freshWaits_tail fresh notStart
  · exact absurd (List.cons.inj same).1 notPoll
  · exact absurd (List.cons.inj same).1 notCheck

theorem fresh_of_poll (shaped : Shaped (.pollResponse :: rest)) : freshWaits rest = true := by
  rcases shaped with fresh | ⟨r, fresh, same | same⟩
  · simp [freshWaits] at fresh
  · exact (List.cons.inj same).2 ▸ fresh
  · cases (List.cons.inj same).1

theorem of_check (shaped : Shaped (.checkDeadline :: rest)) :
    ∃ r, freshWaits r = true ∧ rest = .pollResponse :: r := by
  rcases shaped with fresh | ⟨r, fresh, same | same⟩
  · simp [freshWaits] at fresh
  · cases (List.cons.inj same).1
  · exact ⟨r, fresh, (List.cons.inj same).2⟩

end Shaped

/-- The caller polls a pending slot against the deadline 0xFFFFFFFF. -/
def System.StuckAtTop (s : System) : Prop :=
  (s.caller.prog.head? = some .pollResponse ∨ s.caller.prog.head? = some .checkDeadline) ∧
    s.client.sync.response = false ∧ s.caller.timeout = 0xFFFFFFFF

instance System.decidableStuckAtTop (s : System) : Decidable s.StuckAtTop :=
  inferInstanceAs (Decidable (_ ∧ _))

/-- The caller can finish its call by itself: a run of its own steps and clock ticks takes it back
to idle. -/
def System.Finishes (s : System) : Prop :=
  ∃ labels t obs, (∀ l ∈ labels, l.isOwn = true) ∧ s.exec labels = some (t, obs) ∧
    t.caller.prog = []

theorem uint32_add_sub_cancel (c m : UInt32) : c + (m - c) = m :=
  congrArg UInt32.mk (show c.toBitVec + (m.toBitVec - c.toBitVec) = m.toBitVec by
    rw [BitVec.add_comm, BitVec.sub_add_cancel])

theorem uint32_not_top_lt (c : UInt32) : ¬ 0xFFFFFFFF < c := by
  rw [uint32_lt_iff, not_lt]
  exact Nat.le_of_lt_succ c.toNat_lt_size

theorem uint32_lt_top {t : UInt32} (below : t ≠ 0xFFFFFFFF) : t < 0xFFFFFFFF := by
  rw [uint32_lt_iff]
  have ne : t.toNat ≠ 4294967295 := fun e => below (UInt32.toNat.inj (by rw [e]; rfl))
  have bound := t.toNat_lt_size
  simp only [UInt32.size] at bound
  show t.toNat < 4294967295
  omega

def Stmt.isStraight : Stmt → Bool
  | .checkConnected | .armResponse | .setParam _ | .startDelay | .returnStatus
  | .setGapEventCb _ | .setGapEventParam _ | .setGattsEventCb _ | .setGattsEventParam _ => true
  | _ => false

namespace System

variable {s : System} {stmt : Stmt} {rest : List Stmt}

theorem step_straight (prog : s.caller.prog = stmt :: rest) (straight : stmt.isStraight = true) :
    ∃ t obs, s.step .advance = some (t, obs) ∧ (t.caller.prog = rest ∨ t.caller.prog = []) := by
  rw [step_advance_of_prog prog]
  cases stmt <;> simp only [Stmt.isStraight, reduceCtorEq] at straight <;> simp only [advance] <;>
    (try split) <;> exact ⟨_, _, rfl, by simp⟩

theorem step_accepted (prog : s.caller.prog = stmt :: rest) (submits : stmt.isSubmission = true) :
    ∃ t obs, s.step (.submit .success none) = some (t, obs) ∧ t.caller.prog = rest := by
  rw [step_submit_of_prog prog]
  cases stmt <;> simp only [Stmt.isSubmission, reduceCtorEq] at submits <;>
    exact ⟨_, _, by simp [submitStmt, submitChecked, offer, Request.accepts]; exact ⟨rfl, rfl⟩, rfl⟩

def tickToTop (s : System) : Label := .tick (0xFFFFFFFF - s.clock)

theorem step_tickToTop (s : System) :
    s.step s.tickToTop = some ({ s with clock := 0xFFFFFFFF }, []) := by
  simp [step, tickToTop, uint32_add_sub_cancel]

theorem Finishes.of_idle (idle : s.caller.prog = []) : s.Finishes :=
  ⟨[], s, [], by simp, rfl, idle⟩

theorem Finishes.of_exec {labels : List Label} {t : System} {obs : List Obs}
    (run : s.exec labels = some (t, obs)) (own : ∀ l ∈ labels, l.isOwn = true)
    (finishes : t.Finishes) : s.Finishes := by
  obtain ⟨labels', u, obs', own', run', idle⟩ := finishes
  refine ⟨labels ++ labels', u, obs ++ obs', fun l mem => ?_, exec_append_of run run', idle⟩
  rcases List.mem_append.mp mem with mem | mem
  · exact own l mem
  · exact own' l mem

theorem not_stuckAtTop_of_fresh (fresh : freshWaits s.caller.prog = true) : ¬ s.StuckAtTop := by
  rintro ⟨head, -⟩
  rcases hprog : s.caller.prog with _ | ⟨stmt, rest⟩ <;> rw [hprog] at head fresh
  · simp at head
  · obtain ⟨notPoll, notCheck⟩ := freshWaits_head fresh
    simp only [List.head?_cons, Option.some.injEq] at head
    exact head.elim notPoll notCheck

theorem step_shaped {label : Label} {s' : System} {obs : List Obs} (shaped : Shaped s.caller.prog)
    (stepped : s.step label = some (s', obs)) : Shaped s'.caller.prog := by
  rcases step_caller stepped with ⟨same, -⟩ | ⟨op, -, -, body, -⟩ | ⟨stmt, rest, prog, moves, -⟩
  · rwa [same]
  · rw [body]
    exact .inl op.body_freshWaits
  · rw [prog] at shaped
    rcases moves with next | next | ⟨rfl, next⟩ | ⟨-, next⟩ | ⟨-, next⟩ <;> rw [next]
    · exact shaped.tail
    · exact .inl rfl
    · exact .inr ⟨rest, shaped.fresh_of_poll, .inr rfl⟩
    · exact .inl rfl
    · exact shaped

theorem step_stuckAtTop {label : Label} {s' : System} {obs : List Obs} (stuck : s.StuckAtTop)
    (shaped : Shaped s.caller.prog) (own : label.isOwn = true)
    (stepped : s.step label = some (s', obs)) : s'.StuckAtTop := by
  obtain ⟨head, pending, top⟩ := stuck
  obtain ⟨r, -, prog | prog⟩ : ∃ r, freshWaits r = true ∧ (s.caller.prog = .pollResponse :: r ∨
      s.caller.prog = .checkDeadline :: .pollResponse :: r) :=
    shaped.resolve_left fun fresh => not_stuckAtTop_of_fresh fresh ⟨head, pending, top⟩
  all_goals
    cases label with
    | advance =>
        simp only [step, prog, advance, pending, top, uint32_not_top_lt, Bool.false_eq_true,
          if_false, gt_iff_lt, Option.some.injEq, Prod.mk.injEq] at stepped
        obtain ⟨rfl, rfl⟩ := stepped
        exact ⟨by simp, pending, top⟩
    | tick d =>
        simp only [step, Option.some.injEq, Prod.mk.injEq] at stepped
        obtain ⟨rfl, rfl⟩ := stepped
        exact ⟨head, pending, top⟩
    | submit result reply => simp [step, prog, submitStmt] at stepped
    | _ => cases own

theorem StuckAtTop.not_finishes (stuck : s.StuckAtTop) (shaped : Shaped s.caller.prog) :
    ¬ s.Finishes := by
  rintro ⟨labels, t, obs, own, run, idle⟩
  induction labels generalizing s obs with
  | nil =>
      simp only [exec, Option.some.injEq, Prod.mk.injEq] at run
      obtain ⟨rfl, -⟩ := run
      simp [idle, StuckAtTop] at stuck
  | cons label labels ih =>
      simp only [exec] at run
      split at run
      · rename_i s' obs' stepped
        obtain ⟨⟨u, obs''⟩, rest, same⟩ := Option.map_eq_some'.mp run
        simp only [Prod.mk.injEq] at same
        obtain ⟨rfl, -⟩ := same
        exact ih (step_stuckAtTop stuck shaped (own label (by simp)) stepped)
          (step_shaped shaped stepped) obs'' (fun l mem => own l (List.mem_cons_of_mem _ mem)) rest
      · simp at run

/-- A stretch of the caller's own steps ends its call, or leaves it a shorter program, shaped and
not stuck. -/
def Progress (s t : System) : Prop :=
  t.caller.prog = [] ∨
    (t.caller.prog.length < s.caller.prog.length ∧ Shaped t.caller.prog ∧ ¬ t.StuckAtTop)

theorem exists_progress (shaped : Shaped s.caller.prog) (free : ¬ s.StuckAtTop)
    (prog : s.caller.prog = stmt :: rest) :
    ∃ labels t obs, (∀ l ∈ labels, l.isOwn = true) ∧ s.exec labels = some (t, obs) ∧
      Progress s t := by
  rw [prog] at shaped
  have moved : ∀ {labels t obs}, s.exec labels = some (t, obs) →
      (∀ l ∈ labels, l.isOwn = true) → (t.caller.prog = rest ∨ t.caller.prog = []) →
      freshWaits rest = true → ∃ labels t obs, (∀ l ∈ labels, l.isOwn = true) ∧
        s.exec labels = some (t, obs) ∧ Progress s t := by
    intro labels t obs run own next fresh
    refine ⟨labels, t, obs, own, run, ?_⟩
    rcases next with next | next
    · exact .inr ⟨by simp [next, prog], next ▸ .inl fresh, not_stuckAtTop_of_fresh (next ▸ fresh)⟩
    · exact .inl next
  by_cases straight : stmt.isStraight
  · obtain ⟨t, obs, stepped, next⟩ := step_straight prog straight
    exact moved (exec_singleton stepped) (by simp [Label.isOwn]) next
      (shaped.fresh_tail (by rintro rfl; cases straight) (by rintro rfl; cases straight)
        (by rintro rfl; cases straight))
  by_cases submits : stmt.isSubmission
  · obtain ⟨t, obs, stepped, next⟩ := step_accepted prog submits
    exact moved (exec_singleton stepped) (by simp [Label.isOwn]) (.inl next)
      (shaped.fresh_tail (by rintro rfl; cases submits) (by rintro rfl; cases submits)
        (by rintro rfl; cases submits))
  cases stmt with
  | startWait =>
      have started : ({ s with clock := 0xFFFFFFFF } : System).step .advance =
          some ({ ({ s with clock := 0xFFFFFFFF } : System).setProg rest with
            caller.timeout := 0xFFFFFFFF + 32768 }, []) := by
        have prog : ({ s with clock := 0xFFFFFFFF } : System).caller.prog = _ := prog
        rw [step_advance_of_prog prog]
        rfl
      have wrapped : (0xFFFFFFFF : UInt32) + 32768 ≠ 0xFFFFFFFF := by decide
      exact ⟨_, _, _, by simp [Label.isOwn, tickToTop],
        exec_append_of (exec_singleton (step_tickToTop s)) (exec_singleton started),
        .inr ⟨by simp [prog], shaped.tail, fun ⟨_, _, top⟩ => wrapped top⟩⟩
  | pollResponse =>
      cases pending : s.client.sync.response
      · have below : s.caller.timeout ≠ 0xFFFFFFFF := fun top =>
          free ⟨by simp [prog], pending, top⟩
        have run := exec_pollRound prog pending (0xFFFFFFFF - s.clock)
        rw [uint32_add_sub_cancel, if_pos (uint32_lt_top below)] at run
        exact ⟨_, _, _, by simp [pollRound, Label.isOwn], run, .inl rfl⟩
      · exact moved (exec_singleton (show s.step .advance = some (s.setProg rest, []) by
            rw [step_advance_of_prog prog]; simp [advance, pending]))
          (by simp [Label.isOwn]) (.inl rfl) shaped.fresh_of_poll
  | checkDeadline =>
      obtain ⟨r, fresh, rfl⟩ := shaped.of_check
      by_cases late : s.clock > s.caller.timeout
      · exact ⟨_, _, _, by simp [Label.isOwn],
          exec_singleton (show s.step .advance = some (s.setProg [], [.ret .timeout]) by
            rw [step_advance_of_prog prog]; simp [advance, late]), .inl rfl⟩
      · exact ⟨_, _, _, by simp [Label.isOwn],
          exec_singleton (show s.step .advance = some (s.setProg (.pollResponse :: r), []) by
            rw [step_advance_of_prog prog]; simp [advance, late]),
          .inr ⟨by simp [prog], .inr ⟨r, fresh, .inl rfl⟩,
            fun ⟨_, pending, top⟩ => free ⟨by simp [prog], pending, top⟩⟩⟩
  | spinDelay =>
      have spun : ({ s with clock := 0xFFFFFFFF } : System).step .advance =
          some (({ s with clock := 0xFFFFFFFF } : System).setProg rest, []) := by
        have prog : ({ s with clock := 0xFFFFFFFF } : System).caller.prog = _ := prog
        rw [step_advance_of_prog prog]
        simp [advance, uint32_not_top_lt]
      exact moved (exec_append_of (exec_singleton (step_tickToTop s)) (exec_singleton spun))
        (by simp [Label.isOwn, tickToTop]) (.inl rfl)
        (shaped.fresh_tail (by simp) (by simp) (by simp))
  | returnIfStatus =>
      by_cases failed : s.client.sync.status = .success
      · exact moved (exec_singleton (show s.step .advance = some (s.setProg rest, []) by
            rw [step_advance_of_prog prog]; simp [advance, failed]))
          (by simp [Label.isOwn]) (.inl rfl) (shaped.fresh_tail (by simp) (by simp) (by simp))
      · have first : s.step .advance = some (s.setProg [.returnStatus], []) := by
          rw [step_advance_of_prog prog]
          simp [advance, failed]
        have second : (s.setProg [.returnStatus]).step .advance =
            some ((s.setProg [.returnStatus]).setProg [], [.ret s.client.sync.status]) := by
          rw [step_advance_of_prog rfl]
          rfl
        exact ⟨_, _, _, by simp [Label.isOwn],
          exec_append_of (exec_singleton first) (exec_singleton second), .inl rfl⟩
  | _ => simp [Stmt.isStraight, Stmt.isSubmission] at straight submits

theorem finishes_of_shaped (shaped : Shaped s.caller.prog) (free : ¬ s.StuckAtTop) :
    s.Finishes := by
  generalize size : s.caller.prog.length = n
  induction n using Nat.strong_induction_on generalizing s with
  | _ n ih =>
  rcases prog : s.caller.prog with _ | ⟨stmt, rest⟩
  · exact Finishes.of_idle prog
  obtain ⟨labels, t, obs, own, run, done | ⟨smaller, shaped', free'⟩⟩ :=
    exists_progress shaped free prog
  · exact Finishes.of_exec run own (Finishes.of_idle done)
  · exact Finishes.of_exec run own (ih _ (size ▸ smaller) shaped' free' rfl)

end System

theorem Reachable.shaped {s : System} {log : List Obs} (reach : Reachable s log) :
    Shaped s.caller.prog := by
  induction reach with
  | init => exact .inl rfl
  | step _ stepped ih => exact System.step_shaped ih stepped

variable {s : System} {log : List Obs}

/-- From every reachable state the caller can finish its call by itself, each request accepted,
no reply kept and no message delivered, exactly when it does not poll a pending slot against the
deadline 0xFFFFFFFF. -/
theorem caller_finishes_unless_stuck_at_top (reach : Reachable s log) :
    s.Finishes ↔ ¬ s.StuckAtTop :=
  ⟨fun finishes stuck => stuck.not_finishes reach.shaped finishes,
    System.finishes_of_shaped reach.shaped⟩

/-- `ble_client_gap_wr_adv_data` entered at 0xFFFF7FFF, its request accepted: its wait gets the
deadline 0xFFFFFFFF. -/
def topWaitRun : List Label :=
  [.tick 0xFFFF7FFF, .call (.gapWrAdvData 200 3), .advance, .submit .success none, .advance]

theorem wait_at_top_cannot_finish :
    ∃ s log, System.init.exec topWaitRun = some (s, log) ∧ s.StuckAtTop ∧ ¬ s.Finishes :=
  ⟨_, _, rfl, by decide, fun finishes =>
    (caller_finishes_unless_stuck_at_top (@reachable_of_exec _ _ topWaitRun rfl)).mp finishes
      (by decide)⟩

end CurieBle
