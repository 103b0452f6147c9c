import CurieBle.Steps

/-! The clock arithmetic of `wait_for_condition` and of the settling loop of `ble_client_init`.
Both compute their end as an unsigned 32-bit sum of `get_uptime_32k()` and a budget and compare
the clock against it. While neither the end nor the clock wraps, the wait returns TIMEOUT at the
first poll past its budget and never before; when the end wraps, the first poll already passes
it. Sums of `UInt32` values are taken modulo 4294967296, that is 2^32. -/

namespace CurieBle

theorem uint32_toNat_add (a b : UInt32) : (a + b).toNat = (a.toNat + b.toNat) % 4294967296 := by
  simp [UInt32.toNat, UInt32.add_def, BitVec.toNat_add]

theorem uint32_lt_iff (a b : UInt32) : a < b ↔ a.toNat < b.toNat := by
  simp [UInt32.lt_def, BitVec.lt_def, UInt32.toNat]

/-- One turn of the loop of `wait_for_condition` while nothing completes the slot: the clock
advances, then the loop tests the flag and the deadline. -/
def pollRound (ticks : UInt32) : List Label := [.tick ticks, .advance, .advance]

def pollRounds : List UInt32 → List Label
  | [] => []
  | ticks :: rest => pollRound ticks ++ pollRounds rest

def elapsedTicks : List UInt32 → Nat
  | [] => 0
  | ticks :: rest => ticks.toNat + elapsedTicks rest

theorem pollRounds_append (ds : List UInt32) (ticks : UInt32) :
    pollRounds (ds ++ [ticks]) = pollRounds ds ++ pollRound ticks := by
  induction ds with
  | nil => simp [pollRounds]
  | cons d ds ih => simp [pollRounds, ih]

namespace System

variable {s : System} {rest : List Stmt}

theorem exec_pollRound (waiting : s.caller.prog = .pollResponse :: rest)
    (pending : s.client.sync.response = false) (ticks : UInt32) :
    s.exec (pollRound ticks) =
      if s.clock + ticks > s.caller.timeout then
        some ({ s with clock := s.clock + ticks }.setProg [], [.ret .timeout])
      else some ({ s with clock := s.clock + ticks }, []) := by
  obtain ⟨client, ⟨prog, timeout, delayUntil⟩, inFlight, tickets, clock⟩ := s
  simp only at waiting pending
  subst waiting
  by_cases late : clock + ticks > timeout <;> simp [exec, step, pollRound, advance, pending, late] <;> rfl

theorem exec_pollRounds_within (waiting : s.caller.prog = .pollResponse :: rest)
    (pending : s.client.sync.response = false) {ds : List UInt32}
    (within : s.clock.toNat + elapsedTicks ds ≤ s.caller.timeout.toNat) :
    ∃ t, s.exec (pollRounds ds) = some (t, []) ∧ t.caller = s.caller ∧ t.client = s.client ∧
      t.clock.toNat = s.clock.toNat + elapsedTicks ds := by
  induction ds generalizing s with
  | nil => exact ⟨s, rfl, rfl, rfl, rfl⟩
  | cons d ds ih =>
      have bound : s.caller.timeout.toNat < 4294967296 := s.caller.timeout.toNat_lt_size
      have clock : (s.clock + d).toNat = s.clock.toNat + d.toNat := by
        rw [uint32_toNat_add]
        exact Nat.mod_eq_of_lt (by simp only [elapsedTicks] at within; omega)
      have early : ¬ s.clock + d > s.caller.timeout := by
        simp only [gt_iff_lt, uint32_lt_iff, clock, not_lt]
        simp only [elapsedTicks] at within
        omega
      obtain ⟨t, run, caller, client, clock'⟩ := @ih { s with clock := s.clock + d } waiting
        pending (by simp only [elapsedTicks] at within; simp only [clock]; omega)
      refine ⟨t, ?_, caller, client, ?_⟩
      · simp [pollRounds, exec_append, exec_pollRound waiting pending, early, run]
      · simp only [clock', clock, elapsedTicks]
        omega

theorem exec_pollRounds_late (waiting : s.caller.prog = .pollResponse :: rest)
    (pending : s.client.sync.response = false) {ds : List UInt32} {ticks : UInt32}
    (within : s.clock.toNat + elapsedTicks ds ≤ s.caller.timeout.toNat)
    (late : s.caller.timeout.toNat < s.clock.toNat + elapsedTicks ds + ticks.toNat)
    (noWrap : s.clock.toNat + elapsedTicks ds + ticks.toNat < 4294967296) :
    ∃ t, s.exec (pollRounds (ds ++ [ticks])) = some (t, [.ret .timeout]) ∧ t.caller.prog = [] ∧
      t.client = s.client := by
  obtain ⟨t, run, caller, client, clock⟩ := exec_pollRounds_within waiting pending within
  have passed : t.clock + ticks > t.caller.timeout := by
    rw [gt_iff_lt, uint32_lt_iff, uint32_toNat_add, Nat.mod_eq_of_lt (by omega), caller]
    omega
  refine ⟨{ t with clock := t.clock + ticks }.setProg [], ?_, rfl, client⟩
  rw [pollRounds_append, exec_append, run]
  simp [exec_pollRound (caller ▸ waiting) (client ▸ pending), passed]

/-- `unsigned timeout = get_uptime_32k() + 32768;` -/
theorem step_startWait (waiting : s.caller.prog = .startWait :: rest) :
    ∃ armed, s.step .advance = some (armed, []) ∧ armed.caller.prog = rest ∧
      armed.client = s.client ∧ armed.clock = s.clock ∧ armed.caller.timeout = s.clock + 32768 :=
  ⟨{ s.setProg rest with caller.timeout := s.clock + 32768 }, by simp only [step, waiting, advance],
    rfl, rfl, rfl, rfl⟩

theorem exec_wait_times_out {ds : List UInt32} {ticks : UInt32}
    (waiting : s.caller.prog = .startWait :: .pollResponse :: rest)
    (pending : s.client.sync.response = false) (fits : s.clock.toNat + 32768 < 4294967296)
    (within : elapsedTicks ds ≤ 32768)
    (late : 32768 < elapsedTicks ds + ticks.toNat)
    (noWrap : s.clock.toNat + elapsedTicks ds + ticks.toNat < 4294967296) :
    (∃ t, s.exec (.advance :: pollRounds ds) = some (t, []) ∧
      t.caller.prog = .pollResponse :: rest ∧ t.client = s.client) ∧
    ∃ t, s.exec (.advance :: pollRounds (ds ++ [ticks])) = some (t, [.ret .timeout]) ∧
      t.caller.prog = [] ∧ t.client = s.client := by
  obtain ⟨armed, started, prog, client, clock, timeout⟩ := step_startWait waiting
  have deadline : armed.caller.timeout.toNat = armed.clock.toNat + 32768 := by
    rw [timeout, clock, uint32_toNat_add]
    exact Nat.mod_eq_of_lt (by simpa using fits)
  rw [← clock] at noWrap
  obtain ⟨t, run, caller, client', -⟩ := exec_pollRounds_within prog (client ▸ pending)
    (show armed.clock.toNat + elapsedTicks ds ≤ armed.caller.timeout.toNat by omega)
  obtain ⟨u, run', idle, client''⟩ := exec_pollRounds_late prog (client ▸ pending) (by omega)
    (by omega) noWrap
  exact ⟨⟨t, by simp [exec, started, run], caller ▸ prog, client'.trans client⟩, u,
    by simp [exec, started, run'], idle, client''.trans client⟩

end System

variable {s : System} {rest : List Stmt}

theorem wait_times_out_at_first_late_poll {ds : List UInt32} {ticks : UInt32}
    (waiting : s.caller.prog = .startWait :: .pollResponse :: rest)
    (pending : s.client.sync.response = false) (fits : s.clock.toNat + 32768 < 4294967296)
    (within : elapsedTicks ds ≤ 32768)
    (late : 32768 < elapsedTicks ds + ticks.toNat)
    (noWrap : s.clock.toNat + elapsedTicks ds + ticks.toNat < 4294967296) :
    (∃ t, s.exec (.advance :: pollRounds ds) = some (t, []) ∧
      t.caller.prog = .pollResponse :: rest) ∧
    ∃ t, s.exec (.advance :: pollRounds (ds ++ [ticks])) = some (t, [.ret .timeout]) ∧
      t.caller.prog = [] := by
  obtain ⟨⟨t, run, prog, -⟩, u, run', idle, -⟩ :=
    System.exec_wait_times_out waiting pending fits within late noWrap
  exact ⟨⟨t, run, prog⟩, u, run', idle⟩

theorem wait_from_zero_times_out_after_budget :
    (∃ t, ({ System.init with caller.prog := [.startWait, .pollResponse] } : System).exec
        (.advance :: pollRounds [32768]) = some (t, []) ∧ t.caller.prog = [.pollResponse]) ∧
    ∃ t, ({ System.init with caller.prog := [.startWait, .pollResponse] } : System).exec
        (.advance :: pollRounds ([32768] ++ [1])) = some (t, [.ret .timeout]) ∧ t.caller.prog = [] :=
  wait_times_out_at_first_late_poll rfl rfl (by decide) (by decide) (by decide) (by decide)

/-- A wait started less than 32768 ticks below the wrap of the clock has a deadline that wrapped
to a small value: its first poll that finds the slot pending returns TIMEOUT, however few ticks
have passed. -/
theorem wrapped_wait_times_out_at_first_poll {ticks : UInt32}
    (waiting : s.caller.prog = .startWait :: .pollResponse :: rest)
    (pending : s.client.sync.response = false) (wraps : 4294967296 ≤ s.clock.toNat + 32768)
    (noWrap : s.clock.toNat + ticks.toNat < 4294967296) :
    ∃ t, s.exec (.advance :: pollRound ticks) = some (t, [.ret .timeout]) := by
  obtain ⟨armed, started, prog, client, clock, timeout⟩ := System.step_startWait waiting
  have passed : armed.clock + ticks > armed.caller.timeout := by
    rw [gt_iff_lt, uint32_lt_iff, timeout, clock, uint32_toNat_add, uint32_toNat_add,
      Nat.mod_eq_of_lt noWrap]
    have budget : (32768 : UInt32).toNat = 32768 := rfl
    have bound : s.clock.toNat < 4294967296 := s.clock.toNat_lt_size
    rw [budget, Nat.mod_eq_sub_mod wraps, Nat.mod_eq_of_lt (by omega)]
    omega
  exact ⟨{ armed with clock := armed.clock + ticks }.setProg [], by simp only [System.exec_cons, started, Option.some_bind,
    System.exec_pollRound prog (client ▸ pending), if_pos passed, Option.map_some', List.nil_append]⟩

theorem wait_near_wrap_times_out_after_one_tick :
    ∃ t, ({ System.init with caller.prog := [.startWait, .pollResponse], clock := 0xFFFFFF9C } :
      System).exec (.advance :: pollRound 1) = some (t, [.ret .timeout]) :=
  wrapped_wait_times_out_at_first_poll rfl rfl (by decide) (by decide)

/-- A wait started at 0xFFFF7FFF has the deadline 0xFFFFFFFF, which no clock value exceeds: it
never returns TIMEOUT, whatever the rounds. -/
theorem wait_at_top_never_times_out (ds : List UInt32)
    (waiting : s.caller.prog = .startWait :: .pollResponse :: rest)
    (pending : s.client.sync.response = false) (top : s.clock = 0xFFFF7FFF) :
    ∃ t, s.exec (.advance :: pollRounds ds) = some (t, []) ∧ t.caller.prog = .pollResponse :: rest := by
  obtain ⟨armed, started, prog, client, -, timeout⟩ := System.step_startWait waiting
  rw [top] at timeout
  suffices rounds : ∀ (s : System) ds, s.caller.prog = .pollResponse :: rest →
      s.client.sync.response = false → s.caller.timeout = 0xFFFFFFFF →
      ∃ t, s.exec (pollRounds ds) = some (t, []) ∧ t.caller.prog = .pollResponse :: rest by
    obtain ⟨t, run, idle⟩ := rounds armed ds prog (client ▸ pending) timeout
    exact ⟨t, by simp [System.exec, started, run], idle⟩
  intro s ds waiting pending timeout
  induction ds generalizing s with
  | nil => exact ⟨s, rfl, waiting⟩
  | cons d ds ih =>
      have early : ¬ s.clock + d > s.caller.timeout := by
        rw [timeout, gt_iff_lt, uint32_lt_iff, not_lt]
        exact Nat.le_of_lt_succ (UInt32.toNat_lt_size _)
      obtain ⟨t, run, idle⟩ := @ih { s with clock := s.clock + d } waiting pending timeout
      exact ⟨t, by simp [pollRounds, System.exec_append, System.exec_pollRound waiting pending,
        early, run], idle⟩

theorem wait_at_top_survives_two_budgets :
    ∃ t, ({ System.init with caller.prog := [.startWait, .pollResponse], clock := 0xFFFF7FFF } :
      System).exec (.advance :: pollRounds [40000, 40000]) = some (t, []) ∧
      t.caller.prog = [.pollResponse] :=
  wait_at_top_never_times_out [40000, 40000] rfl rfl rfl

/-- `ble_client_gap_wr_adv_data` whose wait starts at 0xFFFFFF9C, 100 ticks below the wrap. -/
def wrappedWaitRun : List Label :=
  [.tick 0xFFFFFF9C, .call (.gapWrAdvData 200 3), .advance, .submit .success none, .advance,
    .tick 1, .advance, .advance]

/-- `ble_client_init` whose settling loop starts at 0xFFFFFFF6, 10 ticks below the wrap. -/
def wrappedSettleRun : List Label :=
  [.tick 0xFFFFFFF6, .call (.init none 0 none 0), .advance,
    .submit .success (some (.cfwSvcAvailEvt .bleCore)), .advance,
    .deliver ⟨.cfwSvcAvailEvt .bleCore, some 0⟩, .advance, .advance, .tick 1, .advance]

/-- The deadline wraps to 32668 and the first poll, one tick after the wait started, returns
TIMEOUT; the end of the settling loop wraps to 22 and the loop exits one tick after it started. -/
theorem wrapped_deadlines_end_early :
    (System.init.exec wrappedWaitRun).map (fun (s, log) => (s.caller.timeout, s.clock, log.getLast?)) =
      some (32668, 0xFFFFFF9D, some (.ret .timeout)) ∧
    (System.init.exec wrappedSettleRun).map
        (fun (s, _) => (s.caller.delayUntil, s.clock, s.caller.prog.head?)) =
      some (22, 0xFFFFFFF7, some .armResponse) := by
  decide

end CurieBle
