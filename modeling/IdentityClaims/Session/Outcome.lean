/-!
# Outcomes of sessions

The outcome of a step is its answer with the state after it. A session lists the outcomes of its
steps in their order.
-/

namespace IdentityClaims

/-- The state in which a session ends that began in some state: the one of its last outcome. -/
def finalState {Answer State : Type} (start : State) (outcomes : List (Answer × State)) : State :=
  (outcomes.getLast?.map Prod.snd).getD start

theorem finalState_cons {Answer State : Type} (start : State) (first : Answer × State)
    (rest : List (Answer × State)) :
    finalState start (first :: rest) = finalState first.2 rest := by
  unfold finalState
  rw [List.getLast?_cons]
  cases rest.getLast? <;> rfl

end IdentityClaims
