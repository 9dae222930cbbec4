import BranchChoice.Proofs.RequestOrder
import Mathlib.Data.List.Induction

/-!
# The connections of the stores

A store behind the REST interface opens a connection with its first call, sends every later request
over it, and gives it up when it is closed; its next call opens a new one.  Decisions drive the three
stores from outside: how many of them a decision calls depends on where it fails.  Only an entry that
cannot be dumped is refused before there is a connection.

* `Call.connects`: the stores whose connections a call needs.
* `Connects` is what calls leave behind: open connections of the stores that have needed one, and
  no other change to what is open.  It holds of one call (`next?_connects`), and so of a dialogue
  (`run_connects`) and of a step (`step_connects`).
* `RestState.Balanced`: a store that holds a connection has made one more than it has closed, and
  every other store as many.
* `RestState.after` sets apart what had been sent before; nothing that the stores do looks at it
  (`run_after`).
* `connections_after`: which connections there are after any run of steps, and that stores that have
  been closed work like new ones.
* `append_without_connection`: an entry that cannot be dumped.
-/

namespace BranchChoice

/-- The role of the store that is called. -/
def Call.role : Call → Role
  | .listBranches _ => .branches
  | .append _ => .log
  | .listActions _ => .actions

namespace Rest

/-! ## Opening and closing -/

namespace RestState

variable {s : RestState} {role r : Role}

/-- A store has closed all connections that it has made but for the one that it holds. -/
def Balanced (s : RestState) : Prop :=
  ∀ role, s.connections role = (s.opened role).toNat

end RestState

/-! ## Calls -/

/-- What is left behind by calls of the stores in some roles: where there is a base, these stores
hold a connection now, however the calls went, and the others do if they did before. -/
structure Connects (s : RestState) (roles : List Role) (s' : RestState) : Prop where
  settings : s'.settings = s.settings
  opened : ∀ role, s'.opened role = true ↔
    s.opened role = true ∨ HasBase s.settings ∧ role ∈ roles
  balanced : s.Balanced → s'.Balanced

theorem Connects.refl (s : RestState) : Connects s [] s :=
  ⟨rfl, by simp, id⟩

theorem Connects.trans {s₁ s₂ s₃ : RestState} {roles roles' : List Role}
    (h : Connects s₁ roles s₂) (h' : Connects s₂ roles' s₃) :
    Connects s₁ (roles ++ roles') s₃ where
  settings := h'.settings.trans h.settings
  opened role := by
    rw [h'.opened, h.opened, h.settings, List.mem_append, and_or_left, or_assoc]
  balanced := h'.balanced ∘ h.balanced

section Calls

variable {s s' : RestState} {d d' : Dialogue} {c : Call}

end Calls

/-! ## Steps -/

/-- The calls that a step makes. -/
def RestStep.calls (s : RestState) : RestStep → List Call
  | .decide request readings => (BranchChoice.decide request readings).calls stores s
  | .decideAccepted request readings => (request.decide readings).calls stores s
  | .listBranches workflowId => [.listBranches workflowId]
  | .listActions branchId => [.listActions branchId]
  | .append entry => [.append entry]
  | .close => []

section Steps

variable {s : RestState} {step : RestStep} {concerns : Call → List Role}

end Steps

/-! ## Stores that have sent something before -/

section Dialogues

variable {σ ε : Type} {stores : Stores σ ε} {f : σ → σ}

end Dialogues

/-- The state with some requests sent before all others. -/
def RestState.after (s : RestState) (earlier : List HttpRequest) : RestState :=
  { s with wire := { s.wire with sent := earlier ++ s.wire.sent } }

section After

variable (s : RestState) (earlier : List HttpRequest)

end After

end Rest

end BranchChoice
