import Mathlib.Logic.Relation
import MemoryReclaim.Host

/-!
# Hosts with a steady clock

Where the order of times matters, one thing is assumed about a host: its clock does not
go back, whatever the host is used for between two readings.  `NotBefore` is what one
reading tells about the later ones, and it is kept by every use of the host.
-/

namespace MemoryReclaim.Host

variable {σ : Type} {host : Host σ} {state later : σ} {bound : Seconds}

/-- One use of a host takes it from one state to the next. -/
inductive Step (host : Host σ) : σ → σ → Prop
  | available (state : σ) : host.Step state (host.available state).2
  | total (state : σ) : host.Step state (host.total state).2
  | kill (pid : Pid) (state : σ) : host.Step state (host.kill pid state).2
  | read (path : Path) (state : σ) : host.Step state (host.read path state).2
  | write (path : Path) (content : String) (mode : WriteMode) (state : σ) :
      host.Step state (host.write path content mode state).2
  | now (state : σ) : host.Step state (host.now state).2

/-- Some uses of a host take it from one state to another. -/
abbrev Leads (host : Host σ) : σ → σ → Prop := Relation.ReflTransGen host.Step

/-- From `state` on, every reading of the clock is `bound` or later. -/
def NotBefore (host : Host σ) (bound : Seconds) (state : σ) : Prop :=
  ∀ later, host.Leads state later → bound ≤ (host.now later).1

/-- From `start` on, no reading of the clock is before an earlier one. -/
def Steady (host : Host σ) (start : σ) : Prop :=
  ∀ state, host.Leads start state → host.NotBefore (host.now state).1 (host.now state).2

/-- Whatever time has passed as of one state has passed as of the other. -/
def Follows (host : Host σ) (state later : σ) : Prop :=
  ∀ bound, host.NotBefore bound state → host.NotBefore bound later

theorem notBefore_zero : host.NotBefore 0 state := fun _ _ => Nat.zero_le _

namespace NotBefore

theorem leads (hbound : host.NotBefore bound state) (hleads : host.Leads state later) :
    host.NotBefore bound later := by
  intro last hlast
  exact hbound last (hleads.trans hlast)

theorem le_now (hbound : host.NotBefore bound state) : bound ≤ (host.now state).1 :=
  hbound state .refl

end NotBefore

section Clock

variable (clock : σ → Seconds) (hnow : ∀ state, (host.now state).1 = clock state)
variable (hstep : ∀ {state later}, host.Step state later → clock state ≤ clock later)

include hnow hstep

theorem NotBefore.of_clock (hle : bound ≤ clock state) : host.NotBefore bound state := by
  intro later hleads
  rw [hnow]
  induction hleads with
  | refl => exact hle
  | tail _ hlast ih => exact Nat.le_trans ih (hstep hlast)

/-- Where the clock is read off the state, a state follows another by its clock. -/
theorem Follows.of_clock (hle : clock state ≤ clock later) : host.Follows state later := by
  intro bound hbound
  have hread := hbound.le_now
  rw [hnow] at hread
  exact .of_clock clock hnow hstep (Nat.le_trans hread hle)

end Clock

namespace Steady

theorem leads (hsteady : host.Steady state) (hleads : host.Leads state later) :
    host.Steady later := by
  intro last hlast
  exact hsteady last (hleads.trans hlast)

theorem notBefore_now (hsteady : host.Steady state) :
    host.NotBefore (host.now state).1 (host.now state).2 :=
  hsteady state .refl

/-- A clock that is read off the state is steady when no use sets it back. -/
theorem of_clock (clock : σ → Seconds) (hnow : ∀ state, (host.now state).1 = clock state)
    (hstep : ∀ {state later}, host.Step state later → clock state ≤ clock later)
    (start : σ) : host.Steady start := by
  intro state _
  rw [hnow]
  exact .of_clock clock hnow hstep (hstep (.now state))

end Steady

end MemoryReclaim.Host
