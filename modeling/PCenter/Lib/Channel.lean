import PCenter.Lib.Transition

/-!
# Channels that are closed

A channel with a buffer takes messages until it is closed; to send on it or to close it after that
ends the process. A system that uses many channels is orderly when no channel is used after it was
closed.
-/

namespace Channel

structure Chan (M : Type*) where
  buffer : List M
  closed : Bool

inductive Op (M : Type*) where
  | send (m : M)
  | close

namespace Chan

variable {M : Type*}

def empty : Chan M := ⟨[], false⟩

/-- What an operation leaves; there is nothing that it could leave of a closed channel. -/
def apply (c : Chan M) (op : Op M) : Option (Chan M) :=
  if c.closed then none
  else
    match op with
    | .send m => some { c with buffer := c.buffer ++ [m] }
    | .close => some { c with closed := true }

/-- Whether a `select` with a default takes its case of sending. -/
def ready (capacity : ℕ) (c : Chan M) : Bool := c.closed || c.buffer.length < capacity

end Chan

section Histories

variable {S E K M : Type*} (step : S → E → S) (used : S → E → Option (K × Op M))

/-- What a run does to the channels. -/
def history : S → List E → List (K × Op M)
  | _, [] => []
  | s, e :: es => (used s e).toList ++ history (step s e) es

/-- A channel that was closed is neither closed nor sent on again. -/
def Orderly (ops : List (K × Op M)) : Prop := ops.Pairwise fun a b => a.1 = b.1 → a.2 ≠ .close

variable {step used} {inv : S → Prop} {closed : S → K → Prop}

theorem unused_of_closed (kept : ∀ s e, inv s → inv (step s e))
    (opens : ∀ s e k op, inv s → used s e = some (k, op) → ¬closed s k)
    (stays : ∀ s e k, inv s → closed s k → closed (step s e) k) {s : S} {k : K} (start : inv s)
    (before : closed s k) (es : List E) : ∀ a ∈ history step used s es, a.1 ≠ k := by
  induction es generalizing s with
  | nil =>
      intro a member
      cases member
  | cons e es ih =>
      intro a member
      rcases List.mem_append.mp member with first | later
      · rintro rfl
        have here : used s e = some (a.1, a.2) := Option.mem_toList.mp first
        exact opens s e a.1 a.2 start here before
      · exact ih (kept s e start) (stays s e k start before) a later

/-- Where every operation finds its channel open, and a closed channel stays closed, a run is
orderly. -/
theorem orderly_history (kept : ∀ s e, inv s → inv (step s e))
    (opens : ∀ s e k op, inv s → used s e = some (k, op) → ¬closed s k)
    (stays : ∀ s e k, inv s → closed s k → closed (step s e) k)
    (closes : ∀ s e k, inv s → used s e = some (k, .close) → closed (step s e) k) {s : S}
    (start : inv s) (es : List E) : Orderly (history step used s es) := by
  induction es generalizing s with
  | nil => exact List.Pairwise.nil
  | cons e es ih =>
      have later := ih (kept s e start)
      cases use : used s e with
      | none => simpa [history, use] using later
      | some a =>
          rw [history, use]
          refine List.pairwise_cons.mpr ⟨fun b member same close => ?_, later⟩
          have shut := closes s e a.1 start (by rw [use, ← close])
          exact unused_of_closed kept opens stays (kept s e start) shut es b member same.symm

end Histories

end Channel
