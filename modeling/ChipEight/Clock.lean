import ChipEight.Machine.Cycle

/-!
# The clock

The machine has no notion of time. A clock turns elapsed seconds into cycles: elapsed time is
collected, and each cycle uses up one time step of it. At most a tenth of a second is ever held, so
a long stall does not turn into a burst of cycles.

The arithmetic is a parameter. Programs reckon in single precision, where a time step can be
absorbed: once subtracting it leaves the collected time as it is, the cycles never end. So a drive
need not come back, and the loop is written as a fixed point: `none` is the drive that does not come
back. No cycle limit is built in that would hide it.
-/

namespace ChipEight

/-- Elapsed time and the time a cycle takes, in seconds. -/
structure Clock (α : Type) where
  /-- The time of one cycle. -/
  timeStep : α
  /-- The elapsed time that no cycle has used up. -/
  elapsed : α
  deriving DecidableEq

namespace Clock

/-- Cycles per second if nothing else is asked for. -/
def defaultRate : Float32 := 500.0

/-- A clock and its machine after some time. -/
structure Driven (α : Type) where
  /-- The clock. A halted machine leaves it with no elapsed time. -/
  clock : Clock α
  /-- The run of the machine. -/
  run : Run

variable {α : Type} [OfScientific α] [Add α] [Sub α] [Div α] [LE α] [DecidableLE α]

/-- The most elapsed time a clock holds. -/
def longest : α := 0.1

/-- The larger of a number and one; one, if it is not a number. -/
def atLeastOne (x : α) : α := if (1.0 : α) ≤ x then x else 1.0

/-- The smaller of a number and `longest`; `longest`, if it is not a number. -/
def atMostLongest (x : α) : α := if x ≤ longest then x else longest

def ofRate (rate : α) : Clock α := ⟨1.0 / atLeastOne rate, 0.0⟩

/-- Collects elapsed time. -/
def collect (c : Clock α) (dt : α) : Clock α :=
  { c with elapsed := atMostLongest (c.elapsed + dt) }

/-- Lets a machine catch up with the elapsed time, after `done` cycles. -/
@[specialize] def driveFrom (timeStep : α) (watched : UInt16 → Bool) (done : Nat) (elapsed : α)
    (m : Machine) : Option (Driven α) :=
  if timeStep ≤ elapsed then
    let rest := elapsed - timeStep
    match m.step with
    | .error fault after => some ⟨⟨timeStep, 0.0⟩, ⟨after, done + 1, some (.faulted fault)⟩⟩
    | .ok _ after =>
      if watched after.pc then some ⟨⟨timeStep, 0.0⟩, ⟨after, done + 1, some .watched⟩⟩
      else
        let goOn := driveFrom timeStep watched (m := after)
        goOn (done + 1) rest
  else some ⟨⟨timeStep, elapsed⟩, ⟨m, done, none⟩⟩
partial_fixpoint

/-- Drives a machine for `dt` seconds, up to the first fault or watched address. -/
def drive (c : Clock α) (m : Machine) (watched : UInt16 → Bool) (dt : α) : Option (Driven α) :=
  driveFrom c.timeStep watched 0 (c.collect dt).elapsed m

end Clock

end ChipEight
