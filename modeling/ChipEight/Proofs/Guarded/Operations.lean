import ChipEight.Machine.Cycle
import Mathlib.Data.List.TakeDrop

/-!
# Guarded operations

The procedures of the machine are total by construction. A sum that does not fit its type wraps
around, a byte outside memory reads as zero, a byte for which there is no room is not written. Where
such a default is used and was not asked for, the machine goes on with a value that means nothing.

In a *guarded* procedure nothing has a default. Each operation on numbers, nibbles, arrays and
ranges that is not defined everywhere is done behind a check, and a check that fails is a `Trap`,
which is no fault of the machine and which nothing handles. Only where wrapping around is what an
instruction is meant to do, there is nothing to check.

`Procedure.guarded` is the guarded procedure that does what a procedure does and traps nowhere. To
write a procedure with all of its checks and to prove it equal to that is to show that none of them
can fail.

Numbers that count or index have the width of a word of the host, which is at least thirty-two bits
(`USize`). The other sums and products are those of sixteen-bit numbers.
-/

namespace ChipEight

/-- A check that failed. -/
inductive Trap where
  /-- A byte above `0xF` was taken for a nibble. -/
  | noNibble (value : UInt8)
  /-- A case was met that cannot be. -/
  | unreachable
  /-- A sum, a difference or a product is outside its type. -/
  | overflow
  /-- A number was shifted by its width or more. -/
  | shiftTooFar (places width : ℕ)
  | indexOutside (index size : ℕ)
  /-- A range is reversed or reaches outside an array. -/
  | rangeOutside (first last size : ℕ)
  /-- Elements were copied to a place for more or fewer of them. -/
  | lengthsDiffer (target source : ℕ)
  deriving DecidableEq, Repr

/-- What ends a guarded procedure early. -/
inductive Stop where
  | fault (fault : Fault)
  | trap (trap : Trap)
  deriving DecidableEq, Repr

/-- Work on a machine in which every check is made that an operation needs. -/
abbrev Guarded := EStateM Stop Machine

namespace Guarded

variable {α : Type}

/-! ## Numbers -/

def nibble (b : UInt8) : Except Trap Nibble :=
  match Nibble.ofByte? b with
  | some n => .ok n
  | none => .error (.noNibble b)

def addWord (a b : UInt16) : Except Trap UInt16 :=
  if a.toNat + b.toNat < UInt16.size then .ok (a + b) else .error .overflow

def mulWord (a b : UInt16) : Except Trap UInt16 :=
  if a.toNat * b.toNat < UInt16.size then .ok (a * b) else .error .overflow

/-- A sum of numbers that count or index. -/
def add (a b : ℕ) : Except Trap ℕ :=
  if a + b < USize.size then .ok (a + b) else .error .overflow

/-- A difference of numbers that count or index. -/
def sub (a b : ℕ) : Except Trap ℕ := if b ≤ a then .ok (a - b) else .error .overflow

def shiftLeft {w : ℕ} (bits : BitVec w) (places : ℕ) : Except Trap (BitVec w) :=
  if places < w then .ok (bits <<< places) else .error (.shiftTooFar places w)

def shiftRight {w : ℕ} (bits : BitVec w) (places : ℕ) : Except Trap (BitVec w) :=
  if places < w then .ok (bits >>> places) else .error (.shiftTooFar places w)

/-! ## Arrays -/

def element (xs : List α) (index : ℕ) : Except Trap α :=
  match xs[index]? with
  | some x => .ok x
  | none => .error (.indexOutside index xs.length)

/-- The elements from `first` on and before `last`, if that is a range of the array. -/
def slice? (xs : List α) (first last : ℕ) : Option (List α) :=
  if first ≤ last ∧ last ≤ xs.length then some ((xs.drop first).take (last - first)) else none

/-- The elements from `first` on and before `last`. -/
def slice (xs : List α) (first last : ℕ) : Except Trap (List α) :=
  match slice? xs first last with
  | some ys => .ok ys
  | none => .error (.rangeOutside first last xs.length)

variable {n : ℕ}

def replace (xs : Vector α n) (index : ℕ) (x : α) : Except Trap (Vector α n) :=
  if h : index < n then .ok (xs.set index x h) else .error (.indexOutside index n)

/-- Copies elements to the places from `first` on and before `last`. -/
def overwrite (xs : Vector α n) (first last : ℕ) (ys : List α) : Except Trap (Vector α n) := do
  let target ← slice xs.toList first last
  if target.length = ys.length then
    return Vector.ofFn fun k ↦ if first ≤ k.val then ys[k.val - first]?.getD xs[k] else xs[k]
  else throw (.lengthsDiffer target.length ys.length)

@[simp] theorem pure_eq_ok (a : α) : (pure a : Except Trap α) = .ok a := rfl

@[simp] theorem ok_bind {β : Type} (a : α) (f : α → Except Trap β) :
    (Except.ok a >>= f) = f a := rfl

/-! ## When they are defined -/

theorem nibble_toByte (x : Nibble) : nibble x.toByte = .ok x := by
  rw [nibble, Nibble.ofByte?_toByte]

theorem addWord_of_lt {a b : UInt16} (h : a.toNat + b.toNat < 0x10000) :
    addWord a b = .ok (a + b) :=
  if_pos h

theorem mulWord_of_lt {a b : UInt16} (h : a.toNat * b.toNat < 0x10000) :
    mulWord a b = .ok (a * b) :=
  if_pos h

theorem lt_size {a : ℕ} (h : a < 0x100000000) : a < USize.size :=
  Nat.lt_of_lt_of_le h USize.le_size

theorem add_of_lt {a b : ℕ} (h : a + b < 0x100000000) : add a b = .ok (a + b) :=
  if_pos (lt_size h)

theorem sub_of_le {a b : ℕ} (h : b ≤ a) : sub a b = .ok (a - b) := if_pos h

theorem shiftLeft_of_lt {w places : ℕ} (h : places < w) (bits : BitVec w) :
    shiftLeft bits places = .ok (bits <<< places) :=
  if_pos h

theorem shiftRight_of_lt {w places : ℕ} (h : places < w) (bits : BitVec w) :
    shiftRight bits places = .ok (bits >>> places) :=
  if_pos h

theorem element_toList (xs : Vector α n) {index : ℕ} (h : index < n) :
    element xs.toList index = .ok xs[index] := by
  rw [element, List.getElem?_eq_getElem (by simpa using h), Vector.getElem_toList]

theorem slice?_toList (xs : Vector α n) {first last : ℕ} (h : first ≤ last) (hn : last ≤ n) :
    slice? xs.toList first last = some ((xs.toList.drop first).take (last - first)) :=
  if_pos ⟨h, by rwa [Vector.length_toList]⟩

theorem slice_toList (xs : Vector α n) {first last : ℕ} (h : first ≤ last) (hn : last ≤ n) :
    slice xs.toList first last = .ok ((xs.toList.drop first).take (last - first)) := by
  rw [slice, slice?_toList xs h hn]

theorem replace_of_lt (xs : Vector α n) {index : ℕ} (h : index < n) (x : α) :
    replace xs index x = .ok (xs.set index x h) :=
  dif_pos h

theorem overwrite_of_le (xs : Vector α n) (first : ℕ) (ys : List α) (h : first + ys.length ≤ n) :
    overwrite xs first (first + ys.length) ys
      = .ok (Vector.ofFn fun k ↦
        if first ≤ k.val then ys[k.val - first]?.getD xs[k] else xs[k]) := by
  have hlength : ((xs.toList.drop first).take (first + ys.length - first)).length = ys.length := by
    rw [List.length_take, List.length_drop, Vector.length_toList]
    omega
  rw [overwrite, slice_toList xs (Nat.le_add_right _ _) h]
  exact if_pos hlength

end Guarded

/-! ## Procedures without traps -/

/-- The guarded procedure that does what a procedure does and traps nowhere. -/
def Procedure.guarded {α : Type} (p : Procedure α) : Guarded α := EStateM.adaptExcept Stop.fault p

/-- Makes a check on the way. -/
def Guarded.check {α : Type} : Except Trap α → Guarded α
  | .ok a => pure a
  | .error trap => throw (.trap trap)

instance : MonadLift Procedure Guarded := ⟨Procedure.guarded⟩

instance : MonadLift (Except Trap) Guarded := ⟨Guarded.check⟩

/-- How work ends that traps nowhere. -/
def Machine.untrapped {α : Type} :
    EStateM.Result Fault Machine α → EStateM.Result Stop Machine α
  | .ok a after => .ok a after
  | .error fault after => .error (.fault fault) after

namespace Guarded

variable {α β : Type}

theorem run_guarded (p : Procedure α) (m : Machine) :
    p.guarded.run m = Machine.untrapped (p.run m) := by
  rw [Procedure.guarded, EStateM.run, EStateM.adaptExcept, EStateM.run]
  cases p m <;> rfl

theorem ext_run {p q : Guarded α} (h : ∀ m, p.run m = q.run m) : p = q := funext h

/-- A guarded procedure traps nowhere if it ends on each machine as one without checks does. -/
theorem eq_guarded {p : Guarded α} {q : Procedure α}
    (h : ∀ m, p.run m = Machine.untrapped (q.run m)) : p = q.guarded :=
  ext_run fun m ↦ (h m).trans (run_guarded q m).symm

@[simp] theorem liftM_procedure (p : Procedure α) : (liftM p : Guarded α) = p.guarded := rfl

@[simp] theorem liftM_ok (a : α) : (liftM (.ok a : Except Trap α) : Guarded α) = pure a := rfl

@[simp] theorem guarded_pure (a : α) : (pure a : Procedure α).guarded = pure a := rfl

@[simp] theorem guarded_get : (get : Procedure Machine).guarded = get := rfl

@[simp] theorem guarded_modify (f : Machine → Machine) :
    (modify f : Procedure Unit).guarded = modify f := rfl

@[simp] theorem guarded_throw (fault : Fault) :
    (throw fault : Procedure α).guarded = throw (.fault fault) := rfl

@[simp] theorem guarded_bind (p : Procedure α) (f : α → Procedure β) :
    (p >>= f).guarded = p.guarded >>= fun a ↦ (f a).guarded := by
  refine ext_run fun m ↦ ?_
  rw [run_guarded, EStateM.run_bind, EStateM.run_bind, run_guarded]
  cases p.run m with
  | ok a after => exact (run_guarded (f a) after).symm
  | error fault after => rfl

@[simp] theorem guarded_ite (c : Prop) [Decidable c] (p q : Procedure α) :
    (if c then p else q).guarded = if c then p.guarded else q.guarded :=
  apply_ite Procedure.guarded c p q

@[simp] theorem guarded_map (f : α → β) (p : Procedure α) :
    (f <$> p).guarded = f <$> p.guarded := by
  rw [map_eq_pure_bind, map_eq_pure_bind, guarded_bind]
  rfl

end Guarded

end ChipEight
