import ChipEight.Keypad
import Mathlib
import Mathlib.Data.List.Induction

/-!
# How long a key is held

A key is pressed by a report and released when there has been no report for too long, and the calls
that press and release come in any order, with any times. This file says which keys are pressed
after such calls without following them: a key is pressed exactly if it was reported, and no release
since the last report came too late after it.

The keyboard remembers a time for each key and the machine whether the key is pressed. Of a single
key that is all there is to know, and a call changes it only if it concerns the key, in a way that
depends on nothing else (`HeldKeys.status_call`). The law follows by induction on the calls.
-/

namespace ChipEight

/-!
## The last occurrence

What a list of events leaves often depends on one of them alone: on the last one of its kind that no
later event has undone. Statements of this form are proved event by event, from the end of the list.
-/

section

variable {α β : Type*} {f : β → α} {P : List α → β → Prop} {Q : β → α → Prop} {l : List α} {c : α}

/-- One more event is the last of its kind itself, or the last one is where it was before, as long
as the new event does not undo it. -/
theorem exists_last_concat :
    (∃ before b since, l ++ [c] = before ++ f b :: since ∧ P before b ∧ ∀ a ∈ since, Q b a) ↔
      (∃ b, c = f b ∧ P l b) ∨
      ∃ before b since, l = before ++ f b :: since ∧ P before b ∧ (∀ a ∈ since, Q b a) ∧ Q b c := by
  constructor
  · rintro ⟨before, b, since, hsplit, hb, hsince⟩
    rcases List.eq_nil_or_concat since with rfl | ⟨since, last, rfl⟩
    · obtain ⟨rfl, hc⟩ := List.append_inj' hsplit rfl
      exact .inl ⟨b, List.singleton_inj.mp hc, hb⟩
    · rw [List.concat_eq_append, ← List.cons_append, ← List.append_assoc] at hsplit
      obtain ⟨rfl, hc⟩ := List.append_inj' hsplit rfl
      obtain rfl := List.singleton_inj.mp hc
      exact .inr ⟨before, b, since, rfl, hb, fun a ha ↦ hsince a (by simp [ha]),
        hsince c (by simp)⟩
  · rintro (⟨b, rfl, hb⟩ | ⟨before, b, since, rfl, hb, hsince, hc⟩)
    · exact ⟨l, b, [], rfl, hb, by simp⟩
    · refine ⟨before, b, since ++ [c], by simp, hb, fun a ha ↦ ?_⟩
      rcases List.mem_append.mp ha with ha | ha
      · exact hsince a ha
      · exact List.mem_singleton.mp ha ▸ hc

end

namespace Keypad

/-- A key of the keyboard stands for the key of the machine that the layout has beside its
character. -/
theorem ofKey?_eq_some_iff {key : Key} {k : Nibble} :
    ofKey? key = some k ↔ ∃ c, key = .char c ∧ (c.toLower, k) ∈ layout.flatten := by
  -- no character is in the layout twice
  have hfunctional : ∀ a ∈ layout.flatten, ∀ b ∈ layout.flatten, a.1 = b.1 → a = b := by decide
  cases key with
  | char c =>
    rw [ofKey?, ofChar?, Option.map_eq_some_iff]
    constructor
    · rintro ⟨cell, hfind, rfl⟩
      have hchar : cell.1 = c.toLower := by simpa using List.find?_some hfind
      exact ⟨c, rfl, hchar ▸ List.mem_of_find?_eq_some hfind⟩
    · rintro ⟨_, hc, hmem⟩
      obtain rfl := Key.char.inj hc
      cases hfind : layout.flatten.find? fun cell ↦ cell.1 == c.toLower with
      | none => exact absurd (List.find?_eq_none.mp hfind _ hmem) (by simp)
      | some cell =>
        have hchar : cell.1 = c.toLower := by simpa using List.find?_some hfind
        obtain rfl := hfunctional cell (List.mem_of_find?_eq_some hfind) _ hmem hchar
        exact ⟨_, rfl, rfl⟩
  | _ => simp [ofKey?]

theorem get_set {α : Type} (xs : Vector α 16) (key k : Nibble) (a : α) :
    (xs.set key.val a key.lt).get k = if key = k then a else xs.get k := by
  simp [Vector.get_eq_getElem, Vector.getElem_set, Fin.ext_iff]

end Keypad

namespace HeldKeys

/-- What the keys are told, at a time. -/
inductive Call where
  /-- A key of the keyboard was reported. -/
  | press (key : Key) (now : Nat)
  /-- The keys are to be released that have not been reported for too long. -/
  | releaseExpired (now : Nat)
  deriving DecidableEq

/-- The held keys and the machine after a call. -/
def call (s : HeldKeys × Machine) : Call → HeldKeys × Machine
  | .press key now => s.1.press s.2 key now
  | .releaseExpired now => s.1.releaseExpired s.2 now

def callAll (calls : List Call) (s : HeldKeys × Machine) : HeldKeys × Machine := calls.foldl call s

/-- Whether a call concerns a key of the machine: a report that stands for it, or any release. -/
def Call.concerns (k : Nibble) : Call → Bool
  | .press key _ => Keypad.ofKey? key = some k
  | .releaseExpired _ => true

/-- Whether a call decides anew about a key that was reported at the time `seen`: another report of
the key, or a release that comes more than `releaseAfter` later. A release at a time before `seen`
is not late. -/
def Call.Settles (releaseAfter : Nat) (k : Nibble) (seen : Nat) : Call → Prop
  | .press key _ => Keypad.ofKey? key = some k
  | .releaseExpired now => releaseAfter < now - seen

instance decidableSettles (releaseAfter : Nat) (k : Nibble) (seen : Nat) :
    DecidablePred (Call.Settles releaseAfter k seen)
  | .press key _ => inferInstanceAs (Decidable (Keypad.ofKey? key = some k))
  | .releaseExpired now => inferInstanceAs (Decidable (releaseAfter < now - seen))

/-- A key of the machine was reported at the time `seen`, and no later call has decided about it. -/
def HeldSince (releaseAfter : Nat) (calls : List Call) (k : Nibble) (seen : Nat) : Prop :=
  ∃ before key since, calls = before ++ .press key seen :: since ∧ Keypad.ofKey? key = some k ∧
    ∀ c ∈ since, ¬c.Settles releaseAfter k seen

variable {h : HeldKeys} {m : Machine} {k : Nibble} {key : Key} {now seen releaseAfter : Nat}
  {calls : List Call} {s t : HeldKeys × Machine}

/-! ## A single key -/

theorem isExpired_iff : h.isExpired now k = true ↔
    ∃ seen, h.lastSeen.get k = some seen ∧ h.releaseAfter < now - seen := by
  rw [isExpired]
  cases h.lastSeen.get k <;> simp

/-- All there is to know of a key: whether it is pressed, and when it was reported. -/
def status (k : Nibble) (s : HeldKeys × Machine) : Bool × Option Nat :=
  (s.2.isPressed k, s.1.lastSeen.get k)

theorem press_of_none (h : HeldKeys) (m : Machine) (now : Nat) (hkey : Keypad.ofKey? key = none) :
    h.press m key now = (h, m) := by
  rw [press, press?, hkey]
  rfl

theorem status_press (s : HeldKeys × Machine) (k : Nibble) (key : Key) (now : Nat) :
    status k (call s (.press key now))
      = if Keypad.ofKey? key = some k then (true, some now) else status k s := by
  cases hkey : Keypad.ofKey? key with
  | none =>
    rw [call, press_of_none _ _ _ hkey]
    rfl
  | some pressed =>
    rw [call, press, press?, hkey]
    simp only [status, Machine.isPressed, Machine.setKey, Option.map_some, Option.getD_some,
      Keypad.get_set, Option.some.injEq]
    split <;> rfl

theorem status_releaseExpired (s : HeldKeys × Machine) (k : Nibble) (now : Nat) :
    status k (call s (.releaseExpired now))
      = if s.1.isExpired now k then (false, none) else status k s := by
  simp only [status, call, releaseExpired, Machine.isPressed, Vector.get_ofFn]
  cases s.1.isExpired now k <;> rfl

theorem status_call_of_not_concerns {c : Call} (hc : c.concerns k = false) :
    status k (call s c) = status k s := by
  cases c with
  | press key now =>
    rw [status_press, if_neg]
    simpa [Call.concerns] using hc
  | releaseExpired now => cases hc

theorem releaseAfter_call (s : HeldKeys × Machine) (c : Call) :
    (call s c).1.releaseAfter = s.1.releaseAfter := by
  cases c with
  | press key now =>
    rw [call, press, press?]
    cases Keypad.ofKey? key <;> rfl
  | releaseExpired now => rfl

/-- What a call does to a key depends on nothing but this key. -/
theorem status_call (hrelease : s.1.releaseAfter = t.1.releaseAfter)
    (hst : status k s = status k t) (c : Call) : status k (call s c) = status k (call t c) := by
  cases c with
  | press key now => rw [status_press, status_press, hst]
  | releaseExpired now =>
    have hseen : s.1.lastSeen.get k = t.1.lastSeen.get k := congrArg Prod.snd hst
    rw [status_releaseExpired, status_releaseExpired, isExpired, isExpired, hseen, hrelease, hst]

/-! ## Many calls -/

theorem status_callAll_filter (calls : List Call) (k : Nibble)
    (hrelease : s.1.releaseAfter = t.1.releaseAfter) (hst : status k s = status k t) :
    status k (callAll (calls.filter (·.concerns k)) s) = status k (callAll calls t) := by
  induction calls generalizing s t with
  | nil => exact hst
  | cons c calls ih =>
    rw [callAll, callAll, List.foldl_cons, List.filter_cons]
    cases hc : c.concerns k with
    | true =>
      refine ih ?_ (status_call hrelease hst c)
      rw [releaseAfter_call, releaseAfter_call, hrelease]
    | false =>
      refine ih ?_ ?_
      · rw [releaseAfter_call, hrelease]
      · rw [status_call_of_not_concerns hc, hst]

theorem callAll_concat (calls : List Call) (c : Call) (s : HeldKeys × Machine) :
    callAll (calls ++ [c]) s = call (callAll calls s) c :=
  List.foldl_append

theorem releaseAfter_callAll (calls : List Call) (s : HeldKeys × Machine) :
    (callAll calls s).1.releaseAfter = s.1.releaseAfter := by
  induction calls using List.reverseRecOn with
  | nil => rfl
  | append_singleton calls c ih => rw [callAll_concat, releaseAfter_call, ih]

/-- One more call makes a key held that it reports, and leaves a key held that it does not
settle. -/
theorem heldSince_concat {c : Call} :
    HeldSince releaseAfter (calls ++ [c]) k seen ↔
      (∃ key, c = .press key seen ∧ Keypad.ofKey? key = some k) ∨
      HeldSince releaseAfter calls k seen ∧ ¬c.Settles releaseAfter k seen := by
  have hlast := exists_last_concat (l := calls) (c := c) (f := fun key ↦ Call.press key seen)
    (P := fun _ key ↦ Keypad.ofKey? key = some k)
    (Q := fun _ other ↦ ¬other.Settles releaseAfter k seen)
  simpa only [HeldSince, ← and_assoc, exists_and_right] using hlast

/-- What is known of a key after some calls: it is pressed if a time is known at which it was
reported, and that is the one it has been held since. -/
structure Tracks (s : HeldKeys × Machine) (calls : List Call) (k : Nibble) : Prop where
  pressed : (status k s).1 = (status k s).2.isSome
  lastSeen : ∀ seen, (status k s).2 = some seen ↔ HeldSince s.1.releaseAfter calls k seen

theorem Tracks.call (h : Tracks s calls k) (c : Call) : Tracks (call s c) (calls ++ [c]) k := by
  cases c with
  | press key now =>
    by_cases hkey : Keypad.ofKey? key = some k
    · refine ⟨by rw [status_press, if_pos hkey]; rfl, fun seen ↦ ?_⟩
      rw [status_press, if_pos hkey, releaseAfter_call, heldSince_concat]
      simp [Call.Settles, hkey]
    · refine ⟨by rw [status_press, if_neg hkey]; exact h.pressed, fun seen ↦ ?_⟩
      rw [status_press, if_neg hkey, releaseAfter_call, heldSince_concat, h.lastSeen]
      simp [Call.Settles, hkey]
  | releaseExpired now =>
    by_cases hexpired : s.1.isExpired now k = true
    · obtain ⟨seen, hseen, hlate⟩ := isExpired_iff.mp hexpired
      refine ⟨by rw [status_releaseExpired, if_pos hexpired]; rfl, fun other ↦ ?_⟩
      rw [status_releaseExpired, if_pos hexpired, releaseAfter_call, heldSince_concat, ← h.lastSeen]
      constructor
      · nofun
      · rintro (⟨key, hcall, -⟩ | ⟨hother, hearly⟩)
        · cases hcall
        · obtain rfl := Option.some.inj (hseen.symm.trans hother)
          exact absurd hlate hearly
    · refine ⟨by rw [status_releaseExpired, if_neg hexpired]; exact h.pressed, fun seen ↦ ?_⟩
      rw [status_releaseExpired, if_neg hexpired, releaseAfter_call, heldSince_concat, ← h.lastSeen]
      constructor
      · intro hseen
        exact .inr ⟨hseen, fun hlate ↦ hexpired (isExpired_iff.mpr ⟨seen, hseen, hlate⟩)⟩
      · rintro (⟨key, hcall, -⟩ | ⟨hseen, -⟩)
        · cases hcall
        · exact hseen

theorem tracks_callAll {m : Machine} (hm : ∀ k, m.isPressed k = false) (releaseAfter : Nat)
    (calls : List Call) (k : Nibble) : Tracks (callAll calls (empty releaseAfter, m)) calls k := by
  induction calls using List.reverseRecOn with
  | nil =>
    have hstatus : status k (callAll [] (empty releaseAfter, m)) = (false, none) := by
      simp [status, callAll, empty, hm]
    refine ⟨by rw [hstatus]; rfl, fun seen ↦ ?_⟩
    rw [hstatus]
    simp [HeldSince]
  | append_singleton calls c ih =>
    rw [callAll_concat]
    exact ih.call c

/-- **How long a key is held.** Let no key be pressed and none have been reported. After any reports
and releases, at any times, a key of the machine is pressed exactly if it was reported at a time
`seen`, was not reported again, and no release since came more than `releaseAfter` later than
`seen`. What becomes of it is the same without all reports of other keys.

A key of the keyboard stands for a key of the machine if that is what the layout says of it, in
either case. Other keys are refused, and reporting them changes nothing. -/
theorem pressed_iff_heldSince {m : Machine} (hm : ∀ k, m.isPressed k = false)
    (releaseAfter : Nat) (calls : List Call) (k : Nibble) :
    ((callAll calls (empty releaseAfter, m)).2.isPressed k = true ↔
      ∃ seen, HeldSince releaseAfter calls k seen) ∧
    status k (callAll (calls.filter (·.concerns k)) (empty releaseAfter, m))
      = status k (callAll calls (empty releaseAfter, m)) ∧
    (∀ key other, Keypad.ofKey? key = some other ↔
      ∃ c, key = .char c ∧ (c.toLower, other) ∈ Keypad.layout.flatten) ∧
    ∀ (h : HeldKeys) (n : Machine) (key : Key) (now : Nat),
      (h.press? n key now).isSome = (Keypad.ofKey? key).isSome ∧
      (Keypad.ofKey? key = none → h.press n key now = (h, n)) := by
  have htracks := tracks_callAll hm releaseAfter calls k
  refine ⟨?_, status_callAll_filter calls k rfl rfl, fun key other ↦ Keypad.ofKey?_eq_some_iff,
    fun h n key now ↦ ⟨Option.isSome_map, press_of_none h n now⟩⟩
  have hpressed : (callAll calls (empty releaseAfter, m)).2.isPressed k
      = (status k (callAll calls (empty releaseAfter, m))).2.isSome := htracks.pressed
  have hrelease : (callAll calls (empty releaseAfter, m)).1.releaseAfter = releaseAfter :=
    releaseAfter_callAll calls _
  rw [hpressed, Option.isSome_iff_exists]
  refine exists_congr fun seen ↦ ?_
  rw [htracks.lastSeen, hrelease]

/-- Two keys of the machine and one that is none, and releases before, at and after the time when
the first of them is due. -/
def twoKeys : List Call :=
  [.press (.char 'w') 100, .press (.char 'Q') 120, .releaseExpired 90, .press (.char 'p') 130,
    .releaseExpired 150, .releaseExpired 151]

/-- The first key is no longer held, and the second one is. -/
theorem pressed_iff_heldSince_twoKeys :
    (callAll twoKeys (empty 50, Machine.powerOn ⟨0, 0⟩)).2.isPressed (.ofNat 4) = true ∧
      ¬∃ seen, HeldSince 50 twoKeys (.ofNat 5) seen := by
  have hm : ∀ k, (Machine.powerOn ⟨0, 0⟩).isPressed k = false := by decide +kernel
  constructor
  · refine (pressed_iff_heldSince hm 50 twoKeys (.ofNat 4)).1.mpr ⟨120, ?_⟩
    exact ⟨[.press (.char 'w') 100], .char 'Q', _, rfl, by decide, by decide⟩
  · refine mt (pressed_iff_heldSince hm 50 twoKeys (.ofNat 5)).1.mpr ?_
    decide +kernel

end HeldKeys

end ChipEight
