import ArtemisSwitch.ControllerSync
import Mathlib.Algebra.Order.Ring.Abs
import Mathlib.Data.List.Chain
import Mathlib.Data.Rat.Cast.Order
import Mathlib.Tactic.Linarith
import Mathlib.Tactic.Ring

/-!
# Scroll gestures of the desktop mouse

What is forwarded of the scroll events, in ticks on each axis and a rest that is kept, and which
axis a gesture keeps to.
-/

namespace ArtemisSwitch.Input
open Runs

/-! ## Whole ticks -/

/-- `std::trunc`. -/
def truncate (q : ℚ) : ℤ := q.num.tdiv q.den

lemma abs_sub_truncate (q : ℚ) : |q - truncate q| < 1 := by
  have hden : (0 : ℚ) < q.den := by exact_mod_cast q.pos
  have hrest : (q - truncate q) * q.den = (q.num.tmod q.den : ℤ) := by
    have hsplit : (q.num.tmod q.den : ℚ) + q.den * truncate q = q.num := by
      exact_mod_cast Int.tmod_add_mul_tdiv q.num q.den
    have hnum : q * q.den = q.num := Rat.mul_den_eq_num q
    linarith
  have hsmall : |(q.num.tmod q.den : ℤ)| < q.den := by
    rw [Int.abs_eq_natAbs, Int.natAbs_tmod, Int.natAbs_natCast]
    exact_mod_cast Nat.mod_lt _ q.pos
  have habs : |q - truncate q| * q.den < 1 * q.den := by
    rw [one_mul, ← abs_of_pos hden, ← abs_mul, hrest, abs_of_pos hden]
    exact_mod_cast hsmall
  exact lt_of_mul_lt_mul_right habs hden.le

lemma truncate_of_abs_lt_one {q : ℚ} (h : |q| < 1) : truncate q = 0 := by
  have hden : (0 : ℚ) < q.den := by exact_mod_cast q.pos
  have hnum : |(q.num : ℚ)| < q.den := by
    rw [← Rat.mul_den_eq_num q, abs_mul, abs_of_pos hden]
    exact mul_lt_of_lt_one_left hden h
  have hsmall : q.num.natAbs < q.den := by
    have : (q.num.natAbs : ℚ) < q.den := by rwa [Nat.cast_natAbs, Int.cast_abs]
    exact_mod_cast this
  apply Int.natAbs_eq_zero.mp
  rw [truncate, Int.natAbs_tdiv, Int.natAbs_natCast]
  exact Nat.div_eq_of_lt hsmall

/-- What is sent of a distance: whole ticks of 16 bits. -/
def ticksOf (q : ℚ) : ℤ := clampShort (truncate q)

/-- The whole ticks do not fit into 16 bits. -/
def Clamped (q : ℚ) : Prop := ticksOf q ≠ truncate q

instance (q : ℚ) : Decidable (Clamped q) := inferInstanceAs (Decidable (_ ≠ _))

lemma abs_sub_ticksOf (q : ℚ) : |q - ticksOf q| < 1 ∨ Clamped q := by
  by_cases h : ticksOf q = truncate q
  · rw [h]
    exact .inl (abs_sub_truncate q)
  · exact .inr h

lemma ticksOf_of_abs_lt_one {q : ℚ} (h : |q| < 1) : ticksOf q = 0 := by
  rw [ticksOf, truncate_of_abs_lt_one h]
  rfl

lemma toInt_ticksOf (q : ℚ) : (Int16.ofInt (ticksOf q)).toInt = ticksOf q := by
  apply Int16.toInt_ofInt_of_le <;> unfold ticksOf clampShort <;> omega

/-! ## The two wheels -/

inductive Wheel | horizontal | vertical
  deriving DecidableEq

def Wheel.axis : Wheel → DesktopScrollAxis
  | .horizontal => .Horizontal
  | .vertical => .Vertical

def Wheel.other : Wheel → Wheel
  | .horizontal => .vertical
  | .vertical => .horizontal

def Point.along (p : Point Exact) : Wheel → ℚ
  | .horizontal => p.x.val
  | .vertical => p.y.val

/-- The ticks of a call on a wheel. -/
def Send.ticks (wheel : Wheel) : Send Exact → Option ℤ
  | .highResHScroll amount => if wheel = .horizontal then some amount.toInt else none
  | .highResScroll amount => if wheel = .vertical then some amount.toInt else none
  | _ => none

/-- The sum of the ticks that were sent on a wheel. -/
def ticksSent (wheel : Wheel) (calls : List (Send Exact × Int32)) : ℤ :=
  (calls.filterMap fun call => call.1.ticks wheel).sum

/-- There was a tick on a wheel. -/
def Ticked (wheel : Wheel) (calls : List (Send Exact × Int32)) : Prop :=
  ∃ call ∈ calls, (call.1.ticks wheel).isSome

instance (wheel : Wheel) (calls : List (Send Exact × Int32)) : Decidable (Ticked wheel calls) :=
  inferInstanceAs (Decidable (∃ call ∈ calls, (call.1.ticks wheel).isSome = true))

def World.remainder (w : World Exact) (wheel : Wheel) : ℚ :=
  w.manager.desktopScrollRemainder.along wheel

/-- The distance of which whole ticks are sent. -/
def World.due (w : World Exact) (scroll : Point Exact) (wheel : Wheel) : ℚ :=
  w.remainder wheel + scroll.along wheel * MOONLIGHT_WHEEL_DELTA

section Send

variable {results : ℕ → Int32} {w : World Exact} {scroll : Point Exact}

/-- A distance in ticks without the whole ones. -/
def rest (q : ℚ) : Exact :=
  -- the subtraction is made only where ticks are sent
  if ticksOf q ≠ 0 then ⟨q⟩ - lit (ticksOf q : ℚ) else ⟨q⟩

lemma rest_val (q : ℚ) : (rest q).val = q - ticksOf q := by
  unfold rest
  split_ifs with hwhole
  · rfl
  · rw [not_not.mp hwhole]
    exact (sub_zero q).symm

def Wheel.call : Wheel → Int16 → Send Exact
  | .horizontal => .highResHScroll
  | .vertical => .highResScroll

/-- The call for some ticks, the `n`-th of the session. -/
def tickCall (results : ℕ → Int32) (n : ℕ) (wheel : Wheel) (ticks : ℤ) :
    List (Send Exact × Int32) :=
  if ticks ≠ 0 then [(wheel.call (Int16.ofInt ticks), results n)] else []

/-- The calls of a send: one on each wheel that has a whole tick. -/
def tickCalls (results : ℕ → Int32) (n : ℕ) (due : Wheel → ℚ) : List (Send Exact × Int32) :=
  let horizontal := tickCall results n .horizontal (ticksOf (due .horizontal))
  horizontal ++
    tickCall results (n + horizontal.length) .vertical (ticksOf (due .vertical))

/-- What a send does: the whole ticks go out, the rest is kept. -/
lemma sendDesktopMouseScroll_eq :
    sendDesktopMouseScroll results scroll w =
      { manager := { w.manager with
          desktopScrollRemainder :=
            ⟨rest (w.due scroll .horizontal), rest (w.due scroll .vertical)⟩ }
        sent := w.sent ++ tickCalls results w.sent.length (w.due scroll) } := by
  have hx : w.manager.desktopScrollRemainder.x + scroll.x * lit MOONLIGHT_WHEEL_DELTA =
      (⟨w.due scroll .horizontal⟩ : Exact) := rfl
  have hy : w.manager.desktopScrollRemainder.y + scroll.y * lit MOONLIGHT_WHEEL_DELTA =
      (⟨w.due scroll .vertical⟩ : Exact) := rfl
  have hticks : ∀ q : ℚ, clampShort (trunc (⟨q⟩ : Exact)) = ticksOf q := fun _ => rfl
  unfold sendDesktopMouseScroll rest tickCalls tickCall
  dsimp only
  rw [hx, hy]
  simp only [hticks]
  by_cases hh : ticksOf (w.due scroll .horizontal) = 0 <;>
    by_cases hv : ticksOf (w.due scroll .vertical) = 0 <;>
    simp [World.send, Wheel.call, hh, hv]

lemma sendDesktopMouseScroll_remainder (wheel : Wheel) :
    (sendDesktopMouseScroll results scroll w).remainder wheel =
      w.due scroll wheel - ticksOf (w.due scroll wheel) := by
  rw [sendDesktopMouseScroll_eq]
  cases wheel with
  | horizontal => exact rest_val _
  | vertical => exact rest_val _

lemma ticksSent_append (wheel : Wheel) (calls calls' : List (Send Exact × Int32)) :
    ticksSent wheel (calls ++ calls') = ticksSent wheel calls + ticksSent wheel calls' := by
  rw [ticksSent, List.filterMap_append, List.sum_append]
  rfl

lemma ticksSent_tickCall (n : ℕ) (wheel wheel' : Wheel) (q : ℚ) :
    ticksSent wheel (tickCall results n wheel' (ticksOf q)) =
      if wheel = wheel' then ticksOf q else 0 := by
  have hticks := toInt_ticksOf q
  unfold tickCall
  by_cases hzero : ticksOf q = 0
  · simp [hzero, ticksSent]
  · cases wheel <;> cases wheel' <;>
      simp [hzero, ticksSent, Send.ticks, Wheel.call, hticks]

lemma ticksSent_tickCalls (n : ℕ) (wheel : Wheel) (due : Wheel → ℚ) :
    ticksSent wheel (tickCalls results n due) = ticksOf (due wheel) := by
  unfold tickCalls
  dsimp only
  rw [ticksSent_append, ticksSent_tickCall, ticksSent_tickCall]
  cases wheel <;> simp

/-- A tick is sent where there is a whole one. -/
lemma ticked_tickCall {n : ℕ} {wheel wheel' : Wheel} {ticks : ℤ}
    (h : Ticked wheel (tickCall results n wheel' ticks)) : wheel = wheel' ∧ ticks ≠ 0 := by
  obtain ⟨call, hmem, htick⟩ := h
  unfold tickCall at hmem
  split_ifs at hmem with hwhole
  · rw [List.mem_singleton.mp hmem] at htick
    refine ⟨?_, hwhole⟩
    cases wheel <;> cases wheel' <;> first | rfl | cases htick
  · cases hmem

lemma ticked_append {wheel : Wheel} {calls calls' : List (Send Exact × Int32)} :
    Ticked wheel (calls ++ calls') ↔ Ticked wheel calls ∨ Ticked wheel calls' := by
  unfold Ticked
  simp only [List.mem_append, or_and_right, exists_or]

lemma ticked_tickCalls {n : ℕ} {wheel : Wheel} {due : Wheel → ℚ}
    (h : Ticked wheel (tickCalls results n due)) : ticksOf (due wheel) ≠ 0 := by
  rcases ticked_append.mp h with h | h
  · obtain ⟨rfl, hwhole⟩ := ticked_tickCall h
    exact hwhole
  · obtain ⟨rfl, hwhole⟩ := ticked_tickCall h
    exact hwhole

end Send

/-! ## One event -/

structure ScrollEvent where
  now : ℤ
  scroll : Point Exact

/-- The event is mostly vertical. -/
def Dominant (scroll : Point Exact) : Prop :=
  scroll.y != lit 0 ∧ (scroll.x == lit 0 ∨ fabs scroll.x ≤ fabs scroll.y)

instance (scroll : Point Exact) : Decidable (Dominant scroll) :=
  inferInstanceAs (Decidable (_ ∧ _))

/-- The wheel to which an event of a gesture goes, if it is not left out or held back. -/
def Manager.wheelOf (m : Manager Exact) (scroll : Point Exact) : Option Wheel :=
  if Dominant scroll then some .vertical
  else if scroll.x == lit 0 ∨ m.desktopScrollAxis = .Vertical then none
  else if m.desktopScrollAxis = .None ∧ m.pendingHorizontalScrollEvents + 1 < 2 then none
  else some .horizontal

/-- What is forwarded of an event, and what is remembered. -/
def Manager.takeScroll (m : Manager Exact) (scroll : Point Exact) :
    Manager Exact × Option (Point Exact) :=
  if Dominant scroll then
    ({ m with
        desktopScrollAxis := .Vertical
        pendingHorizontalScroll := lit 0
        pendingHorizontalScrollEvents := 0 }, some ⟨lit 0, scroll.y⟩)
  else if scroll.x == lit 0 ∨ m.desktopScrollAxis = .Vertical then (m, none)
  else if m.desktopScrollAxis = .None then
    -- the first event to the side is held back, and the second one takes it along
    if m.pendingHorizontalScrollEvents + 1 < 2 then
      ({ m with
          pendingHorizontalScroll := m.pendingHorizontalScroll + scroll.x
          pendingHorizontalScrollEvents := m.pendingHorizontalScrollEvents + 1 }, none)
    else
      ({ m with
          desktopScrollAxis := .Horizontal
          pendingHorizontalScroll := lit 0
          pendingHorizontalScrollEvents := 0 },
        some ⟨m.pendingHorizontalScroll + scroll.x, lit 0⟩)
  else (m, some ⟨scroll.x, lit 0⟩)

/-- The manager and what is forwarded once an event has come. -/
def World.taken (w : World Exact) (e : ScrollEvent) : Manager Exact × Option (Point Exact) :=
  (w.manager.desktopGesture e.now).takeScroll e.scroll

def scrollStep (results : ℕ → Int32) (w : World Exact) (e : ScrollEvent) : World Exact :=
  handleDesktopMouseScroll results e.now e.scroll w

section Events

variable {results : ℕ → Int32} {w : World Exact} {e : ScrollEvent}

lemma scrollStep_eq : scrollStep results w e =
    match (w.taken e).2 with
    | none => { w with manager := (w.taken e).1 }
    | some scroll => sendDesktopMouseScroll results scroll { w with manager := (w.taken e).1 } := by
  unfold scrollStep handleDesktopMouseScroll World.taken Manager.takeScroll
  by_cases hdominant : Dominant e.scroll
  · rw [if_pos hdominant]
    exact if_pos hdominant
  rw [if_neg hdominant]
  refine (if_neg hdominant).trans ?_
  by_cases hskip : e.scroll.x == lit 0 ∨
      (w.manager.desktopGesture e.now).desktopScrollAxis = .Vertical
  · rw [if_pos hskip, if_pos hskip]
  rw [if_neg hskip, if_neg hskip]
  by_cases hnone : (w.manager.desktopGesture e.now).desktopScrollAxis = .None
  · rw [if_pos hnone, if_pos hnone]
    dsimp only
    split_ifs <;> rfl
  · rw [if_neg hnone, if_neg hnone]

lemma desktopGesture_remainder (m : Manager Exact) (now : ℤ) :
    (m.desktopGesture now).desktopScrollRemainder = m.desktopScrollRemainder ∧
      (m.desktopGesture now).lastDesktopScrollEvent = now := by
  unfold Manager.desktopGesture
  dsimp only
  split_ifs <;> exact ⟨rfl, rfl⟩

lemma takeScroll_keeps (m : Manager Exact) (scroll : Point Exact) :
    (m.takeScroll scroll).1.desktopScrollRemainder = m.desktopScrollRemainder ∧
      (m.takeScroll scroll).1.lastDesktopScrollEvent = m.lastDesktopScrollEvent := by
  unfold Manager.takeScroll
  split_ifs <;> exact ⟨rfl, rfl⟩

/-- Every way in which an event is taken: it is left out, or it goes to one wheel. -/
lemma takeScroll_cases (m : Manager Exact) (scroll : Point Exact) :
    (m.takeScroll scroll).2 = none ∧
        (m.takeScroll scroll).1.desktopScrollAxis = m.desktopScrollAxis ∨
      ∃ wheel forwarded, m.wheelOf scroll = some wheel ∧
        (m.takeScroll scroll).2 = some forwarded ∧ forwarded.along wheel.other = 0 ∧
        (m.takeScroll scroll).1.desktopScrollAxis = wheel.axis := by
  unfold Manager.wheelOf Manager.takeScroll
  by_cases hdominant : Dominant scroll
  · right
    rw [if_pos hdominant, if_pos hdominant]
    exact ⟨.vertical, ⟨lit 0, scroll.y⟩, rfl, rfl, rfl, rfl⟩
  rw [if_neg hdominant, if_neg hdominant]
  by_cases hskip : scroll.x == lit 0 ∨ m.desktopScrollAxis = .Vertical
  · left
    rw [if_pos hskip]
    exact ⟨rfl, rfl⟩
  rw [if_neg hskip, if_neg hskip]
  by_cases hnone : m.desktopScrollAxis = .None
  · rw [if_pos hnone]
    by_cases hpending : m.pendingHorizontalScrollEvents + 1 < 2
    · left
      rw [if_pos hpending]
      exact ⟨rfl, rfl⟩
    · right
      rw [if_neg hpending, if_neg fun h => hpending h.2]
      exact ⟨.horizontal, _, rfl, rfl, rfl, rfl⟩
  · right
    have haxis : m.desktopScrollAxis = .Horizontal := by
      rw [not_or] at hskip
      revert hnone
      cases h : m.desktopScrollAxis with
      | None => exact fun hnone => absurd rfl hnone
      | Vertical => exact absurd h hskip.2
      | Horizontal => exact fun _ => rfl
    rw [if_neg hnone, if_neg fun h => hnone h.1]
    exact ⟨.horizontal, _, rfl, rfl, rfl, haxis⟩

/-! ## What is owed -/

/-- A session with what has been forwarded, and whether the last send was clamped. -/
structure Ledger where
  world : World Exact
  forwarded : Wheel → ℚ := fun _ => 0
  clamped : Wheel → Bool := fun _ => false

def Ledger.next (results : ℕ → Int32) (l : Ledger) (e : ScrollEvent) : Ledger :=
  let world := scrollStep results l.world e
  match (l.world.taken e).2 with
  | none => { l with world := world }
  | some scroll =>
    { world := world
      forwarded := fun wheel => l.forwarded wheel + scroll.along wheel
      clamped := fun wheel => decide (Clamped (l.world.due scroll wheel)) }

/-- Nothing that was forwarded is lost, and less than a tick is held back. -/
structure Balanced (l : Ledger) (wheel : Wheel) : Prop where
  sum : ticksSent wheel l.world.sent + l.world.remainder wheel =
    MOONLIGHT_WHEEL_DELTA * l.forwarded wheel
  small : |l.world.remainder wheel| < 1 ∨ l.clamped wheel = true

lemma taken_remainder (wheel : Wheel) :
    (⟨(w.taken e).1, w.sent⟩ : World Exact).remainder wheel = w.remainder wheel := by
  unfold World.taken World.remainder
  rw [(takeScroll_keeps _ _).1, (desktopGesture_remainder _ _).1]

lemma taken_due (scroll : Point Exact) (wheel : Wheel) :
    (⟨(w.taken e).1, w.sent⟩ : World Exact).due scroll wheel = w.due scroll wheel := by
  rw [World.due, taken_remainder]
  rfl

lemma Ledger.next_world (l : Ledger) :
    (l.next results e).world = scrollStep results l.world e := by
  unfold Ledger.next
  dsimp only
  split <;> rfl

theorem next_balanced {l : Ledger} {wheel : Wheel} (h : Balanced l wheel) :
    Balanced (l.next results e) wheel := by
  unfold Ledger.next
  dsimp only
  rw [scrollStep_eq]
  cases htaken : (l.world.taken e).2 with
  | none =>
    refine ⟨?_, ?_⟩
    · rw [taken_remainder]
      exact h.sum
    · rw [taken_remainder]
      exact h.small
  | some scroll =>
    -- what is not sent of the sum stays in the remainder, whether it is a tick or less
    have hrest := @sendDesktopMouseScroll_remainder results
      ⟨(l.world.taken e).1, l.world.sent⟩ scroll wheel
    rw [taken_due] at hrest
    refine ⟨?_, ?_⟩
    · have hsum := h.sum
      dsimp only
      rw [hrest, sendDesktopMouseScroll_eq]
      dsimp only
      rw [ticksSent_append, ticksSent_tickCalls, taken_due, Int.cast_add, World.due]
      linarith
    · dsimp only
      rw [hrest, decide_eq_true_eq]
      exact abs_sub_ticksOf _

/-- The ledger of a session. -/
def ledger (results : ℕ → Int32) (m : Manager Exact) (now : ℤ) (events : List ScrollEvent) :
    Ledger :=
  events.foldl (Ledger.next results) { world := newSession m now }

theorem ledger_balanced (m : Manager Exact) (now : ℤ) (events : List ScrollEvent)
    (wheel : Wheel) : Balanced (ledger results m now events) wheel := by
  refine List.foldlRecOn (motive := fun l => Balanced l wheel) events _ ?_
    fun l h e _ => next_balanced h
  refine ⟨?_, .inl ?_⟩
  · have hremainder : (newSession m now).remainder wheel = 0 := by cases wheel <;> rfl
    have hsent : ticksSent wheel (newSession m now).sent = 0 := rfl
    rw [hremainder, hsent, mul_zero, Int.cast_zero, add_zero]
  · cases wheel <;> exact abs_zero.trans_lt one_pos

/-! ## The axis of a gesture -/

/-- The calls of a gesture, after the events before it. -/
def gestureCalls (results : ℕ → Int32) (m : Manager Exact) (now : ℤ)
    (before gesture : List ScrollEvent) : List (Send Exact × Int32) :=
  frameCalls (ledger results m now before).world (ledger results m now (before ++ gesture)).world

/-- The event does not turn the gesture to another axis, and no whole tick is left over on the
other wheel. -/
def KeepsLock (w : World Exact) (e : ScrollEvent) : Prop :=
  let gesture := w.manager.desktopGesture e.now
  -- a clock at 0 is taken for no event at all
  e.now ≠ 0 ∧ ¬ (Dominant e.scroll ∧ gesture.desktopScrollAxis = .Horizontal) ∧
    ∀ wheel ∈ gesture.wheelOf e.scroll, |w.remainder wheel.other| < 1

instance : Decidable (KeepsLock w e) := inferInstanceAs (Decidable (_ ∧ _ ∧ _))

lemma wheelOf_axis {m : Manager Exact} {scroll : Point Exact} {wheel : Wheel}
    (hlock : ¬ (Dominant scroll ∧ m.desktopScrollAxis = .Horizontal))
    (h : m.wheelOf scroll = some wheel) :
    m.desktopScrollAxis = .None ∨ wheel.axis = m.desktopScrollAxis := by
  unfold Manager.wheelOf at h
  split_ifs at h with hdominant hskip hpending
  · cases h
    cases haxis : m.desktopScrollAxis with
    | None => exact .inl rfl
    | Horizontal => exact absurd ⟨hdominant, haxis⟩ hlock
    | Vertical => exact .inr rfl
  · cases h
    cases haxis : m.desktopScrollAxis with
    | None => exact .inl rfl
    | Horizontal => exact .inr rfl
    | Vertical => exact absurd (.inr haxis) hskip

/-- An event that keeps the lock has its ticks on the axis of the gesture. -/
lemma scrollStep_locked (h : KeepsLock w e) :
    ∃ calls, (scrollStep results w e).sent = w.sent ++ calls ∧
      (∀ wheel, Ticked wheel calls →
        (scrollStep results w e).manager.desktopScrollAxis = wheel.axis) ∧
      ((w.manager.desktopGesture e.now).desktopScrollAxis = .None ∨
        (scrollStep results w e).manager.desktopScrollAxis =
          (w.manager.desktopGesture e.now).desktopScrollAxis) := by
  obtain ⟨-, hlock, hwhole⟩ := h
  rw [scrollStep_eq]
  rcases takeScroll_cases (w.manager.desktopGesture e.now) e.scroll with
    ⟨hout, haxis⟩ | ⟨wheel, forwarded, hwheel, hout, halong, haxis⟩
  · rw [World.taken, hout]
    refine ⟨[], (List.append_nil _).symm, ?_, .inr haxis⟩
    rintro wheel ⟨call, hmem, -⟩
    cases hmem
  · rw [World.taken, hout]
    dsimp only
    rw [sendDesktopMouseScroll_eq]
    refine ⟨_, rfl, fun other hticked => ?_, ?_⟩
    · have hticks := ticked_tickCalls hticked
      -- nothing is added on the other wheel, and what is left there is less than a tick
      have hother : other ≠ wheel.other := by
        rintro rfl
        have hrest := hwhole wheel hwheel
        have hdue : w.due forwarded wheel.other = w.remainder wheel.other := by
          rw [World.due, halong, zero_mul, add_zero]
        rw [← hdue, ← taken_due (e := e)] at hrest
        exact hticks (ticksOf_of_abs_lt_one hrest)
      have hsame : other = wheel := by
        cases other <;> cases wheel <;> first | rfl | exact absurd rfl hother
      rw [hsame]
      exact haxis
    · rcases wheelOf_axis hlock hwheel with hnone | hsame
      · exact .inl hnone
      · exact .inr (haxis.trans hsame)

lemma scrollStep_last : (scrollStep results w e).manager.lastDesktopScrollEvent = e.now := by
  have htaken : (w.taken e).1.lastDesktopScrollEvent = e.now := by
    rw [World.taken, (takeScroll_keeps _ _).2, (desktopGesture_remainder _ _).2]
  rw [scrollStep_eq]
  cases (w.taken e).2 with
  | none => exact htaken
  | some scroll =>
    dsimp only
    rw [sendDesktopMouseScroll_eq]
    exact htaken

/-- Events of one gesture find the axis as it was. -/
lemma desktopGesture_axis {m : Manager Exact} {now : ℤ} (hlast : m.lastDesktopScrollEvent ≠ 0)
    (hnear : now - m.lastDesktopScrollEvent ≤ DESKTOP_SCROLL_GESTURE_TIMEOUT) :
    (m.desktopGesture now).desktopScrollAxis = m.desktopScrollAxis := by
  unfold Manager.desktopGesture
  rw [if_neg fun h => h.elim hlast (not_lt.mpr hnear)]

/-- No two neighbours are more than the timeout apart. -/
def Gesture (events : List ScrollEvent) : Prop :=
  events.IsChain fun a b => b.now - a.now ≤ DESKTOP_SCROLL_GESTURE_TIMEOUT

def scrollAll (results : ℕ → Int32) (w : World Exact) (events : List ScrollEvent) : World Exact :=
  events.foldl (scrollStep results) w

lemma ticked_nil {wheel : Wheel} : ¬ Ticked wheel [] := by
  rintro ⟨call, hmem, -⟩
  cases hmem

/-- The next event of a gesture finds the axis as the last one left it. -/
lemma gesture_axis {gesture : List ScrollEvent} {last : ScrollEvent}
    (h : allowed (scrollStep results) KeepsLock w (gesture ++ [last]) = true)
    (hnear : e.now - last.now ≤ DESKTOP_SCROLL_GESTURE_TIMEOUT) :
    let after := (scrollAll results w (gesture ++ [last])).manager
    (after.desktopGesture e.now).desktopScrollAxis = after.desktopScrollAxis := by
  intro after
  have hlast : after.lastDesktopScrollEvent = last.now := by
    change (scrollAll results w (gesture ++ [last])).manager.lastDesktopScrollEvent = _
    rw [scrollAll, List.foldl_concat]
    exact scrollStep_last
  rw [allowed_append, Bool.and_eq_true, allowed, Bool.and_eq_true, decide_eq_true_eq] at h
  apply desktopGesture_axis
  · rw [hlast]
    exact h.2.1.1
  · rw [hlast]
    exact hnear

/-- The run lemma of a gesture: where there was a tick, there the axis is. -/
lemma gesture_locked {gesture : List ScrollEvent}
    (h : allowed (scrollStep results) KeepsLock w gesture = true) (hgesture : Gesture gesture) :
    ∃ calls, (scrollAll results w gesture).sent = w.sent ++ calls ∧ ∀ wheel, Ticked wheel calls →
      (scrollAll results w gesture).manager.desktopScrollAxis = wheel.axis := by
  induction gesture using List.reverseRecOn with
  | nil => exact ⟨[], (List.append_nil _).symm, fun wheel hticked => absurd hticked ticked_nil⟩
  | append_singleton gesture e ih =>
    rw [allowed_append, Bool.and_eq_true, allowed, Bool.and_eq_true, decide_eq_true_eq] at h
    obtain ⟨hbefore, hkeeps, -⟩ := h
    obtain ⟨hchain, -, hnear⟩ := List.isChain_append.mp hgesture
    obtain ⟨calls, hsent, haxis⟩ := ih hbefore hchain
    obtain ⟨calls', hsent', hticked', haxis'⟩ := @scrollStep_locked results _ _ hkeeps
    refine ⟨calls ++ calls', ?_, fun wheel hticked => ?_⟩
    · rw [scrollAll, List.foldl_concat, hsent', ← List.append_assoc, ← hsent]
      rfl
    rw [scrollAll, List.foldl_concat]
    rcases ticked_append.mp hticked with hticked | hticked
    · -- a tick of an earlier event: the axis is set, and it stays
      rcases List.eq_nil_or_concat' gesture with rfl | ⟨init, last, rfl⟩
      · have hnone : calls = [] := List.append_right_eq_self.mp hsent.symm
        rw [hnone] at hticked
        exact absurd hticked ticked_nil
      have hkept := gesture_axis (e := e) hbefore
        (hnear last (by rw [List.getLast?_concat]; rfl) e rfl)
      have hset := haxis wheel hticked
      rcases haxis' with hnone | hsame
      · have : wheel.axis = .None := by rw [← hset, ← hkept]; exact hnone
        cases wheel <;> cases this
      · exact hsame.trans (hkept.trans hset)
    · exact hticked' wheel hticked

lemma ledger_world (m : Manager Exact) (now : ℤ) (events : List ScrollEvent) :
    (ledger results m now events).world = scrollAll results (newSession m now) events := by
  induction events using List.reverseRecOn with
  | nil => rfl
  | append_singleton events e ih =>
    rw [ledger, scrollAll, List.foldl_concat, List.foldl_concat, Ledger.next_world]
    exact congrArg (scrollStep results · e) ih

/-- A gesture whose events keep the lock ticks on one axis, and no scroll is lost. -/
theorem gesture_keeps_axis (results : ℕ → Int32) (m : Manager Exact) (now : ℤ)
    (before gesture : List ScrollEvent)
    (hkeeps : allowed (scrollStep results) KeepsLock (newSession m now) (before ++ gesture) = true)
    (hgesture : Gesture gesture) :
    (∀ wheel wheel', Ticked wheel (gestureCalls results m now before gesture) →
      Ticked wheel' (gestureCalls results m now before gesture) → wheel = wheel') ∧
    ∀ wheel, Balanced (ledger results m now (before ++ gesture)) wheel := by
  refine ⟨?_, ledger_balanced m now (before ++ gesture)⟩
  rw [allowed_append, Bool.and_eq_true] at hkeeps
  obtain ⟨calls, hsent, haxis⟩ := @gesture_locked results _ _ hkeeps.2 hgesture
  have hcalls : gestureCalls results m now before gesture = calls := by
    rw [gestureCalls, frameCalls, ledger_world, ledger_world]
    unfold scrollAll at hsent ⊢
    rw [List.foldl_append, hsent, List.drop_left]
  rw [hcalls]
  intro wheel wheel' hticked hticked'
  have hsame : wheel.axis = wheel'.axis := (haxis wheel hticked).symm.trans (haxis wheel' hticked')
  cases wheel <;> cases wheel' <;> first | rfl | cases hsame

end Events

/-- Two events to the side, and one that is mostly upwards. -/
def sideways : List ScrollEvent := [⟨1, ⟨lit 1, lit 0⟩⟩, ⟨2, ⟨lit 1, lit 0⟩⟩]

def upwards : ScrollEvent := ⟨3, ⟨lit 0, lit 1⟩⟩

theorem gesture_keeps_axis_sideways :
    (∀ wheel wheel',
      Ticked wheel (gestureCalls (fun _ => 0) (.initial plainMapping 0) 0 [] sideways) →
      Ticked wheel' (gestureCalls (fun _ => 0) (.initial plainMapping 0) 0 [] sideways) →
        wheel = wheel') ∧
    ∀ wheel, Balanced (ledger (fun _ => 0) (.initial plainMapping 0) 0 ([] ++ sideways)) wheel :=
  gesture_keeps_axis (fun _ => 0) (.initial plainMapping 0) 0 [] sideways (by decide +kernel)
    (by unfold Gesture sideways; decide)

/-- The gesture is locked to the horizontal axis, and an upward event turns it. -/
theorem upwards_turns :
    Gesture (sideways ++ [upwards]) ∧
    Ticked .horizontal
      (gestureCalls (fun _ => 0) (.initial plainMapping 0) 0 [] (sideways ++ [upwards])) ∧
    Ticked .vertical
      (gestureCalls (fun _ => 0) (.initial plainMapping 0) 0 [] (sideways ++ [upwards])) := by
  refine ⟨by unfold Gesture sideways upwards; decide, ?_, ?_⟩ <;> decide +kernel

end ArtemisSwitch.Input
