import ArtemisSwitch.Transport
import ArtemisSwitch.Library.Runs
import Mathlib.Data.List.Count

/-!
# Host discovery

`DiscoverManager` scans a list of addresses on a worker thread while the user interface starts,
pauses and resets the scan.  A loop body takes its steps between those of the other threads.
-/

namespace ArtemisSwitch.Discovery
open Runs

variable {α : Type}

/-- Where a worker is.  `launched` is the task that calls `loop`, `queued` the body of the loop
before its first test. -/
inductive Phase (α : Type)
  | launched
  | queued
  | access
  | probing (address : α)
  | increment
  | again
  | ending
  deriving DecidableEq, Repr

/-- Between the first test and the end. -/
def Phase.running : Phase α → Bool
  | .launched | .queued => false
  | _ => true

/-- `probes` are the indices that were probed since the last reset, `records` the addresses that
were probed with those that their hosts were recorded at. -/
structure DiscoverManager (α : Type) where
  addresses : List α := []
  counter : ℕ := 0
  paused : Bool := true
  bodies : List (Phase α) := []
  probes : List ℕ := []
  records : List (α × α) := []
  outOfRange : Bool := false
  deriving DecidableEq, Repr

/-- `found` are the addresses that there are to search, `answers` says whether the host that is
probed answers. -/
inductive Event (α : Type)
  | start (found : List α)
  | pause
  | reset
  | work (i : ℕ) (answers : Bool)

namespace DiscoverManager

def pause (d : DiscoverManager α) : DiscoverManager α := { d with paused := true }

def reset (d : DiscoverManager α) : DiscoverManager α :=
  { d.pause with counter := 0, addresses := [], probes := [] }

def launch (d : DiscoverManager α) : DiscoverManager α :=
  if d.paused then { d with paused := false, bodies := d.bodies ++ [.launched] } else d

def start (found : List α) (d : DiscoverManager α) : DiscoverManager α :=
  if d.addresses.isEmpty then
    if found.isEmpty then { d with addresses := found }
    else launch { d with addresses := found, paused := true }
  else d.launch

/-- The phase behind the test of the loop. -/
def test (d : DiscoverManager α) : Phase α :=
  if d.counter < d.addresses.length ∧ d.paused = false then .access else .ending

/-- The next step of the `i`-th body, which is in `phase`. -/
def work (d : DiscoverManager α) (i : ℕ) (answers : Bool) : Phase α → DiscoverManager α
  | .launched => { d with bodies := d.bodies.set i .queued }
  | .queued | .again => { d with bodies := d.bodies.set i d.test }
  | .access =>
    match d.addresses[d.counter]? with
    | some address =>
      { d with bodies := d.bodies.set i (.probing address), probes := d.probes ++ [d.counter] }
    | none => { d with bodies := d.bodies.eraseIdx i, outOfRange := true }
  | .probing probed =>
    -- the host is recorded at what the counter shows by then
    if answers = false then { d with bodies := d.bodies.set i .increment }
    else
      match d.addresses[d.counter]? with
      | some address =>
        { d with
          bodies := d.bodies.set i .increment, records := d.records ++ [(probed, address)] }
      | none => { d with bodies := d.bodies.eraseIdx i, outOfRange := true }
  | .increment => { d with bodies := d.bodies.set i .again, counter := d.counter + 1 }
  | .ending => { d with bodies := d.bodies.eraseIdx i, paused := true }

def step (d : DiscoverManager α) : Event α → Option (DiscoverManager α)
  | .start found => some (d.start found)
  | .pause => some d.pause
  | .reset => some d.reset
  | .work i answers => d.bodies[i]?.map (d.work i answers)

/-! ## One body at a time -/

/-- What the scan is for: one body runs at a time, it stays in the list, it records what it has
probed, and when it ends with the list it has probed every address once. -/
structure Safe (d : DiscoverManager α) : Prop where
  one : d.bodies.countP Phase.running ≤ 1
  inRange : d.outOfRange = false
  records : ∀ record ∈ d.records, record.2 = record.1
  complete : .ending ∈ d.bodies → d.counter = d.addresses.length →
    ∀ i < d.addresses.length, d.probes.count i = 1

/-- The call starts another body. -/
def Launches (d : DiscoverManager α) (found : List α) : Prop :=
  (d.addresses = [] ∧ found ≠ []) ∨ (d.addresses ≠ [] ∧ d.paused = true)

/-- The body is behind a test that it has passed. -/
def Phase.inside : Phase α → Bool
  | .access | .probing _ | .increment => true
  | _ => false

/-- A body is started when there is none, and the list is reset when none is about to use it. -/
def Allowed (d : DiscoverManager α) : Event α → Prop
  | .start found => d.Launches found → d.bodies = []
  | .reset => d.bodies.all (fun phase => !Phase.inside phase) = true
  | _ => True

instance (d : DiscoverManager α) (event : Event α) : Decidable (d.Allowed event) := by
  cases event <;> unfold Allowed <;> try infer_instance
  unfold Launches
  infer_instance

/-! ## What each step keeps -/

/-- How far the scan is when its one body is in a phase. -/
def At (d : DiscoverManager α) : Phase α → Prop
  | .access => d.counter < d.addresses.length ∧ d.probes = List.range d.counter
  | .probing address =>
    d.addresses[d.counter]? = some address ∧ d.probes = List.range (d.counter + 1)
  | .increment => d.counter < d.addresses.length ∧ d.probes = List.range (d.counter + 1)
  | _ => d.counter ≤ d.addresses.length ∧ d.probes = List.range d.counter

structure Inv (d : DiscoverManager α) : Prop where
  inRange : d.outOfRange = false
  records : ∀ record ∈ d.records, record.2 = record.1
  scan : d.bodies = [] ∧ d.At .again ∨ ∃ phase, d.bodies = [phase] ∧ d.At phase

variable {d t : DiscoverManager α}

lemma safe_of_inv (h : d.Inv) : d.Safe := by
  have hlength : d.bodies.length ≤ 1 := by
    rcases h.scan with ⟨hbodies, -⟩ | ⟨phase, hbodies, -⟩ <;> simp [hbodies]
  refine ⟨Nat.le_trans List.countP_le_length hlength, h.inRange, h.records, ?_⟩
  intro hending hend i hi
  rcases h.scan with ⟨hbodies, -⟩ | ⟨phase, hbodies, hat⟩
  · rw [hbodies] at hending
    cases hending
  · rw [hbodies, List.mem_singleton] at hending
    rw [← hending] at hat
    rw [hat.2, hend]
    exact List.count_eq_one_of_mem List.nodup_range (List.mem_range.mpr hi)

lemma inv_start {found : List α} (h : d.Inv) (hallowed : d.Launches found → d.bodies = []) :
    (d.start found).Inv := by
  -- the scan as it is while there is no body
  have hidle (hnone : d.bodies = []) : d.At .again := by
    rcases h.scan with ⟨-, hat⟩ | ⟨phase, hbodies, -⟩
    · exact hat
    · rw [hnone] at hbodies
      cases hbodies
  unfold start
  split_ifs with hempty hfound
  · have hsame : found = d.addresses := by
      rw [List.isEmpty_iff.mp hempty, List.isEmpty_iff.mp hfound]
    rw [hsame]
    exact h
  · rw [List.isEmpty_iff] at hempty hfound
    have hnone := hallowed (.inl ⟨hempty, hfound⟩)
    obtain ⟨hcounter, hprobes⟩ := hidle hnone
    have hzero : d.counter = 0 := by simpa [hempty] using hcounter
    refine ⟨h.inRange, h.records, .inr ⟨.launched, ?_, ?_⟩⟩
    · show d.bodies ++ [.launched] = [.launched]
      rw [hnone, List.nil_append]
    · exact ⟨Nat.le_trans (Nat.le_of_eq hzero) (Nat.zero_le _), hprobes⟩
  · unfold launch
    split_ifs with hpaused
    · rw [List.isEmpty_iff] at hempty
      have hnone := hallowed (.inr ⟨hempty, hpaused⟩)
      refine ⟨h.inRange, h.records, .inr ⟨.launched, ?_, hidle hnone⟩⟩
      show d.bodies ++ [.launched] = [.launched]
      rw [hnone, List.nil_append]
    · exact h

lemma inv_reset (h : d.Inv) (hallowed : d.Allowed .reset) : d.reset.Inv := by
  refine ⟨h.inRange, h.records, ?_⟩
  rcases h.scan with ⟨hbodies, -⟩ | ⟨phase, hbodies, -⟩
  · exact .inl ⟨hbodies, Nat.le_refl 0, rfl⟩
  · refine .inr ⟨phase, hbodies, ?_⟩
    unfold Allowed at hallowed
    rw [hbodies, List.all_cons, List.all_nil, Bool.and_true] at hallowed
    cases phase with
    | access | probing _ | increment => cases hallowed
    -- the next test ends the body, since the list is empty
    | launched | queued | again | ending => exact ⟨Nat.le_refl 0, rfl⟩

/-- The one body takes its next step. -/
lemma inv_work {i : ℕ} {answers : Bool} {phase : Phase α} (h : d.Inv)
    (hbody : d.bodies[i]? = some phase) : (d.work i answers phase).Inv := by
  rcases h.scan with ⟨hbodies, -⟩ | ⟨phase', hbodies, hat⟩
  · rw [hbodies] at hbody
    cases hbody
  obtain ⟨rfl, rfl⟩ : i = 0 ∧ phase' = phase := by
    rw [hbodies] at hbody
    cases i with
    | zero => exact ⟨rfl, Option.some.inj hbody⟩
    | succ i => cases hbody
  have hset (next : Phase α) : d.bodies.set 0 next = [next] := by
    rw [hbodies]
    rfl
  have hget (hlt : d.counter < d.addresses.length) : ∃ address,
      d.addresses[d.counter]? = some address := ⟨_, List.getElem?_eq_getElem hlt⟩
  have htested (hat : d.At .again) : (d.work 0 answers .again).Inv := by
    refine ⟨h.inRange, h.records, .inr ⟨d.test, hset _, ?_⟩⟩
    unfold test
    split_ifs with hgoes
    · exact ⟨hgoes.1, hat.2⟩
    · exact hat
  cases phase' with
  | launched => exact ⟨h.inRange, h.records, .inr ⟨.queued, hset _, hat⟩⟩
  | queued => exact htested hat
  | again => exact htested hat
  | access =>
    obtain ⟨hlt, hprobes⟩ := hat
    obtain ⟨address, haddress⟩ := hget hlt
    rw [work, haddress]
    refine ⟨h.inRange, h.records, .inr ⟨.probing address, hset _, haddress, ?_⟩⟩
    rw [List.range_succ, ← hprobes]
  | probing probed =>
    obtain ⟨haddress, hprobes⟩ := hat
    have hlt : d.counter < d.addresses.length := (List.getElem?_eq_some_iff.mp haddress).1
    rw [work, haddress]
    split_ifs
    · exact ⟨h.inRange, h.records, .inr ⟨.increment, hset _, hlt, hprobes⟩⟩
    · refine ⟨h.inRange, ?_, .inr ⟨.increment, hset _, hlt, hprobes⟩⟩
      intro record hrecord
      rcases List.mem_append.mp hrecord with hold | hnew
      · exact h.records record hold
      · rw [List.mem_singleton.mp hnew]
  | increment => exact ⟨h.inRange, h.records, .inr ⟨.again, hset _, hat.1, hat.2⟩⟩
  | ending =>
    refine ⟨h.inRange, h.records, .inl ⟨?_, hat⟩⟩
    show d.bodies.eraseIdx 0 = []
    rw [hbodies]
    rfl

theorem inv_step {event : Event α} (h : d.Inv) (hallowed : d.Allowed event)
    (hstep : d.step event = some t) : t.Inv := by
  cases event with
  | start found =>
    cases hstep
    exact inv_start h hallowed
  | pause =>
    cases hstep
    exact ⟨h.inRange, h.records, h.scan⟩
  | reset =>
    cases hstep
    exact inv_reset h hallowed
  | work i answers =>
    obtain ⟨phase, hbody, rfl⟩ := Option.map_eq_some_iff.mp hstep
    exact inv_work h hbody

/-- In every run whose steps are allowed the scan is safe. -/
theorem scan_safe (hrun : Run step Allowed {} d) : d.Safe := by
  apply safe_of_inv
  apply hrun.invariant
  · exact ⟨rfl, nofun, .inl ⟨rfl, Nat.le_refl 0, rfl⟩⟩
  · exact fun t event u h hallowed hstep => inv_step h hallowed hstep

/-- Two addresses, of which the second one answers. -/
def wholeScan : List (Event String) :=
  [.start ["10.0.0.1", "10.0.0.2"], .work 0 false, .work 0 false, .work 0 false, .work 0 false,
    .work 0 false, .work 0 false, .work 0 false, .pause, .work 0 true, .work 0 false, .work 0 false]

def scanned : DiscoverManager String :=
  (exec (guarded step Allowed) {} wholeScan).get (by decide +kernel)

theorem scan_safe_scanned : scanned.Safe :=
  scan_safe (.of_exec_guarded (Option.some_get _).symm)

/-- The scan is paused and started again while its first probe is under way. -/
def restartedScan : List (Event String) :=
  [.start ["10.0.0.1"], .work 0 false, .work 0 false, .work 0 false, .pause,
    .start ["10.0.0.1"], .work 1 false, .work 1 false, .work 1 false]

/-- Two bodies run, and both of them probe the first address. -/
theorem two_bodies_probe :
    ∃ d : DiscoverManager String, Run step (fun _ _ => True) {} d ∧
      d.bodies.countP Phase.running = 2 ∧ d.probes = [0, 0] :=
  ⟨(exec step {} restartedScan).get (by decide +kernel),
    .of_exec (Option.some_get _).symm (by simp), by decide +kernel, by decide +kernel⟩

end DiscoverManager
end ArtemisSwitch.Discovery
