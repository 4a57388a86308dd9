import Mathlib.Data.Int.Basic
import ArtemisSwitch.Library.Runs
import ArtemisSwitch.Transport

/-!
# Advertising the home region and the endpoints

`TailscaleCore` keeps a region hint and the published endpoints under
`advertiseMutex_`; its worker samples them for the first request of a control
session, and every later change is sent as a Hostinfo update.  Every write on an
open session succeeds.
-/

namespace ArtemisSwitch.HomeDerp
open Runs

abbrev Endpoints := List Bytes

/-- What a map request tells control about this node; no region is 0. -/
structure MapRequestData where
  stream : Bool
  omitPeers : Bool
  preferredDerp : ℤ
  endpoints : Endpoints
  deriving DecidableEq, Repr

/-- Where the worker is in `runControlSession`; `handled` counts the map frames of the session. -/
inductive Worker
  | between
  | sampled (hint : ℤ)
  | requested (hint : ℤ)
  | polling (handled : ℕ)
  | defaulting (handled : ℕ)
  deriving DecidableEq, Repr

structure Core where
  homeDerpHint : ℤ
  savedHint : Option ℤ
  advertisedDerp : ℤ
  controlConnected : Bool
  publishedEndpoints : Endpoints
  localEndpoints : Endpoints
  initialPreferredDerp : ℤ
  /-- The last request of the current session. -/
  sent : Option MapRequestData
  worker : Worker
  deriving DecidableEq, Repr

def loadHomeDerpHint : Option ℤ → ℤ
  | none => 0
  | some region => if region ≤ 0 ∨ 65535 < region then 0 else region

/-- The core before its first session; `saved` is what the sidecar file holds. -/
def Core.initial (saved : Option ℤ) : Core where
  homeDerpHint := loadHomeDerpHint saved
  savedHint := saved
  advertisedDerp := 0
  controlConnected := false
  publishedEndpoints := []
  localEndpoints := []
  initialPreferredDerp := 0
  sent := none
  worker := .between

namespace Core

def sendHostinfoUpdate (s : Core) (preferredDerp : ℤ) : Core :=
  { s with sent := some (⟨false, true, preferredDerp, s.localEndpoints⟩ : MapRequestData) }

def advertiseHomeDerp (s : Core) (region : ℤ) : Core :=
  if region ≤ 0 then s
  else
    let s := if region ≠ s.homeDerpHint then
        { s with homeDerpHint := region, savedHint := some region } else s
    if s.controlConnected = false then s
    else if region = s.advertisedDerp then s
    else { s.sendHostinfoUpdate region with advertisedDerp := region }

/-- `setLocalEndpoints` is the one effect that `connect` can see before the lock is released. -/
def publishEndpoints (s : Core) (endpoints : Endpoints) : Core :=
  if endpoints = s.publishedEndpoints then s
  else
    let s := { s with publishedEndpoints := endpoints, localEndpoints := endpoints }
    if s.controlConnected = false ∨ s.advertisedDerp ≤ 0 then s
    else s.sendHostinfoUpdate s.advertisedDerp

inductive Action
  | advertise (region : ℤ)
  | publish (endpoints : Endpoints)
  /-- The worker reads the hint. -/
  | sample
  /-- `connect` reads the endpoints and sends the streaming request. -/
  | request
  | connectFails
  /-- `connect` has returned, the session counts as connected. -/
  | connected
  /-- One map frame, up to the check of `advertiseDefault`. -/
  | frame
  /-- The region that `chooseDefaultHomeDerp` picked. -/
  | default (region : ℤ)
  | drop
  deriving DecidableEq, Repr

def step (s : Core) : Action → Option Core
  | .advertise region => some (s.advertiseHomeDerp region)
  | .publish endpoints => some (s.publishEndpoints endpoints)
  | .sample =>
    match s.worker with
    | .between =>
      some { s with
        initialPreferredDerp := if 0 < s.homeDerpHint then s.homeDerpHint else 0
        sent := none
        worker := .sampled s.homeDerpHint }
    | _ => none
  | .request =>
    match s.worker with
    | .sampled hint =>
      some { s with
        sent := some (⟨true, false, s.initialPreferredDerp, s.localEndpoints⟩ : MapRequestData)
        worker := .requested hint }
    | _ => none
  | .connectFails =>
    match s.worker with
    | .sampled _ | .requested _ => some { s with worker := .between }
    | _ => none
  | .connected =>
    match s.worker with
    | .requested hint =>
      some { s with advertisedDerp := hint, controlConnected := true, worker := .polling 0 }
    | _ => none
  | .frame =>
    match s.worker with
    | .polling handled =>
      if s.advertisedDerp ≠ 0 then some { s with worker := .polling (handled + 1) }
      else some { s with worker := .defaulting handled }
    | _ => none
  | .default region =>
    match s.worker with
    | .defaulting handled =>
      some { s.advertiseHomeDerp region with worker := .polling (handled + 1) }
    | _ => none
  | .drop =>
    match s.worker with
    | .polling _ => some { s with controlConnected := false, worker := .between }
    | _ => none

/-- The map frames of the current session that have been handled. -/
def handled (s : Core) : ℕ :=
  match s.worker with
  | .polling handled | .defaulting handled => handled
  | _ => 0

/-- Control knows the region and, with a region, the endpoints. -/
def Advertised (s : Core) : Prop :=
  ∃ request, s.sent = some request ∧ request.preferredDerp = s.homeDerpHint ∧
    (0 < s.advertisedDerp → request.endpoints = s.publishedEndpoints)

/-- A session on which control knows what the core knows. -/
def Synced (s : Core) : Prop :=
  s.controlConnected = true ∧ s.advertisedDerp = s.homeDerpHint ∧ s.Advertised

/-- While a session is being set up, no call changes what was sampled for it. -/
def OutsideConnect (s : Core) : Action → Prop
  | .advertise region => region ≤ 0 ∨ region = s.homeDerpHint ∨
      ∀ hint, s.worker ≠ .sampled hint ∧ s.worker ≠ .requested hint
  | .publish endpoints => endpoints = s.publishedEndpoints ∨
      ∀ hint, 0 < hint → s.worker ≠ .requested hint
  | _ => True

/-- What holds between any two sections. -/
def Inv (s : Core) : Prop :=
  s.localEndpoints = s.publishedEndpoints ∧ 0 ≤ s.homeDerpHint ∧
    match s.worker with
    | .between => s.controlConnected = false
    | .sampled hint => s.controlConnected = false ∧ hint = s.homeDerpHint ∧
        s.initialPreferredDerp = hint
    | .requested hint => s.controlConnected = false ∧ hint = s.homeDerpHint ∧
        ∃ request, s.sent = some request ∧ request.preferredDerp = hint ∧
          (0 < hint → request.endpoints = s.publishedEndpoints)
    | .polling _ | .defaulting _ => s.Synced

variable {s s' : Core}

lemma inv_initial (saved : Option ℤ) : Inv (Core.initial saved) := by
  refine ⟨rfl, ?_, rfl⟩
  simp only [Core.initial, loadHomeDerpHint]
  grind

/-! ## What a call of advertiseHomeDerp or publishEndpoints does -/

lemma advertiseHomeDerp_of_nonpos {region : ℤ} (h : region ≤ 0) :
    s.advertiseHomeDerp region = s := by
  rw [advertiseHomeDerp, if_pos h]

lemma advertiseHomeDerp_offline {region : ℤ} (h : 0 < region) (hc : s.controlConnected = false) :
    ∃ saved, s.advertiseHomeDerp region =
      { s with homeDerpHint := region, savedHint := saved } := by
  obtain ⟨hint, saved, advertised, connected, published, endpoints, initial, sent, worker⟩ := s
  obtain rfl : connected = false := hc
  have hpos : ¬ region ≤ 0 := Int.not_le.mpr h
  by_cases hr : region = hint
  · exact ⟨saved, by simp [advertiseHomeDerp, hr]⟩
  · exact ⟨some region, by simp [advertiseHomeDerp, hpos, hr]⟩

/-- On an open session the region is what control was told last. -/
lemma advertiseHomeDerp_online {region : ℤ} (h : 0 < region) (hc : s.controlConnected = true) :
    ∃ saved sent, s.advertiseHomeDerp region = { s with
        homeDerpHint := region, savedHint := saved, advertisedDerp := region, sent := sent } ∧
      (region = s.advertisedDerp ∧ sent = s.sent ∨
        sent = some ⟨false, true, region, s.localEndpoints⟩) := by
  obtain ⟨hint, saved, advertised, connected, published, endpoints, initial, sent, worker⟩ := s
  obtain rfl : connected = true := hc
  have hpos : ¬ region ≤ 0 := Int.not_le.mpr h
  refine ⟨if region ≠ hint then some region else saved,
    if region = advertised then sent else some ⟨false, true, region, endpoints⟩, ?_, ?_⟩
  · rw [advertiseHomeDerp, if_neg hpos]
    by_cases hr : region = hint <;> by_cases ha : region = advertised <;>
      simp [sendHostinfoUpdate, hr, ha] <;> simp_all
  · by_cases ha : region = advertised
    · exact Or.inl ⟨ha, if_pos ha⟩
    · exact Or.inr (if_neg ha)

/-- The call of a route, or of the worker itself, on an open session. -/
lemma Synced.advertise (region : ℤ) (h : s.Synced)
    (hlocal : s.localEndpoints = s.publishedEndpoints) (hhint : 0 ≤ s.homeDerpHint) :
    (s.advertiseHomeDerp region).Synced ∧
      (s.advertiseHomeDerp region).localEndpoints =
        (s.advertiseHomeDerp region).publishedEndpoints ∧
      0 ≤ (s.advertiseHomeDerp region).homeDerpHint ∧
      (s.advertiseHomeDerp region).worker = s.worker := by
  by_cases hr : region ≤ 0
  · rw [advertiseHomeDerp_of_nonpos hr]
    exact ⟨h, hlocal, hhint, rfl⟩
  · have hpos : 0 < region := Int.not_le.mp hr
    obtain ⟨hc, ha, request, hs, hp, he⟩ := h
    obtain ⟨saved, sent, heq, hsent⟩ := advertiseHomeDerp_online hpos hc
    rw [heq]
    refine ⟨⟨hc, rfl, ?_⟩, hlocal, Int.le_of_lt hpos, rfl⟩
    rcases hsent with ⟨hra, rfl⟩ | rfl
    · exact ⟨request, hs, by rw [hp, ← ha, ← hra], fun hpos => he (hra ▸ hpos)⟩
    · exact ⟨_, rfl, rfl, fun _ => hlocal⟩

/-- Published endpoints reach the session at once, and control if it knows a region. -/
lemma publishEndpoints_cases (endpoints : Endpoints) :
    endpoints = s.publishedEndpoints ∧ s.publishEndpoints endpoints = s ∨
      ∃ sent, s.publishEndpoints endpoints = { s with
          publishedEndpoints := endpoints, localEndpoints := endpoints, sent := sent } ∧
        ((s.controlConnected = false ∨ s.advertisedDerp ≤ 0) ∧ sent = s.sent ∨
          s.controlConnected = true ∧
            sent = some ⟨false, true, s.advertisedDerp, endpoints⟩) := by
  simp only [publishEndpoints]
  split_ifs with h1 h2
  · exact Or.inl ⟨h1, rfl⟩
  · exact Or.inr ⟨s.sent, rfl, Or.inl ⟨h2, rfl⟩⟩
  · push Not at h2
    exact Or.inr ⟨_, rfl, Or.inr ⟨by simpa using h2.1, rfl⟩⟩

lemma Inv.publish {endpoints : Endpoints} (h : Inv s)
    (hok : s.OutsideConnect (.publish endpoints)) : Inv (s.publishEndpoints endpoints) := by
  rcases publishEndpoints_cases (s := s) endpoints with ⟨-, heq⟩ | ⟨sent, heq, hsent⟩
  · rw [heq]
    exact h
  · rw [heq]
    obtain ⟨hlocal, hpos, hw⟩ := h
    have hoffline : s.controlConnected = false → sent = s.sent := by
      rintro hc
      rcases hsent with ⟨-, hs⟩ | ⟨hc', -⟩
      · exact hs
      · simp [hc] at hc'
    -- without a region nothing is sent, and then the last request need not name the endpoints
    have honline : s.controlConnected = true → s.advertisedDerp = s.homeDerpHint → s.Advertised →
        ∃ request, sent = some request ∧ request.preferredDerp = s.homeDerpHint ∧
          (0 < s.advertisedDerp → request.endpoints = endpoints) := by
      rintro hc ha ⟨request, hreq, hp, -⟩
      rcases hsent with ⟨hoff | hnone, rfl⟩ | ⟨-, rfl⟩
      · simp [hc] at hoff
      · exact ⟨request, hreq, hp, fun hpos => absurd hpos (Int.not_lt.mpr hnone)⟩
      · exact ⟨_, rfl, ha, fun _ => rfl⟩
    refine ⟨rfl, hpos, ?_⟩
    cases hwk : s.worker with
    | between => simpa [hwk] using hw
    | sampled hint => simpa [hwk] using hw
    | requested hint =>
      simp only [hwk] at hw ⊢
      obtain ⟨hc, hh, request, hreq, hp, he⟩ := hw
      -- the request is on its way, so endpoints that come now must be the ones it carries
      refine ⟨hc, hh, request, (hoffline hc).trans hreq, hp, fun hpos => ?_⟩
      rcases hok with heq | hne
      · rw [heq, he hpos]
      · exact absurd hwk (hne hint hpos)
    | polling n =>
      simp only [hwk] at hw ⊢
      exact ⟨hw.1, hw.2.1, honline hw.1 hw.2.1 hw.2.2⟩
    | defaulting n =>
      simp only [hwk] at hw ⊢
      exact ⟨hw.1, hw.2.1, honline hw.1 hw.2.1 hw.2.2⟩

/-- A route's region is noted, and told to control if there is a session. -/
lemma Inv.advertise {region : ℤ} (h : Inv s) (hok : s.OutsideConnect (.advertise region)) :
    Inv (s.advertiseHomeDerp region) := by
  by_cases hr : region ≤ 0
  · rw [advertiseHomeDerp_of_nonpos hr]
    exact h
  have hpos : 0 < region := Int.not_le.mp hr
  obtain ⟨hlocal, hhint, hw⟩ := h
  -- during the setting up of a session the region is the one that was sampled
  have hsame : (∃ hint, s.worker = .sampled hint ∨ s.worker = .requested hint) →
      region = s.homeDerpHint := by
    rintro ⟨hint, hwk⟩
    rcases hok with h | h | h
    · exact absurd h hr
    · exact h
    · exact (hwk.elim (h hint).1 (h hint).2).elim
  cases hwk : s.worker with
  | between =>
    simp only [hwk] at hw
    obtain ⟨saved, heq⟩ := advertiseHomeDerp_offline hpos hw
    rw [heq]
    exact ⟨hlocal, Int.le_of_lt hpos, by simpa [hwk] using hw⟩
  | sampled hint =>
    simp only [hwk] at hw
    obtain ⟨saved, heq⟩ := advertiseHomeDerp_offline hpos hw.1
    rw [heq, hsame ⟨hint, Or.inl hwk⟩]
    exact ⟨hlocal, hhint, by simpa [hwk] using hw⟩
  | requested hint =>
    simp only [hwk] at hw
    obtain ⟨saved, heq⟩ := advertiseHomeDerp_offline hpos hw.1
    rw [heq, hsame ⟨hint, Or.inr hwk⟩]
    exact ⟨hlocal, hhint, by simpa [hwk] using hw⟩
  | polling n =>
    simp only [hwk] at hw
    obtain ⟨hsync, hlocal', hhint', hwk'⟩ := hw.advertise region hlocal hhint
    exact ⟨hlocal', hhint', by simpa [hwk', hwk] using hsync⟩
  | defaulting n =>
    simp only [hwk] at hw
    obtain ⟨hsync, hlocal', hhint', hwk'⟩ := hw.advertise region hlocal hhint
    exact ⟨hlocal', hhint', by simpa [hwk', hwk] using hsync⟩

/-! ## Every run -/

theorem Inv.step {a : Action} (h : Inv s) (hok : s.OutsideConnect a)
    (hs : s.step a = some s') : Inv s' := by
  obtain ⟨hlocal, hpos, hw⟩ := h
  cases a with
  | advertise region =>
    obtain rfl : s.advertiseHomeDerp region = s' := Option.some.inj hs
    exact Inv.advertise ⟨hlocal, hpos, hw⟩ hok
  | publish endpoints =>
    obtain rfl : s.publishEndpoints endpoints = s' := Option.some.inj hs
    exact Inv.publish ⟨hlocal, hpos, hw⟩ hok
  | sample =>
    simp only [Core.step] at hs
    split at hs
    · rename_i hb
      cases hs
      simp only [hb] at hw
      refine ⟨hlocal, hpos, hw, rfl, ?_⟩
      grind
    · cases hs
  | request =>
    simp only [Core.step] at hs
    split at hs
    · rename_i hint hb
      cases hs
      simp only [hb] at hw
      exact ⟨hlocal, hpos, hw.1, hw.2.1, _, rfl, hw.2.2, fun _ => hlocal⟩
    · cases hs
  | connectFails =>
    simp only [Core.step] at hs
    split at hs
    · rename_i hint hb
      cases hs
      simp only [hb] at hw
      exact ⟨hlocal, hpos, hw.1⟩
    · rename_i hint hb
      cases hs
      simp only [hb] at hw
      exact ⟨hlocal, hpos, hw.1⟩
    · cases hs
  | connected =>
    simp only [Core.step] at hs
    split at hs
    · rename_i hint hb
      cases hs
      simp only [hb] at hw
      obtain ⟨-, hh, request, hreq, hp, he⟩ := hw
      exact ⟨hlocal, hpos, rfl, hh, request, hreq, hp.trans hh, he⟩
    · cases hs
  | frame =>
    simp only [Core.step] at hs
    split at hs
    · rename_i n hb
      simp only [hb] at hw
      split_ifs at hs
      all_goals
        cases hs
        exact ⟨hlocal, hpos, hw⟩
    · cases hs
  | default region =>
    simp only [Core.step] at hs
    split at hs
    · rename_i n hb
      cases hs
      simp only [hb] at hw
      obtain ⟨hsync, hlocal', hhint', -⟩ := hw.advertise region hlocal hpos
      exact ⟨hlocal', hhint', hsync⟩
    · cases hs
  | drop =>
    simp only [Core.step] at hs
    split at hs
    · cases hs
      exact ⟨hlocal, hpos, rfl⟩
    · cases hs

/-- Once a frame of the session has been handled, control has the current region, and with a
region the current endpoints, provided that no call fell into the setting up of a session. -/
theorem advertised_of_outsideConnect (saved : Option ℤ) (s : Core)
    (hrun : Run Core.step OutsideConnect (Core.initial saved) s)
    (hf : 1 ≤ s.handled) : s.controlConnected = true ∧ s.Advertised := by
  have h : Inv s := hrun.invariant (inv_initial saved) fun _ _ _ h hok hs => h.step hok hs
  obtain ⟨-, -, hw⟩ := h
  unfold handled at hf
  cases hwk : s.worker with
  | between => simp [hwk] at hf
  | sampled hint => simp [hwk] at hf
  | requested hint => simp [hwk] at hf
  | polling n =>
    simp only [hwk] at hw
    exact ⟨hw.1, hw.2.2⟩
  | defaulting n =>
    simp only [hwk] at hw
    exact ⟨hw.1, hw.2.2⟩

/-- A session that has advertised region 5, and its first frame. -/
def polled : Core :=
  (exec Core.step (Core.initial (some 5)) [.sample, .request, .connected, .frame]).get (by decide)

/-- A route moves the session to region 7. -/
theorem advertised_after_move :
    (polled.advertiseHomeDerp 7).homeDerpHint = 7 ∧ (polled.advertiseHomeDerp 7).Advertised := by
  have hpolled : Run Core.step OutsideConnect (Core.initial (some 5)) polled :=
    .of_exec (Option.some_get _).symm (by simp [OutsideConnect])
  have hworker : polled.worker = .polling 1 := rfl
  have hok : polled.OutsideConnect (.advertise 7) :=
    Or.inr (Or.inr fun hint => by rw [hworker]; simp)
  have hrun : Run Core.step OutsideConnect (Core.initial (some 5)) (polled.advertiseHomeDerp 7) :=
    hpolled.snoc hok rfl
  exact ⟨rfl, (advertised_of_outsideConnect (some 5) _ hrun (by decide)).2⟩

/-- The route picks region 7 while `connect` is still under way with region 5. -/
def movedWhileConnecting : Core :=
  (exec Core.step (Core.initial (some 5))
    [.sample, .request, .advertise 7, .connected, .frame]).get (by decide)

/-- Control keeps region 5 although a session is up and a frame has been handled. -/
theorem region_lost_while_connecting :
    Run Core.step (fun _ _ => True) (Core.initial (some 5)) movedWhileConnecting ∧
      movedWhileConnecting.controlConnected = true ∧
      movedWhileConnecting.worker = .polling 1 ∧ 0 < movedWhileConnecting.advertisedDerp ∧
      movedWhileConnecting.homeDerpHint = 7 ∧
      movedWhileConnecting.sent = some ⟨true, false, 5, []⟩ :=
  ⟨.of_exec (Option.some_get _).symm (by simp), rfl, rfl, by decide, rfl, rfl⟩

end Core
end ArtemisSwitch.HomeDerp
