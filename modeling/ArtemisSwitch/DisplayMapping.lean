import ArtemisSwitch.InputManager
import ArtemisSwitch.Library.Spans
import ArtemisSwitch.StreamProfile

/-!
# What is drawn and what is touched

Where a frame is put on the screen, and which point of the stream a touch of the screen means.  A
`float` is the rational that it stands for.
-/

namespace ArtemisSwitch.Video
open Clamping Spans
open Input (Rotation)
open StreamProfile (ScaleMode)

/-! ## Geometry -/

structure RectF where
  x : ℚ := 0
  y : ℚ := 0
  width : ℚ := 0
  height : ℚ := 0
  deriving DecidableEq

structure PresentationGeometry where
  source : RectF := {}
  destination : RectF := {}
  deriving DecidableEq

def destinationRect (sourceWidth sourceHeight viewportWidth viewportHeight : ℚ)
    (mode : ScaleMode) : RectF :=
  if sourceWidth ≤ 0 ∨ sourceHeight ≤ 0 ∨ viewportWidth ≤ 0 ∨ viewportHeight ≤ 0 then {}
  else if mode = .stretch then ⟨0, 0, viewportWidth, viewportHeight⟩
  else
    let scaleX := viewportWidth / sourceWidth
    let scaleY := viewportHeight / sourceHeight
    let scale := if mode = .fit then min scaleX scaleY else max scaleX scaleY
    let width := sourceWidth * scale
    let height := sourceHeight * scale
    ⟨(viewportWidth - width) * (1 / 2), (viewportHeight - height) * (1 / 2), width, height⟩

/-- The part of the source that has the aspect of the viewport. -/
def fillCrop (sourceWidth sourceHeight viewportWidth viewportHeight : ℚ) : RectF :=
  let sourceAspect := sourceWidth / sourceHeight
  let viewportAspect := viewportWidth / viewportHeight
  if viewportAspect < sourceAspect then
    let visibleWidth := sourceHeight * viewportAspect
    ⟨(sourceWidth - visibleWidth) * (1 / 2), 0, visibleWidth, sourceHeight⟩
  else if sourceAspect < viewportAspect then
    let visibleHeight := sourceWidth / viewportAspect
    ⟨0, (sourceHeight - visibleHeight) * (1 / 2), sourceWidth, visibleHeight⟩
  else ⟨0, 0, sourceWidth, sourceHeight⟩

/-- The source and the destination without a zoom. -/
def baseGeometry (sourceWidth sourceHeight viewportWidth viewportHeight : ℚ) (mode : ScaleMode) :
    PresentationGeometry :=
  if mode = .fit then
    { source := ⟨0, 0, sourceWidth, sourceHeight⟩
      destination := destinationRect sourceWidth sourceHeight viewportWidth viewportHeight .fit }
  else
    { source :=
        if mode = .fill then fillCrop sourceWidth sourceHeight viewportWidth viewportHeight
        else ⟨0, 0, sourceWidth, sourceHeight⟩
      destination := ⟨0, 0, viewportWidth, viewportHeight⟩ }

/-- The part of `base` that is seen. -/
def zoomedSource (base : RectF) (zoom panX panY : ℚ) : RectF :=
  if 1 < zoom then
    let zoomedWidth := base.width / zoom
    let zoomedHeight := base.height / zoom
    let centeredX := base.x + (base.width - zoomedWidth) * (1 / 2)
    let centeredY := base.y + (base.height - zoomedHeight) * (1 / 2)
    let x := centeredX + panX * base.width * (1 / 2)
    let y := centeredY + panY * base.height * (1 / 2)
    { x := clamp x base.x (base.x + base.width - zoomedWidth)
      y := clamp y base.y (base.y + base.height - zoomedHeight)
      width := zoomedWidth
      height := zoomedHeight }
  else base

def presentationGeometry (sourceWidth sourceHeight viewportWidth viewportHeight : ℚ)
    (mode : ScaleMode) (zoom panX panY : ℚ) : PresentationGeometry :=
  if sourceWidth ≤ 0 ∨ sourceHeight ≤ 0 ∨ viewportWidth ≤ 0 ∨ viewportHeight ≤ 0 then {}
  else
    let base := baseGeometry sourceWidth sourceHeight viewportWidth viewportHeight mode
    let zoom := clamp zoom 1 4
    let maxPan := 1 - 1 / zoom
    let panX := clamp panX (-maxPan) maxPan
    let panY := clamp panY (-maxPan) maxPan
    { base with source := zoomedSource base.source zoom panX panY }

/-! ## The plan of the renderer -/

structure NormalizedPoint where
  x : ℚ
  y : ℚ
  deriving DecidableEq

structure DisplayTransform where
  rotation : Rotation := .Deg0
  zoom : ℚ := 1
  panX : ℚ := 0
  panY : ℚ := 0

def validateDisplayTransform (transform : DisplayTransform) : DisplayTransform :=
  let zoom := clamp transform.zoom 1 4
  let maxPan := 1 - 1 / zoom
  { transform with
    zoom := zoom
    panX := clamp transform.panX (-maxPan) maxPan
    panY := clamp transform.panY (-maxPan) maxPan }

def localToStream (p : NormalizedPoint) : Rotation → NormalizedPoint
  | .Deg90 => ⟨p.y, 1 - p.x⟩
  | .Deg180 => ⟨1 - p.x, 1 - p.y⟩
  | .Deg270 => ⟨1 - p.y, p.x⟩
  | .Deg0 => p

def streamToLocal (p : NormalizedPoint) : Rotation → NormalizedPoint
  | .Deg90 => ⟨1 - p.y, p.x⟩
  | .Deg180 => ⟨1 - p.x, 1 - p.y⟩
  | .Deg270 => ⟨p.y, 1 - p.x⟩
  | .Deg0 => p

def swapsDimensions (rotation : Rotation) : Bool := rotation = .Deg90 || rotation = .Deg270

structure RendererPresentationPlan where
  logicalSourceWidth : Int32 := 0
  logicalSourceHeight : Int32 := 0
  geometry : PresentationGeometry := {}
  postProcessWidth : Int32 := 0
  postProcessHeight : Int32 := 0
  clearLetterboxToBlack : Bool := false

/-- A side in whole pixels, of which there is at least one. -/
def postProcessSide (postProcessingEnabled : Bool) (side : ℚ) : Int32 :=
  if postProcessingEnabled then
    let pixels := Int32.ofInt (lround side)
    if 1 < pixels then pixels else 1
  else 0

def makeRendererPresentationPlan (frameWidth frameHeight screenWidth screenHeight : Int32)
    (scaleMode : ScaleMode) (rawTransform : DisplayTransform) (postProcessingEnabled : Bool) :
    RendererPresentationPlan :=
  if frameWidth ≤ 0 ∨ frameHeight ≤ 0 ∨ screenWidth ≤ 0 ∨ screenHeight ≤ 0 then {}
  else
    let transform := validateDisplayTransform rawTransform
    let width := if swapsDimensions transform.rotation then frameHeight else frameWidth
    let height := if swapsDimensions transform.rotation then frameWidth else frameHeight
    let geometry := presentationGeometry width.toInt height.toInt screenWidth.toInt
      screenHeight.toInt scaleMode transform.zoom transform.panX transform.panY
    { logicalSourceWidth := width
      logicalSourceHeight := height
      geometry := geometry
      postProcessWidth := postProcessSide postProcessingEnabled geometry.destination.width
      postProcessHeight := postProcessSide postProcessingEnabled geometry.destination.height
      clearLetterboxToBlack := 0 < geometry.destination.x ∨ 0 < geometry.destination.y ∨
        geometry.destination.width < screenWidth.toInt ∨
        geometry.destination.height < screenHeight.toInt }

/-! ## Touches -/

structure DisplayCoordinateMapper where
  screenWidth : Int32 := 0
  screenHeight : Int32 := 0
  plan : RendererPresentationPlan := {}
  rotation : Rotation := .Deg0

namespace DisplayCoordinateMapper

def update (_ : DisplayCoordinateMapper) (screenWidth screenHeight : Int32)
    (plan : RendererPresentationPlan) (rotation : Rotation) : DisplayCoordinateMapper :=
  { screenWidth := screenWidth, screenHeight := screenHeight, plan := plan, rotation := rotation }

def reset (_ : DisplayCoordinateMapper) : DisplayCoordinateMapper := {}

variable (m : DisplayCoordinateMapper) (p : NormalizedPoint)

/-- The point of the stream before it is clamped. -/
def mapped : NormalizedPoint :=
  let destination := m.plan.geometry.destination
  let source := m.plan.geometry.source
  let px := p.x * m.screenWidth.toInt
  let py := p.y * m.screenHeight.toInt
  let contentX := (px - destination.x) / destination.width
  let contentY := (py - destination.y) / destination.height
  let logical : NormalizedPoint :=
    { x := (source.x + contentX * source.width) / m.plan.logicalSourceWidth.toInt
      y := (source.y + contentY * source.height) / m.plan.logicalSourceHeight.toInt }
  Video.localToStream logical m.rotation

def localToStream : Option NormalizedPoint :=
  let destination := m.plan.geometry.destination
  if m.screenWidth ≤ 0 ∨ m.screenHeight ≤ 0 ∨ m.plan.logicalSourceWidth ≤ 0 ∨
      m.plan.logicalSourceHeight ≤ 0 ∨ destination.width ≤ 0 ∨ destination.height ≤ 0 then none
  else
    let px := p.x * m.screenWidth.toInt
    let py := p.y * m.screenHeight.toInt
    if px < destination.x ∨ py < destination.y ∨ destination.x + destination.width < px ∨
        destination.y + destination.height < py then none
    else some ⟨clamp (m.mapped p).x 0 1, clamp (m.mapped p).y 0 1⟩

end DisplayCoordinateMapper

/-! ## What a plan should be -/

namespace RectF

def across (r : RectF) : Span ℚ := ⟨r.x, r.width⟩

def down (r : RectF) : Span ℚ := ⟨r.y, r.height⟩

/-- The rectangle is not empty and lies in one with these sides. -/
structure Inside (r : RectF) (width height : ℚ) : Prop where
  width_pos : 0 < r.width
  height_pos : 0 < r.height
  across : r.across.Within ⟨0, width⟩
  down : r.down.Within ⟨0, height⟩

/-- The point is in the rectangle, its edges included. -/
def Contains (r : RectF) (x y : ℚ) : Prop := r.across.Mem x ∧ r.down.Mem y

end RectF

/-- A point of the unit square. -/
def NormalizedPoint.Unit (p : NormalizedPoint) : Prop := (0 ≤ p.x ∧ p.x ≤ 1) ∧ 0 ≤ p.y ∧ p.y ≤ 1

def Affine (f : NormalizedPoint → NormalizedPoint) : Prop :=
  ∃ a b c d e g : ℚ, ∀ p, f p = ⟨a * p.x + b * p.y + c, d * p.x + e * p.y + g⟩

variable {sw sh vw vh zoom panX panY width height : ℚ} {base r : RectF} {mode : ScaleMode}

lemma toInt_pos {n : Int32} (h : 0 < n) : (0 : ℚ) < n.toInt := by
  have hpos : 0 < n.toInt := by simpa [Int32.lt_iff_toInt_lt] using h
  exact_mod_cast hpos

/-! ## Zoom and crop -/

lemma whole_inside (hw : 0 < width) (hh : 0 < height) :
    (⟨0, 0, width, height⟩ : RectF).Inside width height :=
  ⟨hw, hh, Span.Within.refl _, Span.Within.refl _⟩

lemma zoomedSource_inside (hbase : base.Inside width height) :
    (zoomedSource base zoom panX panY).Inside width height := by
  unfold zoomedSource
  split_ifs with hzoom
  · have hpos : 0 < zoom := one_pos.trans hzoom
    have hless {side : ℚ} (h : 0 < side) : side / zoom ≤ side := div_le_self h.le hzoom.le
    refine ⟨div_pos hbase.width_pos hpos, div_pos hbase.height_pos hpos, ?_, ?_⟩
    · exact (Span.window_within (s := base.across) (hless hbase.width_pos) _).trans hbase.across
    · exact (Span.window_within (s := base.down) (hless hbase.height_pos) _).trans hbase.down
  · exact hbase

/-- A zoom keeps the proportions. -/
lemma zoomedSource_aspect (base : RectF) (zoom panX panY : ℚ) :
    (zoomedSource base zoom panX panY).width / (zoomedSource base zoom panX panY).height =
      base.width / base.height := by
  unfold zoomedSource
  split_ifs with hzoom
  · exact div_div_div_cancel_right₀ (one_pos.trans hzoom).ne' _ _
  · rfl

lemma fillCrop_aspect (hsw : 0 < sw) (hsh : 0 < sh) (vw vh : ℚ) :
    (fillCrop sw sh vw vh).width / (fillCrop sw sh vw vh).height = vw / vh := by
  unfold fillCrop
  dsimp only
  split_ifs with hwide htall
  · exact mul_div_cancel_left₀ _ hsh.ne'
  · exact div_div_cancel₀ hsw.ne'
  · exact (not_lt.mp hwide).antisymm (not_lt.mp htall)

section Sides
variable (hsw : 0 < sw) (hsh : 0 < sh) (hvw : 0 < vw) (hvh : 0 < vh)
include hsw hsh hvw hvh

lemma sides_pos : ¬(sw ≤ 0 ∨ sh ≤ 0 ∨ vw ≤ 0 ∨ vh ≤ 0) := by
  simp only [not_or, not_le]
  exact ⟨hsw, hsh, hvw, hvh⟩

lemma fillCrop_inside : (fillCrop sw sh vw vh).Inside sw sh := by
  have haspect : 0 < vw / vh := div_pos hvw hvh
  unfold fillCrop
  dsimp only
  split_ifs with hwide htall
  · have hless : sh * (vw / vh) ≤ sw := by
      rw [lt_div_iff₀ hsh] at hwide
      linarith
    refine ⟨mul_pos hsh haspect, hsh, ?_, Span.Within.refl _⟩
    refine Span.middle_within hless ?_
    ring
  · have hless : sw / (vw / vh) ≤ sh := by
      rw [div_lt_iff₀ hsh] at htall
      rw [div_le_iff₀ haspect]
      linarith
    refine ⟨hsw, div_pos hsw haspect, Span.Within.refl _, ?_⟩
    refine Span.middle_within hless ?_
    ring
  · exact whole_inside hsw hsh

/-- In a fit both sides are scaled alike, as far as both have room. -/
lemma fit_eq : ∃ scale : ℚ, 0 < scale ∧ sw * scale ≤ vw ∧ sh * scale ≤ vh ∧
    destinationRect sw sh vw vh .fit =
      ⟨(vw - sw * scale) * (1 / 2), (vh - sh * scale) * (1 / 2), sw * scale, sh * scale⟩ := by
  refine ⟨min (vw / sw) (vh / sh), lt_min (div_pos hvw hsw) (div_pos hvh hsh), ?_, ?_, ?_⟩
  · calc sw * min (vw / sw) (vh / sh) ≤ sw * (vw / sw) :=
          mul_le_mul_of_nonneg_left (min_le_left _ _) hsw.le
      _ = vw := mul_div_cancel₀ vw hsw.ne'
  · calc sh * min (vw / sw) (vh / sh) ≤ sh * (vh / sh) :=
          mul_le_mul_of_nonneg_left (min_le_right _ _) hsh.le
      _ = vh := mul_div_cancel₀ vh hsh.ne'
  · rw [destinationRect, if_neg (sides_pos hsw hsh hvw hvh), if_neg (by decide)]
    rfl

lemma fit_inside : (destinationRect sw sh vw vh .fit).Inside vw vh := by
  obtain ⟨scale, hscale, hwidth, hheight, heq⟩ := fit_eq hsw hsh hvw hvh
  rw [heq]
  refine ⟨mul_pos hsw hscale, mul_pos hsh hscale, ?_, ?_⟩
  · refine Span.middle_within hwidth ?_
    ring
  · refine Span.middle_within hheight ?_
    ring

lemma fit_aspect : (destinationRect sw sh vw vh .fit).width /
    (destinationRect sw sh vw vh .fit).height = sw / sh := by
  obtain ⟨scale, hscale, -, -, heq⟩ := fit_eq hsw hsh hvw hvh
  rw [heq]
  exact mul_div_mul_right _ _ hscale.ne'

/-! ## The geometry -/

lemma baseGeometry_inside (mode : ScaleMode) :
    (baseGeometry sw sh vw vh mode).source.Inside sw sh ∧
      (baseGeometry sw sh vw vh mode).destination.Inside vw vh := by
  cases mode with
  | fit => exact ⟨whole_inside hsw hsh, fit_inside hsw hsh hvw hvh⟩
  | fill => exact ⟨fillCrop_inside hsw hsh hvw hvh, whole_inside hvw hvh⟩
  | stretch => exact ⟨whole_inside hsw hsh, whole_inside hvw hvh⟩

lemma baseGeometry_aspect (hmode : mode ≠ .stretch) :
    (baseGeometry sw sh vw vh mode).destination.width /
        (baseGeometry sw sh vw vh mode).destination.height =
      (baseGeometry sw sh vw vh mode).source.width /
        (baseGeometry sw sh vw vh mode).source.height := by
  cases mode with
  | fit => exact fit_aspect hsw hsh hvw hvh
  | fill => exact (fillCrop_aspect hsw hsh vw vh).symm
  | stretch => exact absurd rfl hmode

/-- Both rectangles lie where they should, and their proportions agree. -/
lemma presentationGeometry_sound (mode : ScaleMode) (zoom panX panY : ℚ) :
    let geometry := presentationGeometry sw sh vw vh mode zoom panX panY
    geometry.source.Inside sw sh ∧ geometry.destination.Inside vw vh ∧
      (mode ≠ .stretch → geometry.destination.width / geometry.destination.height =
        geometry.source.width / geometry.source.height) := by
  obtain ⟨hsource, hdestination⟩ := baseGeometry_inside hsw hsh hvw hvh mode
  rw [presentationGeometry, if_neg (sides_pos hsw hsh hvw hvh)]
  refine ⟨zoomedSource_inside hsource, hdestination, fun hmode => ?_⟩
  dsimp only
  rw [zoomedSource_aspect]
  exact baseGeometry_aspect hsw hsh hvw hvh hmode

end Sides

/-! ## Touches -/

namespace NormalizedPoint

lemma unit_localToStream {p : NormalizedPoint} (h : p.Unit) (rotation : Rotation) :
    (Video.localToStream p rotation).Unit := by
  have hflip {x : ℚ} (hx : 0 ≤ x ∧ x ≤ 1) : 0 ≤ 1 - x ∧ 1 - x ≤ 1 :=
    ⟨sub_nonneg.mpr hx.2, sub_le_self 1 hx.1⟩
  obtain ⟨hx, hy⟩ := h
  cases rotation with
  | Deg0 => exact ⟨hx, hy⟩
  | Deg90 => exact ⟨hy, hflip hx⟩
  | Deg180 => exact ⟨hflip hx, hflip hy⟩
  | Deg270 => exact ⟨hflip hy, hx⟩

/-- The two directions of a rotation. -/
lemma streamToLocal_localToStream (p : NormalizedPoint) (rotation : Rotation) :
    streamToLocal (Video.localToStream p rotation) rotation = p := by
  cases rotation <;> simp [Video.localToStream, streamToLocal]

lemma localToStream_streamToLocal (p : NormalizedPoint) (rotation : Rotation) :
    Video.localToStream (streamToLocal p rotation) rotation = p := by
  cases rotation <;> simp [Video.localToStream, streamToLocal]

end NormalizedPoint

lemma affine_localToStream {f : NormalizedPoint → NormalizedPoint} (h : Affine f)
    (rotation : Rotation) : Affine fun p => localToStream (f p) rotation := by
  obtain ⟨a, b, c, d, e, g, hf⟩ := h
  cases rotation with
  | Deg0 => exact ⟨a, b, c, d, e, g, hf⟩
  | Deg90 =>
    refine ⟨d, e, g, -a, -b, 1 - c, fun p => ?_⟩
    simp only [localToStream, hf, NormalizedPoint.mk.injEq, true_and]
    ring
  | Deg180 =>
    refine ⟨-a, -b, 1 - c, -d, -e, 1 - g, fun p => ?_⟩
    simp only [localToStream, hf, NormalizedPoint.mk.injEq]
    constructor <;> ring
  | Deg270 =>
    refine ⟨-d, -e, 1 - g, a, b, c, fun p => ?_⟩
    simp only [localToStream, hf, NormalizedPoint.mk.injEq, and_true]
    ring

namespace DisplayCoordinateMapper

/-- A mapper that maps a destination on its screen to a source in its frame. -/
structure Sound (m : DisplayCoordinateMapper) : Prop where
  screenWidth : 0 < m.screenWidth
  screenHeight : 0 < m.screenHeight
  logicalWidth : 0 < m.plan.logicalSourceWidth
  logicalHeight : 0 < m.plan.logicalSourceHeight
  source : m.plan.geometry.source.Inside m.plan.logicalSourceWidth.toInt
    m.plan.logicalSourceHeight.toInt
  destination : m.plan.geometry.destination.Inside m.screenWidth.toInt m.screenHeight.toInt

variable {m : DisplayCoordinateMapper} {p : NormalizedPoint}

/-- The point of the source in proportions of the frame. -/
def logical (m : DisplayCoordinateMapper) (p : NormalizedPoint) : NormalizedPoint :=
  let destination := m.plan.geometry.destination
  let source := m.plan.geometry.source
  ⟨destination.across.carry source.across (p.x * m.screenWidth.toInt) /
      m.plan.logicalSourceWidth.toInt,
    destination.down.carry source.down (p.y * m.screenHeight.toInt) /
      m.plan.logicalSourceHeight.toInt⟩

lemma mapped_eq (m : DisplayCoordinateMapper) (p : NormalizedPoint) :
    m.mapped p = Video.localToStream (m.logical p) m.rotation := rfl

namespace Sound

lemma sizes_pos (h : m.Sound) : ¬(m.screenWidth ≤ 0 ∨ m.screenHeight ≤ 0 ∨
    m.plan.logicalSourceWidth ≤ 0 ∨ m.plan.logicalSourceHeight ≤ 0 ∨
    m.plan.geometry.destination.width ≤ 0 ∨ m.plan.geometry.destination.height ≤ 0) := by
  simp only [not_or, not_le, Int32.not_le]
  exact ⟨h.screenWidth, h.screenHeight, h.logicalWidth, h.logicalHeight,
    h.destination.width_pos, h.destination.height_pos⟩

lemma unit_mapped (h : m.Sound) (hp : m.plan.geometry.destination.Contains
    (p.x * m.screenWidth.toInt) (p.y * m.screenHeight.toInt)) : (m.mapped p).Unit := by
  have hwidth := toInt_pos h.logicalWidth
  have hheight := toInt_pos h.logicalHeight
  have hx := h.source.across.mem
    (Span.carry_mem h.destination.width_pos h.source.width_pos.le hp.1)
  have hy := h.source.down.mem
    (Span.carry_mem h.destination.height_pos h.source.height_pos.le hp.2)
  rw [mapped_eq]
  refine NormalizedPoint.unit_localToStream ⟨⟨?_, ?_⟩, ?_, ?_⟩ _
  · exact div_nonneg hx.1 hwidth.le
  · exact (div_le_one hwidth).mpr (by simpa using hx.2)
  · exact div_nonneg hy.1 hheight.le
  · exact (div_le_one hheight).mpr (by simpa using hy.2)

lemma touched_inside (h : m.Sound) (hp : m.plan.geometry.destination.Contains
    (p.x * m.screenWidth.toInt) (p.y * m.screenHeight.toInt)) :
    m.localToStream p = some (m.mapped p) := by
  obtain ⟨⟨hx, hx'⟩, hy, hy'⟩ := h.unit_mapped hp
  have hin : ¬(p.x * m.screenWidth.toInt < m.plan.geometry.destination.x ∨
      p.y * m.screenHeight.toInt < m.plan.geometry.destination.y ∨
      m.plan.geometry.destination.x + m.plan.geometry.destination.width <
        p.x * m.screenWidth.toInt ∨
      m.plan.geometry.destination.y + m.plan.geometry.destination.height <
        p.y * m.screenHeight.toInt) := by
    simp only [not_or, not_lt]
    exact ⟨hp.1.1, hp.2.1, hp.1.2, hp.2.2⟩
  rw [localToStream, if_neg h.sizes_pos, if_neg hin, clamp_of_mem hx hx', clamp_of_mem hy hy']

end Sound

lemma touched_outside (hp : ¬m.plan.geometry.destination.Contains
    (p.x * m.screenWidth.toInt) (p.y * m.screenHeight.toInt)) : m.localToStream p = none := by
  have hout : p.x * m.screenWidth.toInt < m.plan.geometry.destination.x ∨
      p.y * m.screenHeight.toInt < m.plan.geometry.destination.y ∨
      m.plan.geometry.destination.x + m.plan.geometry.destination.width <
        p.x * m.screenWidth.toInt ∨
      m.plan.geometry.destination.y + m.plan.geometry.destination.height <
        p.y * m.screenHeight.toInt := by
    by_contra hin
    simp only [not_or, not_lt] at hin
    exact hp ⟨⟨hin.1, hin.2.2.1⟩, hin.2.1, hin.2.2.2⟩
  by_cases hsizes : m.screenWidth ≤ 0 ∨ m.screenHeight ≤ 0 ∨ m.plan.logicalSourceWidth ≤ 0 ∨
      m.plan.logicalSourceHeight ≤ 0 ∨ m.plan.geometry.destination.width ≤ 0 ∨
      m.plan.geometry.destination.height ≤ 0
  · exact if_pos hsizes
  · rw [localToStream, if_neg hsizes, if_pos hout]

/-- Along each axis the map is affine and the axes do not mix before the rotation. -/
lemma affine_mapped (m : DisplayCoordinateMapper) : Affine m.mapped := by
  refine affine_localToStream (f := m.logical) ?_ m.rotation
  have haxis (s t : Span ℚ) (k l : ℚ) : ∃ a c : ℚ, ∀ x, s.carry t (x * k) / l = a * x + c := by
    refine ⟨t.size / s.size * k / l, (t.start - s.start / s.size * t.size) / l, fun x => ?_⟩
    rw [Span.carry_eq]
    ring
  obtain ⟨a, c, hx⟩ := haxis m.plan.geometry.destination.across m.plan.geometry.source.across
    m.screenWidth.toInt m.plan.logicalSourceWidth.toInt
  obtain ⟨e, g, hy⟩ := haxis m.plan.geometry.destination.down m.plan.geometry.source.down
    m.screenHeight.toInt m.plan.logicalSourceHeight.toInt
  refine ⟨a, 0, c, 0, e, g, fun p => ?_⟩
  rw [logical, hx, hy, zero_mul, zero_mul, add_zero, zero_add]

lemma Sound.injective_mapped (h : m.Sound) : Function.Injective m.mapped := by
  have haxis {s t : Span ℚ} {k l x y : ℚ} (hs : 0 < s.size) (ht : 0 < t.size) (hk : 0 < k)
      (hl : 0 < l) (heq : s.carry t (x * k) / l = s.carry t (y * k) / l) : x = y := by
    have hcarry := (div_left_inj' hl.ne').mp heq
    exact mul_right_cancel₀ hk.ne' (Span.carry_injective hs.ne' ht.ne' hcarry)
  intro p q heq
  have hlogical : m.logical p = m.logical q := by
    rw [← (m.logical p).streamToLocal_localToStream m.rotation,
      ← (m.logical q).streamToLocal_localToStream m.rotation]
    exact congrArg (streamToLocal · m.rotation) heq
  obtain ⟨hx, hy⟩ := NormalizedPoint.mk.inj hlogical
  have hpx : p.x = q.x := haxis h.destination.width_pos h.source.width_pos
    (toInt_pos h.screenWidth) (toInt_pos h.logicalWidth) hx
  have hpy : p.y = q.y := haxis h.destination.height_pos h.source.height_pos
    (toInt_pos h.screenHeight) (toInt_pos h.logicalHeight) hy
  cases p
  cases q
  rw [NormalizedPoint.mk.injEq]
  exact ⟨hpx, hpy⟩

/-- Where a point of the stream is drawn, in proportions of the screen. -/
def drawn (m : DisplayCoordinateMapper) (q : NormalizedPoint) : NormalizedPoint :=
  let destination := m.plan.geometry.destination
  let source := m.plan.geometry.source
  let logical := streamToLocal q m.rotation
  ⟨source.across.carry destination.across (logical.x * m.plan.logicalSourceWidth.toInt) /
      m.screenWidth.toInt,
    source.down.carry destination.down (logical.y * m.plan.logicalSourceHeight.toInt) /
      m.screenHeight.toInt⟩

lemma Sound.touched_drawn {q : NormalizedPoint} (h : m.Sound)
    (hq : m.plan.geometry.source.Contains
      ((streamToLocal q m.rotation).x * m.plan.logicalSourceWidth.toInt)
      ((streamToLocal q m.rotation).y * m.plan.logicalSourceHeight.toInt)) :
    m.localToStream (m.drawn q) = some q := by
  have hx : (m.drawn q).x * m.screenWidth.toInt = _ :=
    div_mul_cancel₀ _ (toInt_pos h.screenWidth).ne'
  have hy : (m.drawn q).y * m.screenHeight.toInt = _ :=
    div_mul_cancel₀ _ (toInt_pos h.screenHeight).ne'
  have hlogical : m.logical (m.drawn q) = streamToLocal q m.rotation := by
    rw [logical, hx, hy, Span.carry_carry h.source.width_pos.ne' h.destination.width_pos.ne',
      Span.carry_carry h.source.height_pos.ne' h.destination.height_pos.ne',
      mul_div_cancel_right₀ _ (toInt_pos h.logicalWidth).ne',
      mul_div_cancel_right₀ _ (toInt_pos h.logicalHeight).ne']
  rw [h.touched_inside, mapped_eq, hlogical, NormalizedPoint.localToStream_streamToLocal]
  rw [hx, hy]
  exact ⟨Span.carry_mem h.source.width_pos h.destination.width_pos.le hq.1,
    Span.carry_mem h.source.height_pos h.destination.height_pos.le hq.2⟩

end DisplayCoordinateMapper

/-! ## The plan and the mapper -/

section Plan
variable {frameWidth frameHeight screenWidth screenHeight : Int32} (hfw : 0 < frameWidth)
  (hfh : 0 < frameHeight) (hsw : 0 < screenWidth) (hsh : 0 < screenHeight)
include hfw hfh hsw hsh

lemma plan_eq (mode : ScaleMode) (transform : DisplayTransform) (post : Bool) :
    ∃ zoom panX panY,
      let plan := makeRendererPresentationPlan frameWidth frameHeight screenWidth screenHeight mode
        transform post
      plan.logicalSourceWidth =
          (if swapsDimensions transform.rotation then frameHeight else frameWidth) ∧
        plan.logicalSourceHeight =
          (if swapsDimensions transform.rotation then frameWidth else frameHeight) ∧
        plan.geometry = presentationGeometry plan.logicalSourceWidth.toInt
          plan.logicalSourceHeight.toInt screenWidth.toInt screenHeight.toInt mode zoom panX
          panY := by
  have hpos : ¬(frameWidth ≤ 0 ∨ frameHeight ≤ 0 ∨ screenWidth ≤ 0 ∨ screenHeight ≤ 0) := by
    simp only [not_or, Int32.not_le]
    exact ⟨hfw, hfh, hsw, hsh⟩
  rw [makeRendererPresentationPlan, if_neg hpos]
  exact ⟨_, _, _, rfl, rfl, rfl⟩

/-- The mapper that is given a plan is sound. -/
lemma plan_sound (mode : ScaleMode) (transform : DisplayTransform) (post : Bool)
    (mapper : DisplayCoordinateMapper) :
    let plan := makeRendererPresentationPlan frameWidth frameHeight screenWidth screenHeight mode
      transform post
    (mapper.update screenWidth screenHeight plan transform.rotation).Sound ∧
      (mode ≠ .stretch →
        plan.geometry.destination.width / plan.geometry.destination.height =
          plan.geometry.source.width / plan.geometry.source.height) := by
  intro plan
  obtain ⟨zoom, panX, panY, hwidth, hheight, hgeometry⟩ :=
    plan_eq hfw hfh hsw hsh mode transform post
  have hlogical : 0 < plan.logicalSourceWidth ∧ 0 < plan.logicalSourceHeight := by
    rw [hwidth, hheight]
    split_ifs
    · exact ⟨hfh, hfw⟩
    · exact ⟨hfw, hfh⟩
  obtain ⟨hsource, hdestination, haspect⟩ := presentationGeometry_sound
    (toInt_pos hlogical.1) (toInt_pos hlogical.2) (toInt_pos hsw) (toInt_pos hsh)
    mode zoom panX panY
  rw [← hgeometry] at hsource hdestination haspect
  exact ⟨⟨hsw, hsh, hlogical.1, hlogical.2, hsource, hdestination⟩, haspect⟩

/-- A touch of the place where a point of the stream is drawn is a touch of that point. -/
theorem touch_finds_drawn (mode : ScaleMode) (transform : DisplayTransform) (post : Bool)
    (mapper : DisplayCoordinateMapper) {q : NormalizedPoint} :
    let plan := makeRendererPresentationPlan frameWidth frameHeight screenWidth screenHeight mode
      transform post
    let updated := mapper.update screenWidth screenHeight plan transform.rotation
    plan.geometry.source.Contains
        ((streamToLocal q transform.rotation).x * plan.logicalSourceWidth.toInt)
        ((streamToLocal q transform.rotation).y * plan.logicalSourceHeight.toInt) →
      updated.localToStream (updated.drawn q) = some q := by
  intro plan updated hq
  exact (plan_sound hfw hfh hsw hsh mode transform post mapper).1.touched_drawn hq

/-- For all modes, transforms and sizes, what is drawn is part of the frame and of the screen, and
the touches of it are all that is mapped. -/
theorem touch_agrees (mode : ScaleMode) (transform : DisplayTransform) (post : Bool)
    (mapper : DisplayCoordinateMapper) :
    let plan := makeRendererPresentationPlan frameWidth frameHeight screenWidth screenHeight mode
      transform post
    let source := plan.geometry.source
    let destination := plan.geometry.destination
    let updated := mapper.update screenWidth screenHeight plan transform.rotation
    (plan.logicalSourceWidth =
        if swapsDimensions transform.rotation then frameHeight else frameWidth) ∧
      (plan.logicalSourceHeight =
        if swapsDimensions transform.rotation then frameWidth else frameHeight) ∧
      source.Inside plan.logicalSourceWidth.toInt plan.logicalSourceHeight.toInt ∧
      destination.Inside screenWidth.toInt screenHeight.toInt ∧
      (mode ≠ .stretch → destination.width / destination.height = source.width / source.height) ∧
      Affine updated.mapped ∧ Function.Injective updated.mapped ∧
      (∀ p, destination.Contains (p.x * screenWidth.toInt) (p.y * screenHeight.toInt) →
        (updated.mapped p).Unit ∧ updated.localToStream p = some (updated.mapped p)) ∧
      ∀ p, ¬destination.Contains (p.x * screenWidth.toInt) (p.y * screenHeight.toInt) →
        updated.localToStream p = none := by
  intro plan source destination updated
  obtain ⟨-, -, -, hwidth, hheight, -⟩ := plan_eq hfw hfh hsw hsh mode transform post
  obtain ⟨hsound, haspect⟩ := plan_sound hfw hfh hsw hsh mode transform post mapper
  refine ⟨hwidth, hheight, hsound.source, hsound.destination, haspect, updated.affine_mapped,
    hsound.injective_mapped, fun p hp => ⟨hsound.unit_mapped hp, hsound.touched_inside hp⟩, ?_⟩
  intro p hp
  exact DisplayCoordinateMapper.touched_outside hp

end Plan

/-- A wide frame that fills a small screen, turned by a quarter. -/
theorem touch_agrees_turned :
    let plan := makeRendererPresentationPlan 1920 1080 1280 720 .fill ⟨.Deg90, 2, 1, -1⟩ false
    plan.geometry.source.Inside 1080 1920 := by
  exact (touch_agrees (by decide) (by decide) (by decide) (by decide) .fill ⟨.Deg90, 2, 1, -1⟩
    false {}).2.2.1

end ArtemisSwitch.Video
