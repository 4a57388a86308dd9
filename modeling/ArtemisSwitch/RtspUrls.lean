import ArtemisSwitch.DecimalText
import ArtemisSwitch.Library.Delimiters

/-!
# The RTSP URL of a proxied session

`rewrite_rtsp_host_to_loopback` puts loopback in the place of the host.  It takes the first colon
behind the scheme for the end of the host.
-/

namespace ArtemisSwitch.Rtsp
open HostAddress DecimalText

def slash : UInt8 := 47

def openingBracket : UInt8 := 91

def closingBracket : UInt8 := 93

def schemeMark : Bytes := [colon, slash, slash]

def loopback : Bytes := ascii "127.0.0.1"

/-- `find_first_of(":/", pos)`. -/
def findHostEnd (url : Bytes) (pos : ℕ) : Option ℕ :=
  ((url.drop pos).findIdx? fun c => c = colon || c = slash).map (pos + ·)

def rewriteRtspHostToLoopback (url : Bytes) : Bytes :=
  match Delimiters.find schemeMark url 0 with
  | none => url
  | some schemeEnd =>
    let hostStart := schemeEnd + 3
    let hostEnd := (findHostEnd url hostStart).getD url.length
    url.take hostStart ++ loopback ++ url.drop hostEnd

/-! ## The URLs that a host reports -/

structure RtspUrl where
  scheme : Bytes
  host : Bytes
  port : Option Bytes
  path : Bytes
  deriving DecidableEq, Repr

namespace RtspUrl

/-- An IPv6 literal in its brackets. -/
def Bracketed (host : Bytes) : Prop :=
  ∃ literal, host = openingBracket :: literal ++ [closingBracket] ∧ colon ∈ literal ∧
    slash ∉ literal

/-- A host is a name, a literal of digits and dots, or a literal in brackets. -/
structure WellFormed (u : RtspUrl) : Prop where
  scheme : u.scheme ≠ [] ∧ colon ∉ u.scheme ∧ slash ∉ u.scheme
  host : (u.host ≠ [] ∧ colon ∉ u.host ∧ slash ∉ u.host) ∨ Bracketed u.host
  port : ∀ digits ∈ u.port, digits ≠ [] ∧ digits.all isdigit = true
  path : u.path = [] ∨ u.path.head? = some slash

/-- What stands behind the host. -/
def afterHost (u : RtspUrl) : Bytes :=
  (match u.port with
  | some digits => colon :: digits
  | none => []) ++ u.path

def text (u : RtspUrl) : Bytes := u.scheme ++ schemeMark ++ u.host ++ u.afterHost

end RtspUrl

variable {u : RtspUrl} {scheme host rest front behind : Bytes}

/-- Whether the search for the end of the host goes on. -/
def inHost (c : UInt8) : Bool := !(c = colon || c = slash)

lemma drop_findHostEnd (url : Bytes) (pos : ℕ) :
    url.drop ((findHostEnd url pos).getD url.length) = (url.drop pos).dropWhile inHost := by
  have hnot : (fun c => !inHost c) = fun c => (c = colon || c = slash : Bool) :=
    funext fun c => Bool.not_not _
  rw [List.dropWhile_eq_drop_findIdx_not, hnot, findHostEnd]
  cases h : (url.drop pos).findIdx? fun c => c = colon || c = slash with
  | none =>
    rw [List.findIdx?_eq_none_iff_findIdx_eq.mp h, List.drop_length]
    exact List.drop_length
  | some place =>
    rw [(List.findIdx?_eq_some_iff_findIdx_eq.mp h).2, List.drop_drop]
    rfl

lemma rewrite_eq (h : colon ∉ scheme) :
    rewriteRtspHostToLoopback (scheme ++ schemeMark ++ rest) =
      scheme ++ schemeMark ++ loopback ++ rest.dropWhile inHost := by
  have hfind : Delimiters.find schemeMark (scheme ++ schemeMark ++ rest) 0 =
      some (0 + scheme.length) := Delimiters.find_of_drop h rfl
  have hlength : (scheme ++ schemeMark).length = 0 + scheme.length + 3 := by
    rw [List.length_append, Nat.zero_add]
    rfl
  rw [rewriteRtspHostToLoopback, hfind]
  dsimp only
  rw [drop_findHostEnd, ← hlength, List.take_left, List.drop_left]

/-- Whatever stands behind the host starts with the end of it. -/
lemma dropWhile_afterHost (h : u.WellFormed) : u.afterHost.dropWhile inHost = u.afterHost := by
  unfold RtspUrl.afterHost
  cases u.port with
  | some digits => rfl
  | none =>
    rcases h.path with hpath | hpath
    · rw [hpath]
      rfl
    · obtain ⟨path, hpath⟩ := List.head?_eq_some_iff.mp hpath
      rw [hpath]
      rfl

lemma dropWhile_front (h : colon ∉ front ∧ slash ∉ front) :
    (front ++ rest).dropWhile inHost = rest.dropWhile inHost := by
  refine List.dropWhile_append_of_pos fun c hc => ?_
  have hcolon : c ≠ colon := ne_of_mem_of_not_mem hc h.1
  have hslash : c ≠ slash := ne_of_mem_of_not_mem hc h.2
  simp [inHost, hcolon, hslash]

/-- The host of a literal is taken to end at its first colon. -/
lemma dropWhile_bracketed (h : RtspUrl.Bracketed host) :
    ∃ kept, kept ≠ [] ∧ ∀ rest, (host ++ rest).dropWhile inHost = kept ++ rest := by
  obtain ⟨literal, rfl, hcolon, hslash⟩ := h
  obtain ⟨front, behind, rfl, hfront⟩ := List.eq_append_cons_of_mem hcolon
  refine ⟨colon :: behind ++ [closingBracket], List.cons_ne_nil _ _, fun rest => ?_⟩
  have hopening : colon ∉ openingBracket :: front ∧ slash ∉ openingBracket :: front := by
    constructor
    · rintro (_ | ⟨_, hmem⟩)
      exact hfront hmem
    · rintro (_ | ⟨_, hmem⟩)
      exact hslash (List.mem_append_left _ hmem)
  have htext : openingBracket :: (front ++ colon :: behind) ++ [closingBracket] ++ rest =
      openingBracket :: front ++ (colon :: behind ++ [closingBracket] ++ rest) := by
    simp
  rw [htext, dropWhile_front hopening]
  rfl

lemma rewrite_eq_iff (h : u.WellFormed) :
    rewriteRtspHostToLoopback u.text = { u with host := loopback }.text ↔
      ¬RtspUrl.Bracketed u.host := by
  have hrewrite : rewriteRtspHostToLoopback u.text =
      u.scheme ++ schemeMark ++ loopback ++ (u.host ++ u.afterHost).dropWhile inHost := by
    rw [RtspUrl.text, List.append_assoc _ u.host]
    exact rewrite_eq h.scheme.2.1
  have hmeant : { u with host := loopback }.text =
      u.scheme ++ schemeMark ++ loopback ++ u.afterHost := rfl
  rw [hrewrite, hmeant, List.append_cancel_left_eq]
  constructor
  · rintro heq hbracketed
    obtain ⟨kept, hkept, hdrop⟩ := dropWhile_bracketed hbracketed
    rw [hdrop, List.append_left_eq_self] at heq
    exact hkept heq
  · intro hplain
    have hhost := h.host.resolve_right hplain
    rw [dropWhile_front hhost.2, dropWhile_afterHost h]

/-- **Loopback takes the place of the host unless that is a literal in brackets.** -/
theorem rewrites_host (u : RtspUrl) (h : u.WellFormed) :
    rewriteRtspHostToLoopback u.text = { u with host := loopback }.text ↔
      ¬RtspUrl.Bracketed u.host :=
  rewrite_eq_iff h

theorem rewrites_host_name :
    rewriteRtspHostToLoopback (ascii "rtspenc://pc.lan:48010/s") =
      ascii "rtspenc://127.0.0.1:48010/s" := by
  have hname : ¬RtspUrl.Bracketed (ascii "pc.lan") := by
    rintro ⟨literal, hhost, -, -⟩
    exact absurd (List.cons.inj hhost).1 (by decide)
  exact (rewrites_host ⟨ascii "rtspenc", ascii "pc.lan", some (ascii "48010"), ascii "/s"⟩
    ⟨by decide, .inl (by decide), by decide, by decide⟩).mpr hname

def literalUrl : RtspUrl := ⟨ascii "rtsp", ascii "[fe80::1]", some (ascii "48010"), []⟩

/-- What is left of the literal stays behind loopback. -/
theorem rewrites_host_literal : literalUrl.WellFormed ∧
    rewriteRtspHostToLoopback literalUrl.text = ascii "rtsp://127.0.0.1::1]:48010" ∧
    { literalUrl with host := loopback }.text = ascii "rtsp://127.0.0.1:48010" := by
  have hbracketed : RtspUrl.Bracketed literalUrl.host :=
    ⟨ascii "fe80::1", rfl, by decide, by decide⟩
  exact ⟨⟨by decide, .inr hbracketed, by decide, .inl rfl⟩, by decide +kernel, by decide +kernel⟩

end ArtemisSwitch.Rtsp
