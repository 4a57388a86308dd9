import ArtemisSwitch.Library.Delimiters
import ArtemisSwitch.ServerRecord

/-!
# What a host can do

The kind of a host is found in the versions that it reports, or in an earlier probe.  The fields
of its record say which of the extensions of that kind are granted.
-/

namespace ArtemisSwitch.Capabilities
open HostAddress ServerRecord
open HostStore (tolower)

structure HostCapabilities where
  kind : HostKind := .unknown
  standardGameStream : Bool := true
  gamepadInput : Bool := false
  extendedLaunchOptions : Bool := false
  preciseRefreshRate : Bool := false
  virtualDisplay : Bool := false
  hostManagedVirtualDisplay : Bool := false
  virtualDisplayDriverReady : Bool := false
  serverCommands : Bool := false
  clipboardSync : Bool := false
  inputOnly : Bool := false
  permissionAdvertised : Bool := false
  permissions : UInt32 := 0
  serverCommandList : List Bytes := []
  deriving DecidableEq

structure HostMetadata where
  appVersion : Bytes
  gfeVersion : Bytes
  gsVersion : Bytes
  advertisedExtensions : Bytes := []

def contains (haystack : Bytes) (needle : String) : Bool :=
  (Delimiters.find (ascii needle) (haystack.map tolower) 0).isSome

/-- The name stands in one of the texts. -/
def HostMetadata.names (metadata : HostMetadata) (needle : String) : Bool :=
  contains metadata.appVersion needle || contains metadata.gfeVersion needle ||
    contains metadata.gsVersion needle || contains metadata.advertisedExtensions needle

def isApolloFamily (kind : HostKind) : Bool := kind = .apollo || kind = .vibepollo

/-! ## The kinds -/

def standardSunshine : HostCapabilities := { kind := .sunshine, gamepadInput := true }

def apollo : HostCapabilities :=
  { kind := .apollo, gamepadInput := true, extendedLaunchOptions := true,
    preciseRefreshRate := true, virtualDisplay := true }

def vibeshine : HostCapabilities :=
  { kind := .vibeshine, gamepadInput := true, extendedLaunchOptions := true,
    preciseRefreshRate := true }

def punktfunk : HostCapabilities :=
  { kind := .punktfunk, gamepadInput := true, hostManagedVirtualDisplay := true }

def vibepollo : HostCapabilities := { apollo with kind := .vibepollo }

def polaris : HostCapabilities := { standardSunshine with kind := .polaris }

def solarFlare : HostCapabilities := { standardSunshine with kind := .solarFlare }

def foundationSunshine : HostCapabilities := { standardSunshine with kind := .foundationSunshine }

/-- An extension list takes the place of what every host of the family has. -/
def withExtensions (extensions : Bytes) (result : HostCapabilities) : HostCapabilities :=
  if extensions = [] then result
  else
    { result with
      virtualDisplay :=
        contains extensions "virtual-display" || contains extensions "virtual_display"
      serverCommands :=
        contains extensions "client-commands" || contains extensions "server-commands"
      clipboardSync := contains extensions "clipboard"
      inputOnly := contains extensions "input-only" || contains extensions "input_only" }

def detect (metadata : HostMetadata) : HostCapabilities :=
  if metadata.names "vibeshine" then vibeshine
  else if metadata.names "punktfunk" then punktfunk
  else if metadata.names "vibepollo" then withExtensions metadata.advertisedExtensions vibepollo
  else if metadata.names "apollo" then withExtensions metadata.advertisedExtensions apollo
  else if metadata.names "polaris" then polaris
  else if metadata.names "solar-flare" || metadata.names "solarflare" then solarFlare
  else if metadata.names "foundation" then foundationSunshine
  else standardSunshine

def ofKind : HostKind → HostCapabilities
  | .apollo => apollo
  | .vibepollo => vibepollo
  | .vibeshine => vibeshine
  | .punktfunk => punktfunk
  | .polaris => polaris
  | .solarFlare => solarFlare
  | .foundationSunshine => foundationSunshine
  | .sunshine => standardSunshine
  | .unknown => standardSunshine

def clipboardSet : UInt32 := 0x00010000

def clipboardRead : UInt32 := 0x00020000

def serverCommand : UInt32 := 0x00100000

/-- Permission and command fields are evidence of Apollo. -/
def recognised (identity : HostKind) (permissionAdvertised : Bool) (serverCommands : List Bytes) :
    HostCapabilities :=
  let result := ofKind identity
  if result.kind = .sunshine ∧ (permissionAdvertised = true ∨ serverCommands ≠ []) then apollo
  else result

def fromServerInfo (identity : HostKind) (virtualDisplayCapable virtualDisplayDriverReady
    permissionAdvertised : Bool) (permissions : UInt32) (serverCommands : List Bytes)
    (currentAppHasUuid : Bool) : HostCapabilities :=
  let result := recognised identity permissionAdvertised serverCommands
  { result with
    virtualDisplay := virtualDisplayCapable || result.virtualDisplay
    extendedLaunchOptions := virtualDisplayCapable || result.extendedLaunchOptions
    preciseRefreshRate := virtualDisplayCapable || result.preciseRefreshRate
    virtualDisplayDriverReady := virtualDisplayDriverReady
    permissionAdvertised := permissionAdvertised
    permissions := permissions
    serverCommandList := serverCommands
    serverCommands := isApolloFamily result.kind && decide (serverCommands ≠ []) &&
      (!permissionAdvertised || decide (permissions &&& serverCommand ≠ 0))
    clipboardSync := isApolloFamily result.kind && permissionAdvertised &&
      decide (permissions &&& (clipboardSet ||| clipboardRead) ≠ 0)
    inputOnly := isApolloFamily result.kind && currentAppHasUuid }

def metadataFromServerData (server : ServerData) : HostMetadata where
  appVersion := server.serverInfoAppVersion
  gfeVersion := server.serverInfoGfeVersion
  gsVersion := server.gsVersion

def detectServerCapabilities (server : ServerData) : HostCapabilities :=
  let fromVersion := detect (metadataFromServerData server)
  let identity := if server.hostIdentity ≠ .unknown then server.hostIdentity else fromVersion.kind
  fromServerInfo identity server.virtualDisplayCapable server.virtualDisplayDriverReady
    server.hasApolloPermissionField server.permission server.serverCommands
    (decide (server.currentGameUuid ≠ []))

def supportsExtendedLaunchOptions (server : ServerData) : Bool :=
  (detectServerCapabilities server).extendedLaunchOptions

def supportsPreciseRefreshRate (server : ServerData) : Bool :=
  (detectServerCapabilities server).preciseRefreshRate

/-! ## What grants an extension -/

variable {identity : HostKind} {capable ready advertised uuid : Bool} {permissions : UInt32}
  {commands : List Bytes}

lemma ofKind_kind (identity : HostKind) :
    (ofKind identity).kind = if identity = .unknown then .sunshine else identity := by
  cases identity <;> rfl

/-- A kind that is not of the family is taken for Apollo on its own fields only. -/
lemma recognised_family (h : isApolloFamily (recognised identity advertised commands).kind) :
    isApolloFamily identity ∨
      (identity = .sunshine ∨ identity = .unknown) ∧ (advertised = true ∨ commands ≠ []) := by
  simp only [recognised] at h
  split_ifs at h with hevidence
  · refine .inr ⟨?_, hevidence.2⟩
    have hkind := hevidence.1
    rw [ofKind_kind] at hkind
    by_cases hunknown : identity = .unknown
    · exact .inr hunknown
    · rw [if_neg hunknown] at hkind
      exact .inl hkind
  · rw [ofKind_kind] at h
    by_cases hunknown : identity = .unknown
    · rw [if_pos hunknown] at h
      cases h
    · rw [if_neg hunknown] at h
      exact .inl h

/-- **The clipboard is shared only with a host that advertised a permission for it.** -/
theorem clipboard_is_permitted
    (h : (fromServerInfo identity capable ready advertised permissions commands
      uuid).clipboardSync = true) :
    advertised = true ∧ permissions &&& (clipboardSet ||| clipboardRead) ≠ 0 ∧
      (isApolloFamily identity ∨ identity = .sunshine ∨ identity = .unknown) := by
  simp only [fromServerInfo, Bool.and_eq_true, decide_eq_true_eq] at h
  obtain ⟨⟨hfamily, hadvertised⟩, hpermitted⟩ := h
  exact ⟨hadvertised, hpermitted, (recognised_family hfamily).imp_right And.left⟩

/-- Fields that other hosts have as well do not grant the extensions of the family. -/
theorem family_needs_evidence (hkind : isApolloFamily identity = false)
    (hpermission : advertised = false) (hcommands : commands = []) :
    let result := fromServerInfo identity capable ready advertised permissions commands uuid
    result.serverCommands = false ∧ result.clipboardSync = false ∧ result.inputOnly = false := by
  have hfamily : isApolloFamily (recognised identity advertised commands).kind = false := by
    rw [Bool.eq_false_iff]
    intro hfamily
    rcases recognised_family hfamily with hidentity | ⟨-, hevidence | hevidence⟩
    · rw [hkind] at hidentity
      cases hidentity
    · rw [hpermission] at hevidence
      cases hevidence
    · exact hevidence hcommands
  simp only [fromServerInfo, hfamily, Bool.false_and, and_self]

end ArtemisSwitch.Capabilities
