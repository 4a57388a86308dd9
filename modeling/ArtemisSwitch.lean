import ArtemisSwitch.Library.Framing
import ArtemisSwitch.Library.Runs
import ArtemisSwitch.Library.AssocMap
import ArtemisSwitch.Library.Mirror
import ArtemisSwitch.Transport
import ArtemisSwitch.Derp
import ArtemisSwitch.DerpDelivery
import ArtemisSwitch.RemoteAccessManager
import ArtemisSwitch.RouteWorld
import ArtemisSwitch.RouteTable
import ArtemisSwitch.RouteAgreement
import ArtemisSwitch.RouteWaiters
import ArtemisSwitch.RemoteRouteLease
import ArtemisSwitch.RouteLeases
import ArtemisSwitch.HomeDerp
import ArtemisSwitch.HostAddress
import ArtemisSwitch.RemoteRouting
import ArtemisSwitch.Json
import ArtemisSwitch.PeerDirectory
import ArtemisSwitch.ControlCodec
import ArtemisSwitch.CodecTotality
import ArtemisSwitch.NetmapAgreement
import ArtemisSwitch.DirectPath
import ArtemisSwitch.DirectTrust
import ArtemisSwitch.DirectCandidates
import ArtemisSwitch.PathReporting
import ArtemisSwitch.Noise
import ArtemisSwitch.NoiseFailStop
import ArtemisSwitch.NoiseRoundTrip
import ArtemisSwitch.Library.CrashFiles
import ArtemisSwitch.StateStore
import ArtemisSwitch.StateCrash
import ArtemisSwitch.TcpRelay
import ArtemisSwitch.Library.Fallible
import ArtemisSwitch.WgxBackend
import ArtemisSwitch.WgxRoute
import ArtemisSwitch.WgxStreaming
import ArtemisSwitch.CoreRoutes
import ArtemisSwitch.LiveRelay
import ArtemisSwitch.Library.Pacing
import ArtemisSwitch.Http2
import ArtemisSwitch.ControlSession
import ArtemisSwitch.ControlStreaming
import ArtemisSwitch.ControlDelivery
import ArtemisSwitch.Oversized
import ArtemisSwitch.NetBirdProvider
import ArtemisSwitch.IncomingQueue
import ArtemisSwitch.HostDuplicates
import ArtemisSwitch.LaunchRequest
import ArtemisSwitch.StreamProfileStore
import ArtemisSwitch.FramePresentation
import ArtemisSwitch.PairingEvidence
import ArtemisSwitch.Library.Regex
import ArtemisSwitch.VpnConfigSecrecy
import ArtemisSwitch.StreamProfileIntegrity
import ArtemisSwitch.ActiveRoutes
import ArtemisSwitch.NcaIntegrity
import ArtemisSwitch.RomfsRoundTrip
import ArtemisSwitch.SessionCleanup
import ArtemisSwitch.ProfileTrace
import ArtemisSwitch.InputIsolation
import ArtemisSwitch.ControllerSync
import ArtemisSwitch.InputRelease
import ArtemisSwitch.DirectoryUpdates
import ArtemisSwitch.PeerResolution
import ArtemisSwitch.ScrollGestures
import ArtemisSwitch.FailedActivation
import ArtemisSwitch.WireGuardTunnel
import ArtemisSwitch.NetBirdStaticConfig
import ArtemisSwitch.DiscoverManager
import ArtemisSwitch.AdvertisedEndpoints
import ArtemisSwitch.InputSettingsCalls
import ArtemisSwitch.StoreFiles
import ArtemisSwitch.Library.Hpack
import ArtemisSwitch.RequestHeaders
import ArtemisSwitch.FlowControl
import ArtemisSwitch.Box
import ArtemisSwitch.Library.CheckedReads
import ArtemisSwitch.DiscoMessages
import ArtemisSwitch.Stun
import ArtemisSwitch.Library.SplitLoops
import ArtemisSwitch.IPv4Literals
import ArtemisSwitch.Reconnect
import ArtemisSwitch.WireGuardRenderings
import ArtemisSwitch.HttpUpgrade
import ArtemisSwitch.ControlKey
import ArtemisSwitch.Library.Substrings
import ArtemisSwitch.DeepLinks
import ArtemisSwitch.WakeAddresses
import ArtemisSwitch.RtspUrls
import ArtemisSwitch.LogSanitizing
import ArtemisSwitch.Library.Cells
import ArtemisSwitch.AppList
import ArtemisSwitch.DataBuffers
import ArtemisSwitch.ServerRecord
import ArtemisSwitch.HostCapabilities
import ArtemisSwitch.StartApp
import ArtemisSwitch.ProfileImport
import ArtemisSwitch.Library.FirstSeen
import ArtemisSwitch.HostMerging
import ArtemisSwitch.Library.Clamping
import ArtemisSwitch.BitrateSteps
import ArtemisSwitch.Library.Spans
import ArtemisSwitch.DisplayMapping
import ArtemisSwitch.Library.Percentiles
import ArtemisSwitch.BenchmarkSummary
import ArtemisSwitch.PacingBounds
import ArtemisSwitch.DecoderStatistics
import ArtemisSwitch.Library.Regions
import ArtemisSwitch.AudioQueue
import ArtemisSwitch.Library.Csv
import ArtemisSwitch.Library.JsonGrammar
import ArtemisSwitch.BenchmarkExport
import ArtemisSwitch.HostIdentityProbe
import ArtemisSwitch.Library.Brackets
import ArtemisSwitch.TlsTransport
import ArtemisSwitch.ForwarderMeta
import ArtemisSwitch.ForwarderInstall
import ArtemisSwitch.HeldKeys
import ArtemisSwitch.NodeIdentity
import ArtemisSwitch.ControlWorker
import ArtemisSwitch.UdpRelay
import ArtemisSwitch.RotatingLog
import ArtemisSwitch.ProviderLifecycle
import ArtemisSwitch.RemoteSelection
import ArtemisSwitch.WakePackets
