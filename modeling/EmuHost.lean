import EmuHost.Entry.Embedding
import EmuHost.Proofs.InputHistory
import EmuHost.Proofs.SurfaceStaging
import EmuHost.Proofs.GraphicsCalls
import EmuHost.Proofs.GraphicsStages
import EmuHost.Proofs.RendererProtocol
import EmuHost.Proofs.CallEffects
import EmuHost.Proofs.DeviceCalls
import EmuHost.Proofs.SessionHistory
import EmuHost.Proofs.PublishedInput
import EmuHost.Proofs.FailedCalls
import EmuHost.Proofs.StopRequests
import EmuHost.Proofs.DeviceContexts
import EmuHost.Proofs.AcceptedConfiguration
import EmuHost.Proofs.SessionTranslation
import EmuHost.Proofs.EntryArguments
import EmuHost.Proofs.EntrySimulation
import EmuHost.Proofs.FailedLoads
import EmuHost.Proofs.SwapCallbacks
import EmuHost.Proofs.RenewedGraphics
import EmuHost.Proofs.AnisotropyLimit
import EmuHost.Proofs.SavedConfiguration
import EmuHost.Proofs.PartialConfiguration
import EmuHost.Proofs.TouchHistory
import EmuHost.Proofs.SlotHandles
import EmuHost.Proofs.FrameCounts
import EmuHost.Proofs.InteropRequirements
import EmuHost.Proofs.SmoothedTimings
import EmuHost.Proofs.LetterboxMapping
import EmuHost.Proofs.DetectedApplications
import EmuHost.Proofs.DirectoryEntries
import EmuHost.Proofs.PanelRounding
import EmuHost.Proofs.PanelEdges
import EmuHost.Proofs.PanelBounds
