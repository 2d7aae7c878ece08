import CardVault.Main
import CardVault.Proofs.OpenTransfer.Calls
import CardVault.Proofs.RoundTrip
import CardVault.Proofs.ReadCourse.Calls
import CardVault.Proofs.PhasedTransfer
import CardVault.Proofs.HistoryIndependence
import CardVault.Proofs.ErrorBoundary
import CardVault.Proofs.SignedRequest
import CardVault.Proofs.AdvisoryBytes
import CardVault.Proofs.FrameFormat.Calls
import CardVault.Proofs.FixedRecord
import CardVault.Proofs.FixedRecord.Sizes
import CardVault.Proofs.RelayStream
import CardVault.Proofs.LinkLifecycle
import CardVault.Proofs.ShellRun
import CardVault.Proofs.EndedTransfer
import CardVault.Proofs.StorePlan
import CardVault.Proofs.Draining
import CardVault.Proofs.FrameLayout
import CardVault.Proofs.KeyEncoding
import CardVault.Proofs.InitReach
import CardVault.Proofs.FixedRecord.Exchange
import CardVault.Proofs.LineGrammar
import CardVault.Proofs.ShellReports
import CardVault.Proofs.WordBounds
import CardVault.Proofs.AllowedMoves
import CardVault.Proofs.FileEffects
import CardVault.Options.Given
import CardVault.Proofs.OptionOrder
