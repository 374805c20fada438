import CustomerKeys.Json.Reader
import CustomerKeys.Main
import CustomerKeys.Proofs.Sessions
import CustomerKeys.Proofs.WaitOverflow
import CustomerKeys.Proofs.ReportedKeys
import CustomerKeys.Proofs.OwnInstance
import CustomerKeys.Proofs.KeyConfusion
import CustomerKeys.Proofs.Reversion
import CustomerKeys.Proofs.Lifetimes
import CustomerKeys.Proofs.CreatedClusters
import CustomerKeys.Proofs.ReportedClusters
import CustomerKeys.Proofs.ClusterVerdict
import CustomerKeys.Proofs.ExtendedDocuments
import CustomerKeys.Proofs.SettingsRoundTrip
import CustomerKeys.Proofs.RecordRoundTrips
import CustomerKeys.Proofs.RepeatedWaits
import CustomerKeys.Proofs.AcceptedSettings
import CustomerKeys.Proofs.KeyGrammar
import CustomerKeys.Proofs.KeyRegion
import CustomerKeys.Proofs.MetadataShapes
