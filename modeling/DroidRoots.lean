import DroidRoots.Main
import DroidRoots.Session
import DroidRoots.Proofs.SignatureGrammar
import DroidRoots.Proofs.SignatureRoundTrip
import DroidRoots.Proofs.SubsignatureForms
import DroidRoots.Proofs.PrototypeGrammar
import DroidRoots.Proofs.AnalysisSteps
import DroidRoots.Proofs.SettledOutcomes
import DroidRoots.Proofs.SessionHistory
import DroidRoots.Proofs.CallGraphEntries
import DroidRoots.Proofs.DiscoveryReport
import DroidRoots.Proofs.Reachability
import DroidRoots.Proofs.SignatureSpellings
import DroidRoots.Proofs.PrintedMethods
import DroidRoots.Proofs.RolePrecedence
import DroidRoots.Proofs.HierarchyLoading
import DroidRoots.Proofs.HierarchyListings
import DroidRoots.Proofs.HierarchyEquivalence
import DroidRoots.Proofs.QueryAccounting
import DroidRoots.Proofs.DegradedSessions
import DroidRoots.Proofs.SupertypeClosure
import DroidRoots.Proofs.SubtypingOrder
import DroidRoots.Proofs.Rearrangement
import DroidRoots.Proofs.Widening
import DroidRoots.Proofs.Reselection
import DroidRoots.Proofs.SuppliedCatalogs
import DroidRoots.Proofs.CatalogContents
import DroidRoots.Proofs.CatalogFaults
import DroidRoots.Proofs.TextualCallGraphs
import DroidRoots.Proofs.AbsentFields
import DroidRoots.Proofs.YamlDocuments
import DroidRoots.Proofs.SettingsLayers
import DroidRoots.Proofs.SettingsOverride
import DroidRoots.Proofs.RunOutcomes
import DroidRoots.Proofs.CatalogChoice
import DroidRoots.Proofs.FileChanges
import DroidRoots.Proofs.JsonTexts
import DroidRoots.Proofs.OptionValues
import DroidRoots.Proofs.Acts
import DroidRoots.Proofs.CommandEffects
import DroidRoots.Proofs.RunSpans
