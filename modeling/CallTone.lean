import CallTone.About
import CallTone.App.Edit
import CallTone.Json.Reader
import CallTone.Main
import CallTone.Resolver.Script
import CallTone.Proofs.Utf8RoundTrip
import CallTone.Proofs.PercentDecoding
import CallTone.Proofs.FileReferences
import CallTone.Proofs.BoundaryFailures
import CallTone.Proofs.DialogueRuns
import CallTone.Proofs.ResolverRuns
import CallTone.Proofs.FailureReports
import CallTone.Proofs.SelectionProvenance
import CallTone.Proofs.CallerOverride
import CallTone.Proofs.AppAnswers
import CallTone.Proofs.SoundPlaces
import CallTone.Proofs.VerbatimReferences
import CallTone.Proofs.AliasPlacement
import CallTone.Proofs.ValidatedUsers
import CallTone.Proofs.RegisteredUsers
import CallTone.Proofs.SettingsRule
import CallTone.Proofs.CallSelection
import CallTone.Proofs.VibrationSound
import CallTone.Proofs.LockedSounds
import CallTone.Proofs.UserAgreement
import CallTone.Proofs.CallIsolation
import CallTone.Proofs.FreshWiring
import CallTone.Proofs.ReportForecast
import CallTone.Proofs.ReportBreaks
import CallTone.Proofs.GuardedSessions
import CallTone.Proofs.CommandAnswers
import CallTone.Proofs.SettingsBreaks
import CallTone.Proofs.SpelledSettings
import CallTone.Proofs.DeviceConsistency
import CallTone.Proofs.ProfileTally
import CallTone.Proofs.VolumeCurves
import CallTone.Proofs.WorkProfiles
import CallTone.Proofs.WorkProfileLine
import CallTone.Proofs.CacheWarning
import CallTone.Proofs.SilentRings
import CallTone.Proofs.ReferenceGrammar
import CallTone.Proofs.LoadableReferences
import CallTone.Proofs.PrintedPaths
import CallTone.Proofs.ReadFields
import CallTone.Proofs.WrittenSettings
import CallTone.Proofs.ListingOrder
import CallTone.Proofs.HandleVolumes
import CallTone.Proofs.NearestNumbers
import CallTone.Proofs.ShortestDecimals
import CallTone.Proofs.NumberTexts
import CallTone.Proofs.JsonStrings
import CallTone.Proofs.JsonTexts
import CallTone.Proofs.DescriptionTexts
