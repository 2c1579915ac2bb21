import CatalogCache.Main
import CatalogCache.Proofs.Polling
import CatalogCache.Proofs.Hydration
import CatalogCache.Proofs.Requests
import CatalogCache.Proofs.Sessions
import CatalogCache.Proofs.Documents
import CatalogCache.Proofs.JsonTokens
import CatalogCache.Proofs.JsonGrammar
import CatalogCache.Proofs.JsonTexts
import CatalogCache.Proofs.JsonPrinting
import CatalogCache.Proofs.Ingestion
import CatalogCache.Proofs.Slots
import CatalogCache.Proofs.Addresses
import CatalogCache.Proofs.Discovery
import CatalogCache.Proofs.KeyLists
import CatalogCache.Proofs.TwoWaysIn
import CatalogCache.Proofs.CardSessions
import CatalogCache.Proofs.EnvironmentFiles
import CatalogCache.Proofs.Base64Texts
import CatalogCache.Proofs.Payloads
import CatalogCache.Proofs.UpsertReplies
import CatalogCache.Proofs.CardlessUpserts
import CatalogCache.Proofs.FaultyRuns
import CatalogCache.Proofs.BodyEncodings
import CatalogCache.Proofs.HydrationRetries
import CatalogCache.Proofs.Redelivery
import CatalogCache.Proofs.JsonAnswers
import CatalogCache.Proofs.UsableSettings
import CatalogCache.Proofs.SettingsLayers
import CatalogCache.Proofs.FileReadings
import CatalogCache.Proofs.QuotedValues
import CatalogCache.Proofs.KeyNames
import CatalogCache.Proofs.Utf8Texts
import CatalogCache.Proofs.RequestReports
import CatalogCache.Proofs.CardCounts

