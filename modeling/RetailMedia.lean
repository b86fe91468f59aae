import RetailMedia.Lib.Run
import RetailMedia.Lib.Rows
import RetailMedia.Lib.Ledger
import RetailMedia.Clock
import RetailMedia.Schema
import RetailMedia.Inventory.Slots
import RetailMedia.Inventory.Conflicts
import RetailMedia.Inventory.Rules
import RetailMedia.Inventory.Reservation
import RetailMedia.Inventory.Balance
import RetailMedia.Inventory.ReserveSpec
import RetailMedia.Inventory.Overbooking
import RetailMedia.Inventory.Plans
import RetailMedia.Inventory.Supply
import RetailMedia.Inventory.Hours
import RetailMedia.Inventory.Alternatives
import RetailMedia.Inventory.Suggestions
import RetailMedia.Campaign.Lifecycle
import RetailMedia.Campaign.Simulation
import RetailMedia.Campaign.SimulationFit
import RetailMedia.Campaign.Completeness
import RetailMedia.Lib.Sha256
import RetailMedia.Delivery.Targets
import RetailMedia.Delivery.Resolution
import RetailMedia.Delivery.Manifest
import RetailMedia.Delivery.Generate
import RetailMedia.Delivery.GenerateSpec
import RetailMedia.Campaign.Creatives
import RetailMedia.Delivery.Freshness
import RetailMedia.Delivery.Regeneration
import RetailMedia.Delivery.Projection
import RetailMedia.Delivery.Events
import RetailMedia.Delivery.Pipeline
import RetailMedia.Delivery.StoppedCampaigns
import RetailMedia.Delivery.RejectedAssets
import RetailMedia.Delivery.SharedDevices
import RetailMedia.Auth.Replay
import RetailMedia.Pop.Ingestion
import RetailMedia.Lib.Interleaving
import RetailMedia.Licensing.Enrollment
import RetailMedia.Pop.Integrity
import RetailMedia.Pop.Isolation
import RetailMedia.Pop.Concurrency
import RetailMedia.Pop.Races
import RetailMedia.Lib.Query
import RetailMedia.Pop.Quarantine
import RetailMedia.Pop.Reports
import RetailMedia.Lib.Occupancy
import RetailMedia.Licensing.Peak
import RetailMedia.Licensing.Report
import RetailMedia.Licensing.Capacity
import RetailMedia.Licensing.Fleet
import RetailMedia.Licensing.Reconciliation
import RetailMedia.Licensing.SeatAgreement
import RetailMedia.Licensing.Onboarding
import RetailMedia.Licensing.SingleUse
import RetailMedia.Licensing.Fingerprints
import RetailMedia.Inventory.Conservation
import RetailMedia.Campaign.Reserving
import RetailMedia.Campaign.LostUpdates
import RetailMedia.Pop.Tenancy
import RetailMedia.Campaign.Mutations
import RetailMedia.Campaign.References
import RetailMedia.Auth.Scopes
import RetailMedia.Auth.Administrators
import RetailMedia.Auth.Login
import RetailMedia.Auth.LoginLimit
import RetailMedia.Campaign.Uploads
import RetailMedia.Auth.Exchange
import RetailMedia.Auth.SessionCap
import RetailMedia.Campaign.Transitions
import RetailMedia.Campaign.StatusChain
import RetailMedia.Campaign.Edits
import RetailMedia.Campaign.Freeze
import RetailMedia.Campaign.Decisions
import RetailMedia.Campaign.Bookings
import RetailMedia.Campaign.Outbox
import RetailMedia.Lib.JsonText
import RetailMedia.Lib.JsonDump
import RetailMedia.Lib.PyValue
import RetailMedia.Lib.Substring
import RetailMedia.Lib.Latest
import RetailMedia.Lib.PyDecimal
import RetailMedia.Delivery.Consumer
import RetailMedia.Delivery.DeviceWrite
import RetailMedia.Delivery.Acknowledged
import RetailMedia.Delivery.Versions
import RetailMedia.Delivery.VersionOrder
import RetailMedia.Delivery.ManifestCache
import RetailMedia.Delivery.CacheCoherence
import RetailMedia.Delivery.Wire
import RetailMedia.Delivery.PlayerClient
import RetailMedia.Delivery.PlayerAgreement
import RetailMedia.Delivery.Identity
import RetailMedia.Player.Simulator
import RetailMedia.Player.ManifestStore
import RetailMedia.Player.SafetyGates
import RetailMedia.Delivery.Relay
import RetailMedia.Delivery.RelaySafety
import RetailMedia.Delivery.EmergencySwitch
import RetailMedia.Commerce.Tariffs
import RetailMedia.Commerce.Pricing
import RetailMedia.Commerce.Amounts
import RetailMedia.Commerce.InForce
import RetailMedia.Commerce.Currency
import RetailMedia.Lib.PyInt
import RetailMedia.Advertiser.Codes
import RetailMedia.Player.OfflineClock
import RetailMedia.Player.PlaybackStatus
import RetailMedia.Observability.RateLimit
import RetailMedia.Lib.PyText
import RetailMedia.Lib.FreshName
import RetailMedia.Advertiser.Applications
import RetailMedia.Advertiser.Invites
import RetailMedia.Auth.Sanitize
import RetailMedia.Lib.Hidden
import RetailMedia.Player.RetryBackoff
import RetailMedia.Lib.RowSecurity
import RetailMedia.Tenancy.Settings
import RetailMedia.Tenancy.Policies
import RetailMedia.Tenancy.Isolation
import RetailMedia.Tenancy.DeviceScope
import RetailMedia.Auth.Passwords
import RetailMedia.Auth.Revocation
import RetailMedia.Commerce.Orders
import RetailMedia.Player.PopUpload
import RetailMedia.Player.UploadOnce
import RetailMedia.Player.UploadResults
import RetailMedia.Lib.Csv
import RetailMedia.Pop.Export
import RetailMedia.Delivery.EventBus
import RetailMedia.Lib.FileTree
import RetailMedia.Backup.Objects
import RetailMedia.Backup.Restore
import RetailMedia.Backup.RoundTrip
import RetailMedia.Advertiser.Onboarding
import RetailMedia.Lib.Paging
import RetailMedia.Campaign.Listings
import RetailMedia.Campaign.ApprovalQueue
import RetailMedia.Campaign.QueueRepeats
