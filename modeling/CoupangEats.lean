import CoupangEats.Base.Machine
import CoupangEats.Base.Replay
import CoupangEats.Base.Interleave
import CoupangEats.Base.Program
import CoupangEats.Base.Contest
import CoupangEats.Base.Table
import CoupangEats.Base.Json
import CoupangEats.Base.Save
import CoupangEats.Base.References
import CoupangEats.Base.Transaction
import CoupangEats.Base.Text
import CoupangEats.Base.Expiring
import CoupangEats.Base.Schema
import CoupangEats.Base.Cascade
import CoupangEats.Base.Pages
import CoupangEats.Base.Rooms
import CoupangEats.Entity
import CoupangEats.Columns
import CoupangEats.Order.Service
import CoupangEats.Order.Calls
import CoupangEats.Order.Placement
import CoupangEats.Order.Prices
import CoupangEats.Order.Lifecycle
import CoupangEats.Order.Notices
import CoupangEats.Order.Pickup
import CoupangEats.Order.Basket
import CoupangEats.Order.Cron
import CoupangEats.Order.Drivers
import CoupangEats.Order.Queries
import CoupangEats.Order.Race
import CoupangEats.Payment.Service
import CoupangEats.Order.Cleanup
import CoupangEats.Payment.Ledger
import CoupangEats.Payment.Race
import CoupangEats.Auth.Token
import CoupangEats.Auth.Header
import CoupangEats.Auth.Rotation
import CoupangEats.Auth.Issue
import CoupangEats.Auth.Revocation
import CoupangEats.Auth.Lifetime
import CoupangEats.Auth.Acceptance
import CoupangEats.Auth.Reuse
import CoupangEats.Auth.RefreshRace
import CoupangEats.Auth.SignOut
import CoupangEats.Auth.SignUp
import CoupangEats.Auth.Account
import CoupangEats.Auth.EmailGate
import CoupangEats.User.Cache
import CoupangEats.User.CacheRace
import CoupangEats.User.UpdateRace
import CoupangEats.Core.CacheService
import CoupangEats.Core.CacheModule
import CoupangEats.Core.CacheDiscovery
import CoupangEats.Auth.SignUpFailure
import CoupangEats.Auth.SignUpRace
import CoupangEats.Core.Logging
import CoupangEats.Core.Migration
import CoupangEats.Core.Pagination
import CoupangEats.Catalogue.Listing
import CoupangEats.Catalogue.Service
import CoupangEats.Catalogue.Isolation
import CoupangEats.Catalogue.Menu
import CoupangEats.Catalogue.Category
import CoupangEats.Review.Service
import CoupangEats.Order.Frozen
import CoupangEats.Order.Totals
import CoupangEats.Order.Refusals
import CoupangEats.Order.Life
import CoupangEats.Events.Gateway
import CoupangEats.Events.Mirror
import CoupangEats.Core.Response
import CoupangEats.Upload.Storage
import CoupangEats.Review.Duplicates
import CoupangEats.Review.Authors
import CoupangEats.Platform.Writes
import CoupangEats.Platform.Server
import CoupangEats.Platform.Effects
import CoupangEats.Platform.Integrity
import CoupangEats.Platform.ForeignKeys
import CoupangEats.Platform.OrderLife
import CoupangEats.Platform.Traffic
import CoupangEats.Platform.Access
import CoupangEats.Platform.Failures
import CoupangEats.Platform.Cache
import CoupangEats.Platform.Session
import CoupangEats.Platform.Passwords
import CoupangEats.Platform.Registration
