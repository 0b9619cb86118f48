import MeeoServer.Process.Sequential
import MeeoServer.Schema.Commit
import MeeoServer.Inventory.Effects
import MeeoServer.Inventory.Services
import MeeoServer.Orders.Creation
import MeeoServer.Orders.Status
import MeeoServer.Payments.Creation
import MeeoServer.Payments.Settlement
import MeeoServer.Server.Calls
import MeeoServer.Server.Tables
import MeeoServer.Server.Growth
import MeeoServer.Inventory.Accounting
import MeeoServer.Inventory.Availability
import MeeoServer.Inventory.Holds
import MeeoServer.Orders.Ownership
import MeeoServer.Orders.Conservation
import MeeoServer.Payments.Refunds
import MeeoServer.Payments.States
import MeeoServer.Payments.Binding
import MeeoServer.Orders.StateMachine
import MeeoServer.Payments.DeadOrders
import MeeoServer.Orders.Idempotency
import MeeoServer.Numeric.Fixed
import MeeoServer.Process.Results
import MeeoServer.Promotions.Cache
import MeeoServer.Storefront.Agreement
import MeeoServer.Storefront.Targets
import MeeoServer.Tax.Reconciliation
import MeeoServer.Auth.Accounts
import MeeoServer.Auth.Mailbox
import MeeoServer.Auth.Provenance
import MeeoServer.Auth.Rotation
import MeeoServer.Payments.Provider
import MeeoServer.Payments.RealRefunds
import MeeoServer.Auth.Admission
import MeeoServer.Auth.Invalidation
import MeeoServer.Auth.Revocation
import MeeoServer.Outbox.Deliveries
import MeeoServer.Outbox.LifeCycle
import MeeoServer.Outbox.Locks
import MeeoServer.Payments.Ledger
import MeeoServer.Payments.OpenPayments
import MeeoServer.Storefront.Interleaved
import MeeoServer.Storefront.Limits
import MeeoServer.Storefront.Worth
import MeeoServer.Catalog.Variants
import MeeoServer.Catalog.Ledger
import MeeoServer.Tax.Publication
import MeeoServer.Customers.Addresses
import MeeoServer.Customers.Carts
import MeeoServer.Customers.Checkout
import MeeoServer.Customers.Isolation
import MeeoServer.Storefront.Responses
import MeeoServer.Tax.Components
import MeeoServer.Tax.History
import MeeoServer.Catalog.Categories
import MeeoServer.Customers.Additions
import MeeoServer.Customers.Clearing
import MeeoServer.Catalog.Coherence
import MeeoServer.Table.Grouping
import MeeoServer.Tracking.Aggregation
import MeeoServer.Inventory.Expiry
import MeeoServer.Promotions.Allocations
import MeeoServer.Promotions.Order
import MeeoServer.Promotions.Schemas
import MeeoServer.Promotions.Stacking
import MeeoServer.Coupons.Administration
import MeeoServer.Coupons.Configuration
import MeeoServer.Tax.Supply
import MeeoServer.Auth.Assignments
import MeeoServer.Auth.Protection
import MeeoServer.Auth.Unlinking
import MeeoServer.Catalog.Listing
import MeeoServer.Customers.AddressBook
import MeeoServer.Customers.DefaultAddress
import MeeoServer.Orders.Confirmation
import MeeoServer.Payments.Reconciliation
import MeeoServer.Search.Categories
import MeeoServer.Tax.Immutability
import MeeoServer.Catalog.CategoryTree
import MeeoServer.Search.Facets
import MeeoServer.Dashboard.Overview
import MeeoServer.Dashboard.SalesChart
import MeeoServer.Text.Json
import MeeoServer.Text.Units
import MeeoServer.Security.Masking
import MeeoServer.Catalog.CursorPagination
import MeeoServer.Security.Sanitizer
import MeeoServer.Tax.AmountInWords
import MeeoServer.Observability.ErrorAlerts
import MeeoServer.Observability.ConfigCache
import MeeoServer.Catalog.Ancestors
import MeeoServer.Observability.Metrics
import MeeoServer.Reviews.Moderation
import MeeoServer.Sockets.Delivery
import MeeoServer.Reviews.Records
import MeeoServer.Reviews.Summary
import MeeoServer.Settings.Rollout
import MeeoServer.Settings.Service
import MeeoServer.Notifications.Records
import MeeoServer.Tracking.Ingestion
import MeeoServer.Caching.Service
import MeeoServer.Auth.Phone
import MeeoServer.Catalog.Slugs
import MeeoServer.Security.ClientIp
import MeeoServer.Customers.Wishlists
import MeeoServer.Tracking.User360
import MeeoServer.Outbox.Operations
import MeeoServer.Search.Narrowing
import MeeoServer.Catalog.Galleries
