/-
# The reviews of the shop

All operations on reviews together: `createReview`, `updateReview` and `deleteReview` of
`reviews/services/review.service.ts`, `moderateReview` and `bulkModerate` of
`reviews/services/reviewModeration.service.ts`, and `reportReview` and `resolveReport` of
`reviews/services/reviewReport.service.ts`.  A review takes its images and its reports with it
when it is deleted.

The identifiers that were drawn and the products that were bought are history, which no program
looks at.  What a moderator had read is not followed up here.  Left out are the image files, which
are deleted at another server before the review is.
-/
import MeeoServer.Process.Interleaving
import MeeoServer.Reviews.Moderation

namespace MeeoServer.Reviews

open Proc

/-! ## The tables -/

inductive ReviewReportReason where
  | spam
  | harassment
  | inappropriate
  | fakeReview
  | offTopic
  | other
deriving DecidableEq

inductive ReviewReportStatus where
  | pending
  | reviewed
  | dismissed
  | actioned
deriving DecidableEq

abbrev ReportId := ℕ

structure ReviewReport where
  id : ReportId
  reviewId : ReviewId
  reporterId : UserId
  reason : ReviewReportReason
  details : Option String
  status : ReviewReportStatus
  resolvedBy : Option UserId
  resolvedAt : Option Millis
  resolutionNote : Option String
deriving DecidableEq

/-- The orders that have been valid purchases of a product. -/
def purchased (purchases : List Purchase) : List (UserId × ProductId) :=
  (purchases.filter fun purchase => purchase.status ∈ validPurchaseStatuses).map
    fun purchase => (purchase.userId, purchase.productId)

/-- The constraints of the table of the reports, and what the history keeps. -/
structure Consistent (tables : Tables) (reports : List ReviewReport) (drawn : List ReviewId)
    (bought : List (UserId × ProductId)) : Prop where
  ids_nodup : (reports.map ReviewReport.id).Nodup
  reporters_nodup : (reports.map fun report => (report.reviewId, report.reporterId)).Nodup
  review_mem : ∀ report ∈ reports, report.reviewId ∈ tables.reviews.map Review.id
  drawn_mem : ∀ review ∈ tables.reviews, review.id ∈ drawn
  bought_mem : purchased tables.purchases ⊆ bought

structure Board where
  tables : Tables
  products : List ProductId
  reports : List ReviewReport
  drawn : List ReviewId
  bought : List (UserId × ProductId)
  consistent : Consistent tables reports drawn bought

namespace Board

/-! ## Batches -/

inductive Commit where
  /-- What `updateReview` and `moderateReview` commit. -/
  | review (c : Reviews.Commit)
  | create (review : Review) (images : List ReviewImage)
  | delete (id : ReviewId)
  /-- A report decides on its review. -/
  | decide (id : ReviewId) (status : ReviewStatus) (adminId : UserId) (now : Millis) (note : String)
  | decideMany (ids : List ReviewId) (status : ReviewStatus) (adminId : UserId) (now : Millis)
      (note : Option String)
  | report (report : ReviewReport)
  | resolve (id : ReportId) (status : ReviewReportStatus) (adminId : UserId) (now : Millis)
      (note : Option String)

def moderated (status : ReviewStatus) (adminId : UserId) (now : Millis) (note : Option String)
    (review : Review) : Review :=
  { review with
    status := status
    moderatedBy := some adminId
    moderatedAt := some now
    moderationNote := note }

def resolved (status : ReviewReportStatus) (adminId : UserId) (now : Millis) (note : Option String)
    (report : ReviewReport) : ReviewReport :=
  { report with
    status := status
    resolvedBy := some adminId
    resolvedAt := some now
    resolutionNote := note }

/-- Write the rows, if the constraints of the tables hold. -/
def withRows (tables : Tables) (reviews : List Review) (images : List ImageRow) : Option Tables :=
  if h : Valid reviews images then
    some { tables with reviews := reviews, images := images, valid := h }
  else none

namespace Commit

/-- The rows of the reviews and their images; `none` if there is no row to update or delete, or a
row that a new one refers to is missing. -/
def tables (s : Board) : Commit → Option Tables
  | .review c => c.apply s.tables
  | .create row images =>
    if row.id ∉ s.drawn ∧ row.productId ∈ s.products then
      withRows s.tables (s.tables.reviews ++ [row])
        (s.tables.images ++ images.map fun image => ⟨row.id, image⟩)
    else none
  | .delete id =>
    if id ∈ s.tables.reviews.map Review.id then
      withRows s.tables (s.tables.reviews.filter fun review => review.id ≠ id)
        (s.tables.images.filter fun row => row.reviewId ≠ id)
    else none
  | .decide id status adminId now note =>
    if id ∈ s.tables.reviews.map Review.id then
      withRows s.tables (Table.updateWhere (fun review => review.id = id)
        (moderated status adminId now (some note)) s.tables.reviews) s.tables.images
    else none
  | .decideMany ids status adminId now note =>
    withRows s.tables (Table.updateWhere (fun review => review.id ∈ ids)
      (moderated status adminId now note) s.tables.reviews) s.tables.images
  | .report _ => some s.tables
  | .resolve id _ _ _ _ => if id ∈ s.reports.map ReviewReport.id then some s.tables else none

def reports (reports : List ReviewReport) : Commit → List ReviewReport
  | .delete id => reports.filter fun report => report.reviewId ≠ id
  | .report row => reports ++ [row]
  | .resolve id status adminId now note =>
    Table.updateWhere (fun report => report.id = id) (resolved status adminId now note) reports
  | _ => reports

def drawn (drawn : List ReviewId) : Commit → List ReviewId
  | .create row _ => drawn ++ [row.id]
  | _ => drawn

end Commit

instance (tables : Tables) (reports : List ReviewReport) (drawn : List ReviewId)
    (bought : List (UserId × ProductId)) : Decidable (Consistent tables reports drawn bought) :=
  decidable_of_iff
    ((reports.map ReviewReport.id).Nodup ∧
      (reports.map fun report => (report.reviewId, report.reporterId)).Nodup ∧
      (∀ report ∈ reports, report.reviewId ∈ tables.reviews.map Review.id) ∧
      (∀ review ∈ tables.reviews, review.id ∈ drawn) ∧
      ∀ pair ∈ purchased tables.purchases, pair ∈ bought)
    ⟨fun h => ⟨h.1, h.2.1, h.2.2.1, h.2.2.2.1, h.2.2.2.2⟩,
      fun h => ⟨h.ids_nodup, h.reporters_nodup, h.review_mem, h.drawn_mem, h.bought_mem⟩⟩

/-- The constraints of the database reject what would leave the tables inconsistent. -/
def apply (c : Commit) (s : Board) : Option Board :=
  match c.tables s with
  | none => none
  | some tables =>
    if h : Consistent tables (c.reports s.reports) (c.drawn s.drawn) s.bought then
      some { s with
        tables := tables
        reports := c.reports s.reports
        drawn := c.drawn s.drawn
        consistent := h }
    else none

/-! ## The services -/

abbrev Service := Proc Board Commit AppError

/-- A service that knows only of the reviews. -/
def onTables {α : Type} (p : Reviews.Service α) : Service α := p.zoom Board.tables Commit.review

structure CreateReviewInput where
  productId : ProductId
  rating : ℤ
  title : Option String
  content : Option String
  images : List ReviewImageInput

structure BulkModerateReviewsInput where
  reviewIds : List ReviewId
  status : ReviewStatus
  decided : status ≠ .pending
  moderationNote : Option String

structure ReportReviewInput where
  reason : ReviewReportReason
  details : Option String

inductive ReportAction where
  | approveReview
  | rejectReview
  | deleteReview
  | noAction
deriving DecidableEq

structure ResolveReportInput where
  status : ReviewReportStatus
  decided : status ≠ .pending
  resolutionNote : Option String
  action : ReportAction

/-- Submit a new rating and review for a product. Checks product existence, verifies if already
reviewed, and tags verified purchase status. -/
def createReview (userId : UserId) (input : CreateReviewInput) (id : ReviewId) : Service Unit := do
  let s ← Proc.read
  if input.productId ∉ s.products then throw ⟨"Product not found", 404⟩
  else
    let s ← Proc.read
    if s.tables.reviews.any fun review =>
        review.userId = userId ∧ review.productId = input.productId then
      throw ⟨"You have already reviewed this product. You can update your existing review.", 409⟩
    else
      let isVerifiedPurchase ← onTables (checkVerifiedPurchase userId input.productId)
      let _ ← Proc.commit (.create
        ⟨id, userId, input.productId, input.rating, input.title, input.content,
          isVerifiedPurchase, .pending, none, none, none⟩ (imagesData input.images))
      pure ()

def updateReview (reviewId : ReviewId) (userId : UserId) (input : UpdateReviewInput) :
    Service (Option Review) :=
  onTables (Reviews.updateReview reviewId userId input)

/-- Delete a review by owner or admin. -/
def deleteReview (reviewId : ReviewId) (userId : UserId) (isAdmin : Bool) : Service Unit := do
  let s ← Proc.read
  match s.tables.reviews.find? (·.id = reviewId) with
  | none => throw ⟨"Review not found", 404⟩
  | some review =>
    if ¬isAdmin ∧ review.userId ≠ userId then throw ⟨"You can only delete your own reviews", 403⟩
    else
      let _ ← Proc.commit (.delete reviewId)
      pure ()

def moderateReview (reviewId : ReviewId) (adminId : UserId) (input : ModerateReviewInput)
    (now : Millis) : Service (Option Review) :=
  onTables (Reviews.moderateReview reviewId adminId input now)

/-- Bulk moderate a batch of reviews in a single operation. -/
def bulkModerate (adminId : UserId) (input : BulkModerateReviewsInput) (now : Millis) :
    Service Unit := do
  let _ ← Proc.commit (.decideMany input.reviewIds input.status adminId now input.moderationNote)
  pure ()

/-- Submit an abuse/spam report on a review. -/
def reportReview (reviewId : ReviewId) (reporterId : UserId) (input : ReportReviewInput)
    (id : ReportId) : Service Unit := do
  let s ← Proc.read
  match s.tables.reviews.find? (·.id = reviewId) with
  | none => throw ⟨"Review not found", 404⟩
  | some review =>
    if review.userId = reporterId then throw ⟨"You cannot report your own review", 400⟩
    else
      let s ← Proc.read
      if s.reports.any fun report => report.reviewId = reviewId ∧ report.reporterId = reporterId then
        throw ⟨"You have already reported this review", 409⟩
      else
        let _ ← Proc.commit (.report
          ⟨id, reviewId, reporterId, input.reason, input.details, .pending, none, none, none⟩)
        pure ()

/-- The action of a resolution on the review that was reported. -/
def enact (report : ReviewReport) (adminId : UserId) (input : ResolveReportInput) (now : Millis) :
    Service Unit :=
  match input.action with
  | .noAction => pure ()
  | .rejectReview => do
    let reason := input.resolutionNote.getD "Policy violation"
    let _ ← Proc.commit (.decide report.reviewId .rejected adminId now
      s!"Rejected via report resolution #{report.id}: {reason}")
    pure ()
  | .approveReview => do
    let _ ← Proc.commit (.decide report.reviewId .approved adminId now
      s!"Approved via report resolution #{report.id}")
    pure ()
  | .deleteReview => do
    let _ ← Proc.commit (.delete report.reviewId)
    pure ()

/-- Resolve an abuse report and optionally enact an action on the associated review. -/
def resolveReport (reportId : ReportId) (adminId : UserId) (input : ResolveReportInput)
    (moderatedAt resolvedAt : Millis) : Service Unit := do
  let s ← Proc.read
  match s.reports.find? (·.id = reportId) with
  | none => throw ⟨"Review report not found", 404⟩
  | some report =>
    enact report adminId input moderatedAt
    -- the report was deleted together with the review
    if input.action = .deleteReview then pure ()
    else
      let _ ← Proc.commit (.resolve reportId input.status adminId resolvedAt input.resolutionNote)
      pure ()

inductive Call where
  | createReview (userId : UserId) (input : CreateReviewInput) (id : ReviewId)
  | updateReview (reviewId : ReviewId) (userId : UserId) (input : UpdateReviewInput)
  | deleteReview (reviewId : ReviewId) (userId : UserId) (isAdmin : Bool)
  | moderateReview (reviewId : ReviewId) (adminId : UserId) (input : ModerateReviewInput)
      (now : Millis)
  | bulkModerate (adminId : UserId) (input : BulkModerateReviewsInput) (now : Millis)
  | reportReview (reviewId : ReviewId) (reporterId : UserId) (input : ReportReviewInput)
      (id : ReportId)
  | resolveReport (reportId : ReportId) (adminId : UserId) (input : ResolveReportInput)
      (moderatedAt resolvedAt : Millis)

def Call.proc : Call → Service Unit
  | .createReview userId input id => Board.createReview userId input id
  | .updateReview reviewId userId input => do
    let _ ← Board.updateReview reviewId userId input
    pure ()
  | .deleteReview reviewId userId isAdmin => Board.deleteReview reviewId userId isAdmin
  | .moderateReview reviewId adminId input now => do
    let _ ← Board.moderateReview reviewId adminId input now
    pure ()
  | .bulkModerate adminId input now => Board.bulkModerate adminId input now
  | .reportReview reviewId reporterId input id => Board.reportReview reviewId reporterId input id
  | .resolveReport reportId adminId input moderatedAt resolvedAt =>
    Board.resolveReport reportId adminId input moderatedAt resolvedAt

/-- The stars that the schemas accept. -/
def Stars (rating : ℤ) : Prop := 1 ≤ rating ∧ rating ≤ 5

/-- The rating has passed the schema of the request. -/
def Call.Parsed : Call → Prop
  | .createReview _ input _ => Stars input.rating
  | .updateReview _ _ input => ∀ rating ∈ input.rating, Stars rating
  | _ => True

inductive Environment where
  | purchases (rows : List Purchase)
  | products (rows : List ProductId)

def Environment.apply (s : Board) : Environment → Board
  | .purchases rows =>
    { s with
      tables := { s.tables with purchases := rows }
      bought := s.bought ++ purchased rows
      consistent :=
        { s.consistent with bought_mem := List.subset_append_right .. } }
  | .products rows => { s with products := rows }

/-- The review services; the environment changes the orders and the products. -/
def reviewBoard : Machine Board Commit AppError Call Environment where
  apply := apply
  proc := Call.proc
  environ e s := e.apply s

end Board

end MeeoServer.Reviews
