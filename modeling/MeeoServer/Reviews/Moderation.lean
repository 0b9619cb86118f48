/-
# Reviews and their moderation

`updateReview` of `reviews/services/review.service.ts` and `moderateReview` of
`reviews/services/reviewModeration.service.ts`, one statement after another.  An edit puts the
review back into the queue with its last statement; the images are gone before.  A moderator's
call looks whether there is a review, and writes the new status later.

The store also says what the call had read that approved a review last; no program reads this.
The orders, on which a verified purchase depends, may change at any time.
-/
import MeeoServer.Process.Interleaving
import MeeoServer.Schema.Database
import MeeoServer.Schema.Orders
import MeeoServer.Table.Updates
import Mathlib.Logic.Function.Basic

namespace MeeoServer.Reviews

open Proc

abbrev ReviewId := ℕ
abbrev ProductId := ℕ

/-! ## The tables -/

inductive ReviewStatus where
  | pending
  | approved
  | rejected
deriving DecidableEq

structure Review where
  id : ReviewId
  userId : UserId
  productId : ProductId
  rating : ℤ
  title : Option String
  content : Option String
  isVerifiedPurchase : Bool
  status : ReviewStatus
  moderatedBy : Option UserId
  moderatedAt : Option Millis
  moderationNote : Option String
deriving DecidableEq

structure ReviewImage where
  url : String
  fileId : Option String
  thumbnailUrl : Option String
  altText : Option String
  sortOrder : ℤ
deriving DecidableEq

/-- An image of a review. -/
structure ImageRow where
  reviewId : ReviewId
  image : ReviewImage
deriving DecidableEq

/-- An item of an order. -/
structure Purchase where
  userId : UserId
  productId : ProductId
  status : OrderStatus

/-- What a moderator judges. -/
structure ReviewContent where
  rating : ℤ
  title : Option String
  content : Option String
  images : List ReviewImage
deriving DecidableEq

def contentOf (images : List ImageRow) (review : Review) : ReviewContent :=
  ⟨review.rating, review.title, review.content,
    (images.filter fun row => row.reviewId = review.id).map ImageRow.image⟩

/-- The constraints of the tables. -/
structure Valid (reviews : List Review) (images : List ImageRow) : Prop where
  ids_nodup : (reviews.map Review.id).Nodup
  authors_nodup : (reviews.map fun review => (review.userId, review.productId)).Nodup
  image_mem : ∀ row ∈ images, row.reviewId ∈ reviews.map Review.id

lemma valid_iff {reviews : List Review} {images : List ImageRow} : Valid reviews images ↔
    (reviews.map Review.id).Nodup ∧
      (reviews.map fun review => (review.userId, review.productId)).Nodup ∧
      ∀ row ∈ images, row.reviewId ∈ reviews.map Review.id :=
  ⟨fun h => ⟨h.ids_nodup, h.authors_nodup, h.image_mem⟩, fun h => ⟨h.1, h.2.1, h.2.2⟩⟩

instance (reviews : List Review) (images : List ImageRow) : Decidable (Valid reviews images) :=
  decidable_of_iff' _ valid_iff

structure Tables where
  reviews : List Review
  images : List ImageRow
  valid : Valid reviews images
  purchases : List Purchase
  /-- What was read by the call that approved a review. -/
  approvedFrom : ReviewId → Option ReviewContent

/-! ## Batches -/

/-- The data of an update; an outer `none` is a field that the request does not name. -/
structure ReviewData where
  isVerifiedPurchase : Bool
  rating : Option ℤ
  title : Option (Option String)
  content : Option (Option String)
  images : List ReviewImage

def Review.updated (data : ReviewData) (review : Review) : Review :=
  { review with
    status := .pending
    isVerifiedPurchase := data.isVerifiedPurchase
    moderatedBy := none
    moderatedAt := none
    moderationNote := none
    rating := data.rating.getD review.rating
    title := data.title.getD review.title
    content := data.content.getD review.content }

inductive Commit where
  /-- The call has found the review as `seen`. -/
  | moderate (id : ReviewId) (status : ReviewStatus) (adminId : UserId) (now : Millis)
      (note : Option String) (seen : ReviewContent)
  | deleteImages (id : ReviewId)
  | update (id : ReviewId) (data : ReviewData)

namespace Commit

def reviews (reviews : List Review) : Commit → List Review
  | .moderate id status adminId now note _ =>
    Table.updateWhere (fun review => review.id = id)
      (fun review => { review with
        status := status
        moderatedBy := some adminId
        moderatedAt := some now
        moderationNote := note }) reviews
  | .deleteImages _ => reviews
  | .update id data =>
    Table.updateWhere (fun review => review.id = id) (Review.updated data) reviews

def images (images : List ImageRow) : Commit → List ImageRow
  | .moderate _ _ _ _ _ _ => images
  | .deleteImages id => images.filter fun row => row.reviewId ≠ id
  | .update id data => images ++ data.images.map fun image => ⟨id, image⟩

def approvedFrom (approvedFrom : ReviewId → Option ReviewContent) :
    Commit → ReviewId → Option ReviewContent
  | .moderate id .approved _ _ _ seen => Function.update approvedFrom id (some seen)
  | _ => approvedFrom

/-- Is there a row to update? -/
def Found (reviews : List Review) : Commit → Prop
  | .moderate id _ _ _ _ _ => id ∈ reviews.map Review.id
  | .deleteImages _ => True
  | .update id _ => id ∈ reviews.map Review.id

instance (reviews : List Review) : (c : Commit) → Decidable (c.Found reviews)
  | .moderate _ _ _ _ _ _ => by unfold Found; infer_instance
  | .deleteImages _ => .isTrue trivial
  | .update _ _ => by unfold Found; infer_instance

def apply (c : Commit) (s : Tables) : Option Tables :=
  if h : c.Found s.reviews ∧ Valid (c.reviews s.reviews) (c.images s.images) then
    some { s with
      reviews := c.reviews s.reviews
      images := c.images s.images
      valid := h.2
      approvedFrom := c.approvedFrom s.approvedFrom }
  else none

end Commit

/-! ## The services -/

abbrev Service := Proc Tables Commit AppError

inductive ReviewImageInput where
  | url (url : String)
  | asset (url : String) (fileId thumbnailUrl altText : Option String) (sortOrder : Option ℤ)

structure UpdateReviewInput where
  rating : Option ℤ
  title : Option (Option String)
  content : Option (Option String)
  images : Option (List ReviewImageInput)

structure ModerateReviewInput where
  status : ReviewStatus
  decided : status ≠ .pending
  moderationNote : Option String

def imageData (index : ℕ) : ReviewImageInput → ReviewImage
  | .url url => ⟨url, none, none, none, index⟩
  | .asset url fileId thumbnailUrl altText sortOrder =>
    ⟨url, fileId, thumbnailUrl, altText, sortOrder.getD index⟩

def imagesData (images : List ReviewImageInput) : List ReviewImage :=
  images.zipIdx.map fun (img, index) => imageData index img

def validPurchaseStatuses : List OrderStatus := [.confirmed, .processing, .shipped, .delivered]

/-- Check if a user has at least one valid confirmed/fulfilled order containing the specified
product. -/
def checkVerifiedPurchase (userId : UserId) (productId : ProductId) : Service Bool := do
  let s ← Proc.read
  pure (s.purchases.any fun purchase => purchase.productId = productId ∧
    purchase.userId = userId ∧ purchase.status ∈ validPurchaseStatuses)

/-- Update an existing review. Resets moderation status to PENDING. -/
def updateReview (reviewId : ReviewId) (userId : UserId) (input : UpdateReviewInput) :
    Service (Option Review) := do
  let s ← Proc.read
  match s.reviews.find? (·.id = reviewId) with
  | none => throw ⟨"Review not found", 404⟩
  | some review =>
    if review.userId ≠ userId then throw ⟨"You can only modify your own reviews", 403⟩
    else
      let isVerifiedPurchase ← checkVerifiedPurchase userId review.productId
      let data : ReviewData := ⟨isVerifiedPurchase, input.rating, input.title, input.content, []⟩
      match input.images with
      | none =>
        let s ← Proc.commit (.update reviewId data)
        pure (s.reviews.find? (·.id = reviewId))
      | some images =>
        let _ ← Proc.commit (.deleteImages reviewId)
        let s ← Proc.commit (.update reviewId { data with images := imagesData images })
        pure (s.reviews.find? (·.id = reviewId))

/-- Moderates an individual review (Approve / Reject) with admin audit trails. -/
def moderateReview (reviewId : ReviewId) (adminId : UserId) (input : ModerateReviewInput)
    (now : Millis) : Service (Option Review) := do
  let s ← Proc.read
  match s.reviews.find? (·.id = reviewId) with
  | none => throw ⟨"Review not found", 404⟩
  | some review =>
    -- the query names no images: what is seen of them is what the table has
    let s ← Proc.commit (.moderate reviewId input.status adminId now input.moderationNote
      (contentOf s.images review))
    pure (s.reviews.find? (·.id = reviewId))

inductive Call where
  | updateReview (reviewId : ReviewId) (userId : UserId) (input : UpdateReviewInput)
  | moderateReview (reviewId : ReviewId) (adminId : UserId) (input : ModerateReviewInput)
      (now : Millis)

def Call.proc : Call → Service Unit
  | .updateReview reviewId userId input => do
    let _ ← Reviews.updateReview reviewId userId input
    pure ()
  | .moderateReview reviewId adminId input now => do
    let _ ← Reviews.moderateReview reviewId adminId input now
    pure ()

/-- The review service; the environment changes the orders. -/
def reviewService : Machine Tables Commit AppError Call (List Purchase) where
  apply := Commit.apply
  proc := Call.proc
  environ purchases s := { s with purchases := purchases }

/-! ## What is approved -/

/-- An approved review is what the call had read that approved it. -/
def ApprovedAsRead (s : Tables) : Prop :=
  ∀ review ∈ s.reviews, review.status = .approved →
    s.approvedFrom review.id = some (contentOf s.images review)

instance (s : Tables) : Decidable (ApprovedAsRead s) := by
  unfold ApprovedAsRead
  infer_instance

/-- Nobody has been there between the look and the approval, and no images are taken from a review
while it is approved. -/
def Undisturbed (s : Tables) : Commit → Prop
  | .moderate id status _ _ _ seen => status = .approved →
    ∀ review ∈ s.reviews, review.id = id → contentOf s.images review = seen
  | .deleteImages id => ∀ review ∈ s.reviews, review.id = id → review.status = .approved →
    (contentOf s.images review).images = []
  | .update _ _ => True

instance (s : Tables) : (c : Commit) → Decidable (Undisturbed s c)
  | .moderate _ _ _ _ _ _ => by unfold Undisturbed; infer_instance
  | .deleteImages _ => by unfold Undisturbed; infer_instance
  | .update _ _ => .isTrue trivial

section Batch

variable {s s' : Tables} {c : Commit} {images : List ImageRow} {review : Review} {id : ReviewId}

lemma Commit.apply_eq_some (happ : c.apply s = some s') :
    s'.reviews = c.reviews s.reviews ∧ s'.images = c.images s.images ∧
      s'.approvedFrom = c.approvedFrom s.approvedFrom := by
  obtain ⟨h, hs'⟩ := Option.dite_none_right_eq_some.mp happ
  obtain rfl := Option.some.inj hs'
  exact ⟨rfl, rfl, rfl⟩

lemma contentOf_deleteImages : contentOf (images.filter fun row => row.reviewId ≠ id) review =
    if review.id = id then { contentOf images review with images := [] }
    else contentOf images review := by
  unfold contentOf
  split
  · next hid =>
    have hnone : (images.filter fun row => row.reviewId ≠ id).filter
        (fun row => row.reviewId = review.id) = [] := by
      refine List.filter_eq_nil_iff.mpr fun row hrow hsame => ?_
      have hother : row.reviewId ≠ id := by simpa using (List.mem_filter.mp hrow).2
      exact hother ((of_decide_eq_true hsame).trans hid)
    rw [hnone]
    rfl
  · next hid =>
    rw [Table.filter_filter_of fun row _ hrow => ?_]
    have hrow : row.reviewId = review.id := of_decide_eq_true hrow
    simpa [hrow] using hid

lemma contentOf_append (hid : review.id ≠ id) (new : List ReviewImage) :
    contentOf (images ++ new.map fun image => ⟨id, image⟩) review = contentOf images review := by
  unfold contentOf
  have hnone : (new.map fun image => (⟨id, image⟩ : ImageRow)).filter
      (fun row => row.reviewId = review.id) = [] := by
    refine List.filter_eq_nil_iff.mpr fun row hrow hsame => ?_
    obtain ⟨image, -, rfl⟩ := List.mem_map.mp hrow
    exact hid (of_decide_eq_true hsame).symm
  rw [List.filter_append, hnone, List.append_nil]

/-- **One batch** leaves the approved reviews as they were read exactly if nobody was there in
between. -/
theorem approvedAsRead_iff_undisturbed (h : ApprovedAsRead s) (happ : c.apply s = some s') :
    ApprovedAsRead s' ↔ Undisturbed s c := by
  obtain ⟨hreviews, himages, happroved⟩ := Commit.apply_eq_some happ
  unfold ApprovedAsRead
  rw [hreviews, himages, happroved]
  cases c with
  | moderate id status adminId now note seen =>
    constructor
    · rintro hall rfl review hreview rfl
      have happroved := hall _ (List.mem_map_of_mem hreview)
      rw [if_pos (decide_eq_true rfl), Commit.approvedFrom, Function.update_self] at happroved
      exact (Option.some.inj (happroved rfl)).symm
    · intro hundisturbed _ hmem hstatus
      obtain ⟨review, hreview, rfl⟩ := List.mem_map.mp hmem
      by_cases hid : review.id = id
      · rw [if_pos (decide_eq_true hid)] at hstatus ⊢
        obtain rfl : status = .approved := hstatus
        show Function.update s.approvedFrom id (some seen) review.id =
          some (contentOf s.images review)
        rw [hid, Function.update_self, hundisturbed rfl review hreview hid]
      · rw [if_neg (by simpa using hid)] at hstatus ⊢
        rw [Commit.images, ← h review hreview hstatus]
        cases status with
        | approved => exact Function.update_of_ne hid ..
        | _ => rfl
  | deleteImages id =>
    constructor
    · rintro hall review hreview rfl hstatus
      have hsame := (h review hreview hstatus).symm.trans (hall review hreview hstatus)
      rw [Commit.images, contentOf_deleteImages, if_pos rfl] at hsame
      rw [Option.some.inj hsame]
    · intro hundisturbed review hreview hstatus
      show s.approvedFrom review.id = some (contentOf (s.images.filter _) review)
      rw [h review hreview hstatus, contentOf_deleteImages]
      split
      · next hid => rw [← hundisturbed review hreview hid hstatus]
      · rfl
  | update id data =>
    refine iff_of_true (fun _ hmem hstatus => ?_) trivial
    obtain ⟨review, hreview, rfl⟩ := List.mem_map.mp hmem
    by_cases hid : review.id = id
    · rw [if_pos (decide_eq_true hid)] at hstatus
      exact nomatch hstatus
    · rw [if_neg (by simpa using hid)] at hstatus ⊢
      show s.approvedFrom review.id = some (contentOf (s.images ++ _) review)
      rw [contentOf_append hid]
      exact h review hreview hstatus

end Batch

/-! ## Runs -/

/-- **What is approved was read**, in every run in which nobody is there between the look and the
approval, and in which no images are taken from an approved review. -/
theorem approved_as_read {Allowed : Call → Prop} {s₀ : Tables}
    {cfg : Config Tables Commit AppError} (h₀ : ApprovedAsRead s₀)
    (hr : reviewService.Reachable Allowed Undisturbed s₀ cfg) : ApprovedAsRead cfg.store := by
  refine (Rely.of_any _ _ _).invariant (P := ApprovedAsRead) hr h₀ (fun _ _ hs => hs) ?_
  intro x s c s' _ _ hcond happ hs
  exact (approvedAsRead_iff_undisturbed hs happ).mpr hcond

/-- A review with an image, which waits for a moderator. -/
def submitted : Tables where
  reviews := [⟨0, 7, 3, 5, none, some "Bright enough", true, .pending, none, none, none⟩]
  images := [⟨0, ⟨"https://shop.example/lamp.jpg", none, none, none, 0⟩⟩]
  valid := by decide
  purchases := [⟨7, 3, .delivered⟩]
  approvedFrom _ := none

def approve : Call := .moderateReview 0 9 ⟨.approved, by decide, none⟩ 1000

def rewrite (images : Option (List ReviewImageInput)) : Call :=
  .updateReview 0 7 ⟨some 1, none, some (some "Cheaper elsewhere"), images⟩

/-- The review is rewritten, with another image, and approved afterwards. -/
theorem approved_as_read_rewritten : ∃ cfg : Config Tables Commit AppError,
    reviewService.Reachable (fun _ => True) Undisturbed submitted cfg ∧
      cfg.store.reviews.map (fun review => (review.status, (contentOf cfg.store.images review))) =
        [(.approved, ⟨1, none, some "Cheaper elsewhere",
          [⟨"https://shop.example/price.jpg", none, none, none, 0⟩]⟩)] ∧
      ApprovedAsRead cfg.store := by
  obtain ⟨cfg, hr, hreviews⟩ := reviewService.exists_reachable_of_exec (fun _ => True) Undisturbed
    ([.call (rewrite (some [.url "https://shop.example/price.jpg"])),
      .step 0 .ok, .step 0 .ok, .step 0 .ok, .step 0 .ok,
      .call approve, .step 1 .ok, .step 1 .ok])
    submitted (fun s : Tables =>
      s.reviews.map fun review => (review.status, (contentOf s.images review)))
    [(.approved, ⟨1, none, some "Cheaper elsewhere",
      [⟨"https://shop.example/price.jpg", none, none, none, 0⟩]⟩)] (by decide +kernel)
  exact ⟨cfg, hr, hreviews, approved_as_read (by decide) hr⟩

/-- The review is rewritten after the moderator's call has looked at it, and is approved then; and
an approved review loses its image before it goes back into the queue. -/
theorem approved_unread :
    (¬∀ (s₀ : Tables) (cfg : Config Tables Commit AppError), ApprovedAsRead s₀ →
      reviewService.Reachable (fun _ => True) Free s₀ cfg → ApprovedAsRead cfg.store) ∧
    ∃ cfg : Config Tables Commit AppError,
      reviewService.Reachable (fun _ => True) Free submitted cfg ∧
        cfg.store.reviews.map Review.status = [.approved] ∧ cfg.store.images = [] ∧
        (cfg.store.approvedFrom 0).map (fun seen => seen.images.length) = some 1 := by
  constructor
  · intro h
    obtain ⟨cfg, hr, hunread⟩ := reviewService.exists_reachable_of_exec (fun _ => True) Free
      ([.call approve, .step 0 .ok,
        .call (rewrite none), .step 1 .ok, .step 1 .ok, .step 1 .ok,
        .step 0 .ok])
      submitted (fun s : Tables => decide (ApprovedAsRead s)) false (by decide +kernel)
    exact of_decide_eq_false hunread (h submitted cfg (by decide) hr)
  · obtain ⟨cfg, hr, hstore⟩ := reviewService.exists_reachable_of_exec (fun _ => True) Free
      ([.call approve, .step 0 .ok, .step 0 .ok,
        .call (rewrite (some [])), .step 1 .ok, .step 1 .ok, .step 1 .ok])
      submitted (fun s : Tables => (s.reviews.map Review.status, s.images,
        (s.approvedFrom 0).map fun seen => seen.images.length))
      ([.approved], [], some 1) (by decide +kernel)
    obtain ⟨hstatus, hrest⟩ := Prod.ext_iff.mp hstore
    obtain ⟨himages, hseen⟩ := Prod.ext_iff.mp hrest
    exact ⟨cfg, hr, hstatus, himages, hseen⟩

end MeeoServer.Reviews
