/-
# The record of the moderation

Whatever is done to the reviews at the same time: a review that was decided on says by whom and
when, and one that waits says nothing; a report says the same of its resolution, and is never by
the author of the review; and a review is tagged as a verified purchase only if its author has had
one.
-/
import MeeoServer.Reviews.Board

namespace MeeoServer.Reviews.Board

open Proc

/-! ## The invariant -/

/-- A review that waits has no moderator, and one that was decided on has one. -/
structure Recorded (review : Review) : Prop where
  moderatedBy : review.moderatedBy = none ↔ review.status = .pending
  moderatedAt : review.moderatedAt = none ↔ review.status = .pending
  note : review.status = .pending → review.moderationNote = none

structure SoundReview (bought : List (UserId × ProductId)) (review : Review) : Prop where
  recorded : Recorded review
  stars : Stars review.rating
  verified : review.isVerifiedPurchase = true → (review.userId, review.productId) ∈ bought

structure SoundReport (reviews : List Review) (report : ReviewReport) : Prop where
  resolvedBy : report.resolvedBy = none ↔ report.status = .pending
  resolvedAt : report.resolvedAt = none ↔ report.status = .pending
  other : ∀ review ∈ reviews, review.id = report.reviewId → review.userId ≠ report.reporterId

structure Sound (s : Board) : Prop where
  reviews : ∀ review ∈ s.tables.reviews, SoundReview s.bought review
  reports : ∀ report ∈ s.reports, SoundReport s.tables.reviews report

/-! ## What is committed -/

/-- What the services commit. -/
def Emitted (s : Board) : Commit → Prop
  | .review (.moderate _ status _ _ _ _) => status ≠ .pending
  | .review (.deleteImages _) => True
  | .review (.update id data) => (∀ rating ∈ data.rating, Stars rating) ∧
      (data.isVerifiedPurchase = true → ∀ review ∈ s.tables.reviews, review.id = id →
        (review.userId, review.productId) ∈ s.bought)
  | .create row _ => row.status = .pending ∧ SoundReview s.bought row
  | .delete _ => True
  | .decide _ status _ _ _ => status ≠ .pending
  | .decideMany _ status _ _ _ => status ≠ .pending
  | .report row => SoundReport s.tables.reviews row
  | .resolve _ status _ _ _ => status ≠ .pending

/-- What every step does: no purchase is forgotten, and no review changes hands. -/
structure Within (s s' : Board) : Prop where
  drawn : s.drawn ⊆ s'.drawn
  bought : s.bought ⊆ s'.bought
  author : ∀ review' ∈ s'.tables.reviews, review'.id ∈ s.drawn → ∃ review ∈ s.tables.reviews,
    review.id = review'.id ∧ review.userId = review'.userId ∧ review.productId = review'.productId

namespace Within

variable {s s' s'' : Board}

lemma refl (s : Board) : Within s s :=
  ⟨fun _ h => h, fun _ h => h, fun review h _ => ⟨review, h, rfl, rfl, rfl⟩⟩

lemma trans (h : Within s s') (h' : Within s' s'') : Within s s'' where
  drawn _ hid := h'.drawn (h.drawn hid)
  bought _ hpair := h'.bought (h.bought hpair)
  author review'' hmem hdrawn := by
    obtain ⟨review', hmem', hid', huser', hproduct'⟩ :=
      h'.author review'' hmem (h.drawn hdrawn)
    obtain ⟨review, hmem, hid, huser, hproduct⟩ := h.author review' hmem' (hid' ▸ hdrawn)
    exact ⟨review, hmem, hid.trans hid', huser.trans huser', hproduct.trans hproduct'⟩

/-- A review that was there has the author that it had. -/
lemma author_eq (h : Within s s') {review review' : Review} (hmem : review ∈ s.tables.reviews)
    (hmem' : review' ∈ s'.tables.reviews) (hid : review'.id = review.id) :
    review'.userId = review.userId ∧ review'.productId = review.productId := by
  obtain ⟨review₀, hmem₀, hid₀, huser, hproduct⟩ :=
    h.author review' hmem' (hid ▸ s.consistent.drawn_mem review hmem)
  obtain rfl : review₀ = review :=
    List.inj_on_of_nodup_map s.tables.valid.ids_nodup hmem₀ hmem (hid₀.trans hid)
  exact ⟨huser.symm, hproduct.symm⟩

end Within

/-! ## The steps -/

section Steps

variable {s s' : Board} {c : Commit}

lemma apply_eq_some (happ : apply c s = some s') : c.tables s = some s'.tables ∧
    s'.reports = c.reports s.reports ∧ s'.drawn = c.drawn s.drawn ∧ s'.bought = s.bought := by
  unfold apply at happ
  cases htables : c.tables s with
  | none => rw [htables] at happ; exact nomatch happ
  | some tables =>
    rw [htables] at happ
    obtain ⟨h, hs'⟩ := Option.dite_none_right_eq_some.mp happ
    obtain rfl := Option.some.inj hs'
    exact ⟨rfl, rfl, rfl, rfl⟩

lemma withRows_eq_some {tables tables' : Tables} {reviews : List Review} {images : List ImageRow}
    (h : withRows tables reviews images = some tables') : tables'.reviews = reviews := by
  obtain ⟨_, htables⟩ := Option.dite_none_right_eq_some.mp h
  obtain rfl := Option.some.inj htables
  rfl

/-- What a batch does to the rows of the reviews. -/
def Commit.reviews (reviews : List Review) : Commit → List Review
  | .review c => c.reviews reviews
  | .create row _ => reviews ++ [row]
  | .delete id => reviews.filter fun review => review.id ≠ id
  | .decide id status adminId now note =>
    Table.updateWhere (fun review => review.id = id) (moderated status adminId now (some note))
      reviews
  | .decideMany ids status adminId now note =>
    Table.updateWhere (fun review => review.id ∈ ids) (moderated status adminId now note) reviews
  | .report _ => reviews
  | .resolve _ _ _ _ _ => reviews

lemma tables_reviews {tables : Tables} (h : c.tables s = some tables) :
    tables.reviews = c.reviews s.tables.reviews := by
  cases c with
  | review c => exact (Reviews.Commit.apply_eq_some h).1
  | create row images | delete id | decide id status adminId now note =>
    exact withRows_eq_some (Option.ite_none_right_eq_some.mp h).2
  | decideMany ids status adminId now note => exact withRows_eq_some h
  | report row => rw [← Option.some.inj h]; rfl
  | resolve id status adminId now note =>
    rw [← Option.some.inj (Option.ite_none_right_eq_some.mp h).2]; rfl

/-- A new review is a new one. -/
lemma create_not_mem {row : Review} {images : List ReviewImage}
    (happ : apply (.create row images) s = some s') : row.id ∉ s.drawn :=
  (Option.ite_none_right_eq_some.mp (apply_eq_some happ).1).1.1

/-- A batch leaves the author of a review as it is. -/
lemma author_of_mem_reviews {reviews : List Review} {review' : Review}
    (h : review' ∈ c.reviews reviews) : (∃ review ∈ reviews, review.id = review'.id ∧
      review.userId = review'.userId ∧ review.productId = review'.productId) ∨
        ∃ images, c = .create review' images := by
  have hupdate {p : Review → Bool} {f : Review → Review}
      (h : review' ∈ Table.updateWhere p f reviews)
      (hf : ∀ review, (f review).id = review.id ∧ (f review).userId = review.userId ∧
        (f review).productId = review.productId) : ∃ review ∈ reviews,
        review.id = review'.id ∧ review.userId = review'.userId ∧
          review.productId = review'.productId := by
    obtain ⟨review, hmem, rfl | rfl⟩ := Table.mem_updateWhere h
    · exact ⟨review', hmem, rfl, rfl, rfl⟩
    · exact ⟨review, hmem, (hf review).1.symm, (hf review).2.1.symm, (hf review).2.2.symm⟩
  cases c with
  | review c =>
    cases c with
    | moderate id status adminId now note seen =>
      exact .inl (hupdate h fun _ => ⟨rfl, rfl, rfl⟩)
    | deleteImages id => exact .inl ⟨review', h, rfl, rfl, rfl⟩
    | update id data => exact .inl (hupdate h fun _ => ⟨rfl, rfl, rfl⟩)
  | create row images =>
    rcases List.mem_append.mp h with h | h
    · exact .inl ⟨review', h, rfl, rfl, rfl⟩
    · obtain rfl := List.mem_singleton.mp h
      exact .inr ⟨images, rfl⟩
  | delete id => exact .inl ⟨review', (List.mem_filter.mp h).1, rfl, rfl, rfl⟩
  | decide id status adminId now note | decideMany ids status adminId now note =>
    exact .inl (hupdate h fun _ => ⟨rfl, rfl, rfl⟩)
  | report row | resolve id status adminId now note => exact .inl ⟨review', h, rfl, rfl, rfl⟩

lemma within_apply (happ : apply c s = some s') : Within s s' := by
  obtain ⟨htables, -, hdrawn, hbought⟩ := apply_eq_some happ
  refine ⟨fun id hid => ?_, fun pair hpair => hbought ▸ hpair, fun review' hmem hid => ?_⟩
  · rw [hdrawn]
    cases c with
    | create row images => exact List.mem_append_left _ hid
    | _ => exact hid
  · rw [tables_reviews htables] at hmem
    rcases author_of_mem_reviews hmem with h | ⟨images, rfl⟩
    · exact h
    · exact absurd hid (create_not_mem happ)

lemma within_environ (e : Environment) : Within s (e.apply s) := by
  cases e with
  | purchases rows =>
    exact ⟨fun _ h => h, List.subset_append_left .., fun review h _ => ⟨review, h, rfl, rfl, rfl⟩⟩
  | products rows => exact ⟨fun _ h => h, fun _ h => h, fun review h _ => ⟨review, h, rfl, rfl, rfl⟩⟩

/-! ### The reviews -/

lemma recorded_moderated {status : ReviewStatus} (hstatus : status ≠ .pending) (adminId : UserId)
    (now : Millis) (note : Option String) (review : Review) :
    Recorded (moderated status adminId now note review) where
  moderatedBy := iff_of_false (fun h => nomatch h) hstatus
  moderatedAt := iff_of_false (fun h => nomatch h) hstatus
  note h := absurd h hstatus

lemma SoundReview.moderated {bought : List (UserId × ProductId)} {review : Review}
    (h : SoundReview bought review) {status : ReviewStatus} (hstatus : status ≠ .pending)
    (adminId : UserId) (now : Millis) (note : Option String) :
    SoundReview bought (moderated status adminId now note review) :=
  ⟨recorded_moderated hstatus adminId now note review, h.stars, h.verified⟩

/-- An edit puts the review back into the queue. -/
lemma SoundReview.updated {bought : List (UserId × ProductId)} {review : Review} {data : ReviewData}
    (h : SoundReview bought review) (hstars : ∀ rating ∈ data.rating, Stars rating)
    (hverified : data.isVerifiedPurchase = true → (review.userId, review.productId) ∈ bought) :
    SoundReview bought (review.updated data) where
  recorded := ⟨iff_of_true rfl rfl, iff_of_true rfl rfl, fun _ => rfl⟩
  stars := by
    show Stars (data.rating.getD review.rating)
    cases hrating : data.rating with
    | none => exact h.stars
    | some rating => exact hstars rating hrating
  verified := hverified

lemma Sound.apply_reviews (h : Sound s) (hc : Emitted s c) :
    ∀ review ∈ c.reviews s.tables.reviews, SoundReview s.bought review := by
  cases c with
  | review c =>
    cases c with
    | moderate id status adminId now note seen =>
      exact (Table.forall_mem_updateWhere_iff h.reviews).mpr fun review hmem _ =>
        (h.reviews review hmem).moderated hc adminId now note
    | deleteImages id => exact h.reviews
    | update id data =>
      refine (Table.forall_mem_updateWhere_iff h.reviews).mpr fun review hmem hid => ?_
      exact (h.reviews review hmem).updated hc.1 fun hverified =>
        hc.2 hverified review hmem (of_decide_eq_true hid)
  | create row images =>
    intro review hmem
    rcases List.mem_append.mp hmem with hmem | hmem
    · exact h.reviews review hmem
    · rw [List.mem_singleton.mp hmem]
      exact hc.2
  | delete id => exact fun review hmem => h.reviews review (List.mem_filter.mp hmem).1
  | decide id status adminId now note | decideMany ids status adminId now note =>
    exact (Table.forall_mem_updateWhere_iff h.reviews).mpr fun review hmem _ =>
      (h.reviews review hmem).moderated hc adminId now _
  | report row | resolve id status adminId now note => exact h.reviews

/-! ### The reports -/

/-- The reviews may change, as long as they do not change hands. -/
lemma SoundReport.mono {reviews : List Review} {report : ReviewReport}
    (h : SoundReport reviews report) {reviews' : List Review}
    (hauthor : ∀ review' ∈ reviews', review'.id = report.reviewId → ∃ review ∈ reviews,
      review.id = review'.id ∧ review.userId = review'.userId) : SoundReport reviews' report where
  resolvedBy := h.resolvedBy
  resolvedAt := h.resolvedAt
  other review' hmem' hid' := by
    obtain ⟨review, hmem, hid, huser⟩ := hauthor review' hmem' hid'
    exact huser ▸ h.other review hmem (hid.trans hid')

lemma SoundReport.resolved {reviews : List Review} {report : ReviewReport}
    (h : SoundReport reviews report) {status : ReviewReportStatus} (hstatus : status ≠ .pending)
    (adminId : UserId) (now : Millis) (note : Option String) :
    SoundReport reviews (resolved status adminId now note report) :=
  ⟨iff_of_false (fun h => nomatch h) hstatus, iff_of_false (fun h => nomatch h) hstatus, h.other⟩

lemma Sound.apply_reports (h : Sound s) (hc : Emitted s c) :
    ∀ report ∈ c.reports s.reports, SoundReport s.tables.reviews report := by
  cases c with
  | delete id => exact fun report hmem => h.reports report (List.mem_filter.mp hmem).1
  | report row =>
    intro report hmem
    rcases List.mem_append.mp hmem with hmem | hmem
    · exact h.reports report hmem
    · rw [List.mem_singleton.mp hmem]
      exact hc
  | resolve id status adminId now note =>
    exact (Table.forall_mem_updateWhere_iff h.reports).mpr fun report hmem _ =>
      (h.reports report hmem).resolved hc adminId now note
  | review _ | create _ _ | decide _ _ _ _ _ | decideMany _ _ _ _ _ => exact h.reports

/-- A report is about a review that was there before. -/
lemma reviewId_drawn (happ : apply c s = some s') {report : ReviewReport}
    (h : report ∈ c.reports s.reports) : report.reviewId ∈ s.drawn := by
  have hold (report : ReviewReport) (h : report ∈ s.reports) : report.reviewId ∈ s.drawn := by
    obtain ⟨review, hmem, hid⟩ := List.mem_map.mp (s.consistent.review_mem report h)
    exact hid ▸ s.consistent.drawn_mem review hmem
  cases c with
  | delete id => exact hold report (List.mem_filter.mp h).1
  | report row =>
    rcases List.mem_append.mp h with h | h
    · exact hold report h
    · obtain rfl := List.mem_singleton.mp h
      -- the foreign key of the new row
      obtain ⟨htables, hreports, -⟩ := apply_eq_some happ
      have hmem : report ∈ s'.reports := hreports ▸ List.mem_append_right _ List.mem_cons_self
      have hreview := s'.consistent.review_mem report hmem
      rw [← Option.some.inj htables] at hreview
      obtain ⟨review, hmem, hid⟩ := List.mem_map.mp hreview
      exact hid ▸ s.consistent.drawn_mem review hmem
  | resolve id status adminId now note =>
    obtain ⟨report₀, hmem, rfl | rfl⟩ := Table.mem_updateWhere h
    · exact hold report hmem
    · exact hold report₀ hmem
  | review _ | create _ _ | decide _ _ _ _ _ | decideMany _ _ _ _ _ => exact hold report h

lemma Sound.apply (h : Sound s) (hc : Emitted s c) (happ : apply c s = some s') : Sound s' := by
  have hwithin := within_apply happ
  obtain ⟨htables, hreports, -, hbought⟩ := apply_eq_some happ
  constructor
  · rw [hbought, tables_reviews htables]
    exact h.apply_reviews hc
  · intro report hmem
    rw [hreports] at hmem
    refine (h.apply_reports hc report hmem).mono fun review' hmem' hid => ?_
    have hdrawn : report.reviewId ∈ s.drawn := reviewId_drawn happ hmem
    obtain ⟨review, hreview, hsame, huser, -⟩ := hwithin.author review' hmem' (hid ▸ hdrawn)
    exact ⟨review, hreview, hsame, huser⟩

lemma Sound.environ (h : Sound s) (e : Environment) : Sound (e.apply s) := by
  cases e with
  | purchases rows =>
    refine ⟨fun review hmem => ?_, h.reports⟩
    have hsound := h.reviews review hmem
    exact ⟨hsound.recorded, hsound.stars, fun hverified =>
      List.mem_append_left _ (hsound.verified hverified)⟩
  | products rows => exact ⟨h.reviews, h.reports⟩

end Steps

/-! ## The services keep to it -/

section Emits

variable {s : Board}

/-- A purchase that was valid when the call has looked it up. -/
lemma mem_bought {userId : UserId} {productId : ProductId}
    (h : (s.tables.purchases.any fun purchase => purchase.productId = productId ∧
      purchase.userId = userId ∧ purchase.status ∈ validPurchaseStatuses) = true) :
    (userId, productId) ∈ s.bought := by
  obtain ⟨purchase, hmem, hpurchase⟩ := List.any_eq_true.mp h
  obtain ⟨rfl, rfl, hvalid⟩ := of_decide_eq_true hpurchase
  refine s.consistent.bought_mem (List.mem_map.mpr ⟨purchase, List.mem_filter.mpr ⟨hmem, ?_⟩, rfl⟩)
  simpa using hvalid

lemma createReview_emits {userId : UserId} {input : CreateReviewInput} {id : ReviewId}
    (hstars : Stars input.rating) : (createReview userId input id).Emits apply Within Within
      Emitted Proc.Any s := by
  refine emits_read fun s₁ _ => ?_
  split
  · exact emits_throw
  · refine emits_read fun s₂ _ => ?_
    split
    · exact emits_throw
    · refine Emits.bind (emits_zoom_stmt (fun _ _ _ h => nomatch h) (fun _ => trivial) ?_)
      intro _ s₃ _ hs₃ _
      obtain rfl := Option.some.inj hs₃
      refine emits_commit (fun s₄ hs₄ => ⟨rfl, ⟨⟨?_, ?_, fun _ => rfl⟩, hstars, ?_⟩⟩)
        fun _ _ _ _ _ => emits_pure
      · exact iff_of_true rfl rfl
      · exact iff_of_true rfl rfl
      · exact fun hverified => hs₄.bought (mem_bought hverified)

lemma updateReview_emits {reviewId : ReviewId} {userId : UserId} {input : UpdateReviewInput}
    (hstars : ∀ rating ∈ input.rating, Stars rating) :
    (updateReview reviewId userId input).Emits apply Within Within Emitted Proc.Any s := by
  unfold updateReview onTables Reviews.updateReview
  refine emits_zoom_read fun s₁ _ => ?_
  cases hfind : s₁.tables.reviews.find? (·.id = reviewId) with
  | none => exact emits_throw
  | some review =>
    have hmem : review ∈ s₁.tables.reviews := List.mem_of_find?_eq_some hfind
    have hid : review.id = reviewId := by simpa using List.find?_some hfind
    dsimp only
    split
    · exact emits_throw
    · next howner =>
      refine emits_zoom_stmt ?_ ?_ ?_
      · exact fun _ _ _ h => nomatch h
      · exact fun _ => trivial
      intro s₂ _ hs₂ heffect _
      obtain rfl := Option.some.inj heffect
      -- the review is still the one of the caller, and of the product that was looked up
      have hupdate (s₃ : Board) (hs₃ : Within s₂ s₃) (data : ReviewData)
          (hrating : data.rating = input.rating)
          (hverified : data.isVerifiedPurchase = s₂.tables.purchases.any fun purchase =>
            purchase.productId = review.productId ∧ purchase.userId = userId ∧
              purchase.status ∈ validPurchaseStatuses) :
          Emitted s₃ (.review (.update reviewId data)) := by
        refine ⟨hrating ▸ hstars, fun hdata review' hmem' hid' => ?_⟩
        obtain ⟨huser, hproduct⟩ := (hs₂.trans hs₃).author_eq hmem hmem' (hid'.trans hid.symm)
        rw [huser, hproduct, not_not.mp howner]
        exact hs₃.bought (mem_bought (hverified ▸ hdata))
      cases himages : input.images with
      | none =>
        exact emits_zoom_commit (fun s₃ hs₃ => hupdate s₃ hs₃ _ rfl rfl)
          fun _ _ _ _ _ => emits_pure
      | some images =>
        refine emits_zoom_commit (fun _ _ => trivial) fun s₃ s₄ hs₃ _ hs₄ => ?_
        exact emits_zoom_commit (fun s₅ hs₅ => hupdate s₅ ((hs₃.trans hs₄).trans hs₅) _ rfl rfl)
          fun _ _ _ _ _ => emits_pure

lemma deleteReview_emits {reviewId : ReviewId} {userId : UserId} {isAdmin : Bool} :
    (deleteReview reviewId userId isAdmin).Emits apply Within Within Emitted Proc.Any s := by
  refine emits_read fun s₁ _ => ?_
  split
  · exact emits_throw
  · split
    · exact emits_throw
    · exact emits_commit (fun _ _ => trivial) fun _ _ _ _ _ => emits_pure

lemma moderateReview_emits {reviewId : ReviewId} {adminId : UserId} {input : ModerateReviewInput}
    {now : Millis} :
    (moderateReview reviewId adminId input now).Emits apply Within Within Emitted Proc.Any s := by
  unfold moderateReview onTables Reviews.moderateReview
  refine emits_zoom_read fun s₁ _ => ?_
  cases s₁.tables.reviews.find? (·.id = reviewId) with
  | none => exact emits_throw
  | some review =>
    exact emits_zoom_commit (fun _ _ => input.decided) fun _ _ _ _ _ => emits_pure

lemma reportReview_emits {reviewId : ReviewId} {reporterId : UserId} {input : ReportReviewInput}
    {id : ReportId} :
    (reportReview reviewId reporterId input id).Emits apply Within Within Emitted Proc.Any s := by
  refine emits_read fun s₁ _ => ?_
  cases hfind : s₁.tables.reviews.find? (·.id = reviewId) with
  | none => exact emits_throw
  | some review =>
    have hmem : review ∈ s₁.tables.reviews := List.mem_of_find?_eq_some hfind
    have hid : review.id = reviewId := by simpa using List.find?_some hfind
    dsimp only
    split
    · exact emits_throw
    · next hother =>
      refine emits_read fun s₂ hs₂ => ?_
      split
      · exact emits_throw
      · refine emits_commit (fun s₃ hs₃ => ⟨iff_of_true rfl rfl, iff_of_true rfl rfl, ?_⟩)
          fun _ _ _ _ _ => emits_pure
        intro review' hmem' hid'
        rw [((hs₂.trans hs₃).author_eq hmem hmem' (hid'.trans hid.symm)).1]
        exact hother

lemma resolveReport_emits {reportId : ReportId} {adminId : UserId} {input : ResolveReportInput}
    {moderatedAt resolvedAt : Millis} :
    (resolveReport reportId adminId input moderatedAt resolvedAt).Emits apply Within Within Emitted
      Proc.Any s := by
  refine emits_read fun s₁ _ => ?_
  cases s₁.reports.find? (·.id = reportId) with
  | none => exact emits_throw
  | some report =>
    have henact (s : Board) : (enact report adminId input moderatedAt).Emits apply Within Within
        Emitted Proc.Any s := by
      unfold enact
      cases input.action with
      | noAction => exact emits_pure
      | rejectReview =>
        exact emits_commit (fun _ _ => ReviewStatus.noConfusion) fun _ _ _ _ _ => emits_pure
      | approveReview =>
        exact emits_commit (fun _ _ => ReviewStatus.noConfusion) fun _ _ _ _ _ => emits_pure
      | deleteReview => exact emits_commit (fun _ _ => trivial) fun _ _ _ _ _ => emits_pure
    refine Emits.andThen (henact s₁) fun _ s₂ => ?_
    split
    · exact emits_pure
    · exact emits_commit (fun _ _ => input.decided) fun _ _ _ _ _ => emits_pure

lemma proc_emits {x : Call} (hx : x.Parsed) :
    x.proc.Emits apply Within Within Emitted Proc.Any s := by
  cases x with
  | createReview userId input id => exact createReview_emits hx
  | updateReview reviewId userId input =>
    exact Emits.andThen (updateReview_emits hx) fun _ _ => emits_pure
  | deleteReview reviewId userId isAdmin => exact deleteReview_emits
  | moderateReview reviewId adminId input now =>
    exact Emits.andThen moderateReview_emits fun _ _ => emits_pure
  | bulkModerate adminId input now =>
    exact emits_commit (fun _ _ => input.decided) fun _ _ _ _ _ => emits_pure
  | reportReview reviewId reporterId input id => exact reportReview_emits
  | resolveReport reportId adminId input moderatedAt resolvedAt => exact resolveReport_emits

end Emits

lemma reviewBoard_rely : Rely reviewBoard Call.Parsed Free Within fun _ => Emitted where
  refl := Within.refl
  trans := Within.trans
  env e _ := within_environ e
  commit _ _ _ := within_apply
  emits _ _ hx := proc_emits hx

/-! ## Runs -/

section Runs

variable {s₀ : Board} {cfg : Config Board Commit AppError}

lemma sound_of_reachable (h₀ : s₀.Sound) (hr : reviewBoard.Reachable Call.Parsed Free s₀ cfg) :
    cfg.store.Sound :=
  reviewBoard_rely.invariant hr h₀ (fun e _ hs => hs.environ e)
    fun _ hc _ happ hs => hs.apply hc happ

/-- **A review names its moderator exactly if it was decided on**, in every run. -/
theorem review_recorded (h₀ : s₀.Sound) (hr : reviewBoard.Reachable Call.Parsed Free s₀ cfg)
    {review : Review} (hmem : review ∈ cfg.store.tables.reviews) :
    (review.moderatedBy = none ↔ review.status = .pending) ∧
      (review.moderatedAt = none ↔ review.status = .pending) ∧
      (review.status = .pending → review.moderationNote = none) := by
  have h := ((sound_of_reachable h₀ hr).reviews review hmem).recorded
  exact ⟨h.moderatedBy, h.moderatedAt, h.note⟩

/-- **A report is about a review of somebody else**, which is there; nobody reports a review twice;
and a report names who has resolved it exactly if it was resolved. -/
theorem report_recorded (h₀ : s₀.Sound) (hr : reviewBoard.Reachable Call.Parsed Free s₀ cfg)
    {report : ReviewReport} (hmem : report ∈ cfg.store.reports) :
    (∃ review ∈ cfg.store.tables.reviews, review.id = report.reviewId ∧
      review.userId ≠ report.reporterId) ∧
    (∀ report' ∈ cfg.store.reports, report'.reviewId = report.reviewId →
      report'.reporterId = report.reporterId → report' = report) ∧
    (report.resolvedBy = none ↔ report.status = .pending) ∧
    (report.resolvedAt = none ↔ report.status = .pending) := by
  have h := (sound_of_reachable h₀ hr).reports report hmem
  refine ⟨?_, fun report' hmem' hreview hreporter => ?_, h.resolvedBy, h.resolvedAt⟩
  · obtain ⟨review, hreview, hid⟩ :=
      List.mem_map.mp (cfg.store.consistent.review_mem report hmem)
    exact ⟨review, hreview, hid, h.other review hreview hid⟩
  · exact List.inj_on_of_nodup_map cfg.store.consistent.reporters_nodup hmem' hmem
      (Prod.ext hreview hreporter)

end Runs

/-! ### A review that is reported -/

/-- A shop without reviews, where the user 7 has bought the product 3. -/
def newShop : Board where
  tables :=
    { reviews := []
      images := []
      valid := by decide
      purchases := [⟨7, 3, .delivered⟩]
      approvedFrom := fun _ => none }
  products := [3]
  reports := []
  drawn := []
  bought := [(7, 3)]
  consistent := by decide

lemma sound_newShop : newShop.Sound := ⟨fun _ h => (nomatch h), fun _ h => (nomatch h)⟩

/-- The buyer reviews the product, another user reports the review, and it is rejected. -/
def reported : List (Event Call Environment) :=
  [.call (.createReview 7 ⟨3, 1, none, some "Buy it elsewhere", []⟩ 0),
    .step 0 .ok, .step 0 .ok, .step 0 .ok, .step 0 .ok,
    .call (.reportReview 0 8 ⟨.spam, none⟩ 0), .step 1 .ok, .step 1 .ok, .step 1 .ok,
    .call (.resolveReport 0 9 ⟨.actioned, by decide, none, .rejectReview⟩ 1000 1001),
    .step 2 .ok, .step 2 .ok, .step 2 .ok]

instance (rating : ℤ) : Decidable (Stars rating) := by
  unfold Stars
  infer_instance

instance : DecidablePred Call.Parsed
  | .createReview _ input _ => inferInstanceAs (Decidable (Stars input.rating))
  | .updateReview _ _ input => inferInstanceAs (Decidable (∀ rating ∈ input.rating, Stars rating))
  | .deleteReview _ _ _ | .moderateReview _ _ _ _ | .bulkModerate _ _ _
  | .reportReview _ _ _ _ | .resolveReport _ _ _ _ _ => .isTrue trivial

lemma reported_reachable : ∃ cfg : Config Board Commit AppError, ∃ review report,
    reviewBoard.Reachable Call.Parsed Free newShop cfg ∧
      review ∈ cfg.store.tables.reviews ∧ report ∈ cfg.store.reports ∧
      review.status = .rejected ∧ review.isVerifiedPurchase = true ∧
      report.status = .actioned := by
  obtain ⟨cfg, hr, hstore⟩ := reviewBoard.exists_reachable_of_exec Call.Parsed Free reported newShop
    (fun s : Board => (s.tables.reviews.map fun review => (review.status, review.isVerifiedPurchase),
      s.reports.map ReviewReport.status))
    ([(.rejected, true)], [.actioned]) (by decide +kernel)
  obtain ⟨hreviews, hreports⟩ := Prod.ext_iff.mp hstore
  have hpair : (ReviewStatus.rejected, true) ∈ cfg.store.tables.reviews.map
      fun review => (review.status, review.isVerifiedPurchase) := by
    rw [show cfg.store.tables.reviews.map _ = _ from hreviews]
    exact List.mem_cons_self
  have hactioned : ReviewReportStatus.actioned ∈ cfg.store.reports.map ReviewReport.status := by
    rw [show cfg.store.reports.map _ = _ from hreports]
    exact List.mem_cons_self
  obtain ⟨review, hreview, hpair⟩ := List.mem_map.mp hpair
  obtain ⟨report, hreport, hstatus⟩ := List.mem_map.mp hactioned
  obtain ⟨hrejected, hverified⟩ := Prod.ext_iff.mp hpair
  exact ⟨cfg, review, report, hr, hreview, hreport, hrejected, hverified, hstatus⟩

theorem review_recorded_reported : ∃ cfg : Config Board Commit AppError,
    ∃ review ∈ cfg.store.tables.reviews, review.status = .rejected ∧
      (review.moderatedBy = none ↔ review.status = .pending) := by
  obtain ⟨cfg, review, _, hr, hmem, -, hstatus, -, -⟩ := reported_reachable
  exact ⟨cfg, review, hmem, hstatus, (review_recorded sound_newShop hr hmem).1⟩

theorem report_recorded_reported : ∃ cfg : Config Board Commit AppError,
    ∃ report ∈ cfg.store.reports, report.status = .actioned ∧
      ∃ review ∈ cfg.store.tables.reviews, review.id = report.reviewId ∧
        review.userId ≠ report.reporterId := by
  obtain ⟨cfg, _, report, hr, -, hmem, -, -, hstatus⟩ := reported_reachable
  exact ⟨cfg, report, hmem, hstatus, (report_recorded sound_newShop hr hmem).1⟩

end MeeoServer.Reviews.Board
