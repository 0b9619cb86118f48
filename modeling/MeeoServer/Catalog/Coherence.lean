/-
# Product details are read as they were left

Once the operations that have changed the details of a product have returned, a reader that starts
later gets the details as they are in the tables, or as they will be.

What can go wrong is in the condition `Meets`.  Details that an operation has replaced must not be
written to a level whose key was cleared after it, nor once it has returned; and when it returns,
it must have cleared the keys under which something is cached that it has replaced.  The update of
a variant clears none if its product is not ACTIVE.
-/
import MeeoServer.Catalog.ProductCache

namespace MeeoServer.Catalog.ProductCache

open Proc Lookaside
open ContextCache (AuthorizationContext)

/-! ## The property and the condition -/

/-- Every reader gets details that no operation had replaced which had returned before the reader
started; if no operation was under way that had changed anything, it gets details that have been
in the tables since then. -/
def ReadsCoherent (s : Store) : Prop :=
  ∀ a ∈ s.answers, (∀ v ∈ a.settled, ¬Replaced Tables.details s.history v a.key a.value) ∧
    ((∀ v ∈ List.range a.version, v + 1 ∈ a.settled) →
      s.history.Since a.version fun db => db.details a.key = some a.value)

instance (v : ℕ) (h : History Tables) (key : CacheKey) (value : ProductDetails) :
    Decidable (Replaced Tables.details h v key value) :=
  inferInstanceAs (Decidable (h.Lost v fun db => db.details key = some value))

instance (s : Store) : Decidable (ReadsCoherent s) :=
  inferInstanceAs (Decidable (∀ a ∈ s.answers, _ ∧ (_ → _)))

/-- The keys under which something was found before the change `v`. -/
def Store.keysBefore (s : Store) (v : ℕ) : List CacheKey :=
  (s.history.versions[v - 1]?).elim [] Tables.keys

def Meets (s : Store) : Commit → Prop
  | .memorySet key value _ => ∀ v ∈ s.swept .memory key ++ s.history.settled,
      ¬Replaced Tables.details s.history v key value
  | .redisSet key value _ => ∀ v ∈ s.swept .redis key ++ s.history.settled,
      ¬Replaced Tables.details s.history v key value
  | .settle v keys cleared => ∀ key ∈ s.keysBefore v, (cleared = true → key ∉ keys) →
      ∀ level ∈ [CacheLevel.memory, .redis], ∀ value ∈ s.live level key,
        ¬Replaced Tables.details s.history v key value
  | _ => True

instance (s : Store) (c : Commit) : Decidable (Meets s c) := by
  unfold Meets
  split <;> infer_instance

/-! ## What the programs commit -/

/-- What a call may commit. -/
def Emitted (s : Store) : Commit → Prop
  | .memorySet key value _ | .redisSet key value _ => s.Known Tables.details [] key value
  | .delete _ _ vs => ∀ v ∈ vs, v ≤ s.history.version
  | .settle v keys cleared => cleared = true → ∀ key ∈ keys, ∀ level, v ∈ s.swept level key
  | .answer a => a.version ≤ s.history.version ∧ s.Known Tables.details a.settled a.key a.value
  | _ => True

def Grows (s s' : Store) : Prop := Lookaside.Store.Grows s.toStore s'.toStore

variable {s s' s₀ : Store} {key : CacheKey} {value : ProductDetails} {v : ℕ} {vs : List ℕ}
  {keys : List CacheKey}

lemma Grows.refl (s : Store) : Grows s s := Lookaside.Store.Grows.refl _

lemma Grows.trans {s'' : Store} (h : Grows s s') (h' : Grows s' s'') : Grows s s'' :=
  Lookaside.Store.Grows.trans h h'

lemma settle_eq_some {cleared : Bool} (h : (Commit.settle v keys cleared).apply s = some s') :
    ∃ hv : v ≤ s.history.version, s' = ⟨s.toStore.settle v hv, s.affected⟩ := by
  simp only [Commit.apply] at h
  split at h
  · rename_i hv
    exact ⟨hv, (Option.some.inj h).symm⟩
  · cases h

lemma Grows.of_apply {c : Commit} (h : c.apply s = some s') : Grows s s' := by
  cases c with
  | change c =>
    obtain ⟨db, -, rfl⟩ := Option.map_eq_some_iff.mp h
    exact ⟨History.extends_record _ _, fun _ _ _ hv => hv, fun _ hhit => hhit⟩
  | lookup level key =>
    cases level <;> obtain rfl := Option.some.inj h <;>
      exact ⟨.refl _, fun _ _ _ hv => hv, fun _ hhit => List.mem_append_left _ hhit⟩
  | delete level keys vs =>
    obtain rfl := Option.some.inj h
    exact ⟨.refl _, fun _ _ _ hv => Lookaside.Store.mem_swept_clear.mpr (.inl hv), fun _ hhit => hhit⟩
  | settle v keys cleared =>
    obtain ⟨hv, rfl⟩ := settle_eq_some h
    exact ⟨History.extends_settle _ _ hv, fun _ _ _ hv => hv, fun _ hhit => hhit⟩
  | memorySet key value expiresAt | redisSet key value ttlSeconds | answer a =>
    obtain rfl := Option.some.inj h
    exact ⟨.refl _, fun _ _ _ hv => hv, fun _ hhit => hhit⟩

/-! ### Readers -/

/-- What a level answers is known from then on. -/
lemma known_of_lookup {level : CacheLevel} (hs : Grows s₀ s)
    (h : (Commit.lookup level key).apply s = some s') (hlive : s'.live level key = some value) :
    s'.Known Tables.details s₀.history.settled key value := by
  cases level with
  | memory =>
    obtain rfl := Option.some.inj h
    rw [Lookaside.Store.live_forget] at hlive
    exact Lookaside.Store.known_lookup hs hlive
  | redis =>
    obtain rfl := Option.some.inj h
    exact Lookaside.Store.known_lookup hs hlive

lemma getRedis_emits (key : CacheKey) (now : ℕ) (hs : Grows s₀ s) :
    (getRedis key now).Emits Commit.apply Grows Grows Emitted
      (fun r s => ∀ value, r = .ok (some value) →
        s.Known Tables.details s₀.history.settled key value) s := by
  refine emits_commit_post (by simp) (fun _ _ => trivial) fun s₁ s₂ h₁ happ _ => ?_
  cases hlive : s₂.live .redis key with
  | none => rintro value ⟨⟩
  | some parsed =>
    have hknown := known_of_lookup (hs.trans h₁) happ hlive
    refine emits_commit_post (by simp) (fun s₃ h₃ => ?_) fun s₃ s₄ h₃ _ h₄ => ?_
    · exact hknown.mono h₃ fun v hv => absurd hv List.not_mem_nil
    · rintro value ⟨⟩
      exact hknown.mono (h₃.trans h₄) fun _ hv => hv

lemma get_emits (isTest : Bool) (key : CacheKey) (s₀ : Store) :
    (get isTest key).Emits Commit.apply Grows Grows Emitted
      (fun r s => ∀ value, r = .ok (some value) →
        s.Known Tables.details s₀.history.settled key value) s₀ := by
  have hredis : ∀ now s, Grows s₀ s →
      (Proc.tryCatch (getRedis key now) fun _ => pure none).Emits Commit.apply Grows Grows Emitted
        (fun r s => ∀ value, r = .ok (some value) →
          s.Known Tables.details s₀.history.settled key value) s := by
    intro now s hs
    refine Emits.tryCatch ((getRedis_emits key now hs).mono fun r s hr => ?_)
    cases r with
    | ok o => exact hr
    | error e => rintro value ⟨⟩
  cases isTest with
  | true => exact emits_read_post (by simp) fun s₁ h₁ => hredis _ s₁ h₁
  | false =>
    refine emits_commit_post (by simp) (fun _ _ => trivial) fun s₁ s₂ h₁ happ h₂ => ?_
    cases hlive : s₂.live .memory key with
    | none => exact hredis _ s₂ (h₁.trans h₂)
    | some mem =>
      rintro value ⟨⟩
      exact known_of_lookup h₁ happ hlive

/-- **A reader** answers with what the cache or the tables have had since it started. -/
lemma getProduct_emits (isTest : Bool) (key : CacheKey) (s₀ : Store) :
    (getProduct isTest key).Emits Commit.apply Grows Grows Emitted Any s₀ := by
  refine emits_read fun start _ => ?_
  have hget := (get_emits isTest key start).along Grows.trans (Grows.refl start)
  refine Emits.bind (hget.mono ?_)
  rintro r s ⟨hknown, hs⟩
  cases r with
  | error e => trivial
  | ok o =>
    cases o with
    | some cached =>
      refine emits_commit (fun s₁ h₁ => ⟨(hs.trans h₁).history.version_le, ?_⟩)
        fun _ _ _ _ _ => emits_pure
      exact (hknown cached rfl).mono h₁ fun _ hv => hv
    | none =>
      refine emits_read fun s₁ h₁ => ?_
      cases hdetails : s₁.db.details key with
      | none => exact emits_throw
      | some product =>
        have hstart := hs.trans h₁
        have hproduct : s₁.Known Tables.details start.history.settled key product :=
          Lookaside.Store.known_of_view hstart hdetails
        refine emits_read fun s₂ h₂ => emits_commit (fun s₃ h₃ => ?_) fun s₃ s₄ h₃ _ h₄ => ?_
        · exact hproduct.mono (h₂.trans h₃) fun v hv => absurd hv List.not_mem_nil
        have h₁₄ := (h₂.trans h₃).trans h₄
        refine emits_commit (fun s₅ h₅ => ⟨?_, ?_⟩) fun s₅ s₆ h₅ _ h₆ => emits_attempt fun s₇ h₇ => ?_
        · exact (hstart.trans (h₁₄.trans h₅)).history.version_le
        · exact hproduct.mono (h₁₄.trans h₅) fun _ hv => hv
        · exact hproduct.mono ((h₁₄.trans h₅).trans (h₆.trans h₇))
            fun v hv => absurd hv List.not_mem_nil

/-! ### Operations -/

/-- The keys have been cleared on both levels after the changes `vs`. -/
def Store.Cleared (s : Store) (keys : List CacheKey) (vs : List ℕ) : Prop :=
  ∀ key ∈ keys, ∀ level, ∀ v ∈ vs, v ∈ s.swept level key

lemma Store.Cleared.mono (h : s.Cleared keys vs) (hs : Grows s s') : s'.Cleared keys vs :=
  fun key hkey level v hv => hs.swept level key v (h key hkey level v hv)

lemma swept_of_delete {level : CacheLevel}
    (h : (Commit.delete level keys vs).apply s = some s') :
    ∀ key ∈ keys, ∀ v ∈ vs, v ∈ s'.swept level key := by
  obtain rfl := Option.some.inj h
  exact fun key hkey v hv => Lookaside.Store.mem_swept_clear.mpr (.inr ⟨rfl, hkey, hv⟩)

lemma delRedis_emits (key : CacheKey) (hvs : ∀ v ∈ vs, v ≤ s.history.version) :
    (delRedis vs key).Emits Commit.apply Grows Grows Emitted
      (fun r s => r = .ok () → ∀ v ∈ vs, v ∈ s.swept .redis key) s := by
  refine emits_commit_post ?_ (fun s₁ h₁ v hv => (hvs v hv).trans h₁.history.version_le)
    fun s₁ s₂ _ happ _ _ => swept_of_delete happ key (List.mem_singleton_self key)
  rintro s₁ ⟨⟩

lemma invalidateProductCache_emits (id : ProductId) (slug : String)
    (hvs : ∀ v ∈ vs, v ≤ s.history.version) :
    (invalidateProductCache id slug vs).Emits Commit.apply Grows Grows Emitted
      (fun r s => r = .ok true → s.Cleared (productKeys id slug) vs) s := by
  refine emits_commit_post (by simp) (fun s₁ h₁ v hv => (hvs v hv).trans h₁.history.version_le)
    fun s₁ s₂ h₁ happ h₂ => ?_
  have hvs₂ : ∀ v ∈ vs, v ≤ s₂.history.version :=
    fun v hv => (hvs v hv).trans (h₁.trans h₂).history.version_le
  have hkeys := tryAll_emits (F := fun s : Store => ∀ v ∈ vs, v ≤ s.history.version)
    (D := fun key s => ∀ v ∈ vs, v ∈ s.swept .redis key)
    (fun _ _ h h' v hv => (h' v hv).trans h.history.version_le)
    (fun _ _ h h' v hv => (h' v hv).trans h.history.version_le)
    (fun _ _ _ h h' v hv => h.swept _ _ v (h' v hv))
    (fun _ _ _ h h' v hv => h.swept _ _ v (h' v hv))
    (fun key _ hvs => delRedis_emits key hvs) (productKeys id slug) hvs₂
  have hredis := hkeys.frame
    (F := fun s => ∀ key ∈ productKeys id slug, ∀ v ∈ vs, v ∈ s.swept .memory key)
    (fun _ _ h h' key hkey v hv => h.swept _ _ v (h' key hkey v hv))
    (fun _ _ h h' key hkey v hv => h.swept _ _ v (h' key hkey v hv)) (swept_of_delete happ)
  refine hredis.mono ?_
  rintro r s₃ ⟨hredis, hmemory⟩ hr key hkey level
  cases level with
  | memory => exact hmemory key hkey
  | redis => exact hredis hr key hkey

/-- What is done after an invalidation, whatever has come of it. -/
lemma invalidateProductCache_bind_emits {β : Type} {id : ProductId} {slug : String}
    {f : Bool → Service β} {F : Store → Prop} (hvs : ∀ v ∈ vs, v ≤ s.history.version)
    (hF : ∀ s s', Grows s s' → F s → F s') (hs : F s)
    (hf : ∀ cleared s, (cleared = true → s.Cleared (productKeys id slug) vs) →
      (∀ v ∈ vs, v ≤ s.history.version) → F s →
        (f cleared).Emits Commit.apply Grows Grows Emitted Any s) :
    (invalidateProductCache id slug vs >>= f).Emits Commit.apply Grows Grows Emitted Any s := by
  have hcleared := (invalidateProductCache_emits id slug hvs).frame
    (F := fun s => (∀ v ∈ vs, v ≤ s.history.version) ∧ F s)
    (fun _ _ h h' => ⟨fun v hv => (h'.1 v hv).trans h.history.version_le, hF _ _ h h'.2⟩)
    (fun _ _ h h' => ⟨fun v hv => (h'.1 v hv).trans h.history.version_le, hF _ _ h h'.2⟩) ⟨hvs, hs⟩
  refine Emits.bind (hcleared.mono ?_)
  rintro r s₁ ⟨hcleared, hvs₁, hs₁⟩
  cases r with
  | error e => trivial
  | ok cleared => exact hf cleared s₁ (fun h => hcleared (by rw [h])) hvs₁ hs₁

/-- **An operation** that says it has cleared the keys has cleared them on both levels. -/
lemma returnFrom_emits (v : ℕ) (keys : List CacheKey) (cleared : Bool)
    (hcleared : cleared = true → ∀ key ∈ keys, ∀ level, v ∈ s.swept level key) :
    (returnFrom v keys cleared).Emits Commit.apply Grows Grows Emitted Any s :=
  emits_commit (fun _ h₁ hc key hkey level => h₁.swept level key v (hcleared hc key hkey level))
    fun _ _ _ _ _ => emits_pure

lemma existingProduct_emits (id : ProductId) (user : Option AuthorizationContext) (s₀ : Store) :
    (existingProduct id user).Emits Commit.apply Grows Grows Emitted Any s₀ := by
  refine emits_read fun s _ => ?_
  cases s.db.findById id with
  | none => exact emits_throw
  | some existing =>
    exact Emits.andThen (p := Proc.done _) trivial fun _ _ => emits_pure

lemma setStatus_emits (status : ProductStatus) (id : ProductId)
    (user : Option AuthorizationContext) (s₀ : Store) :
    (setStatus status id user).Emits Commit.apply Grows Grows Emitted Any s₀ := by
  refine (existingProduct_emits id user s₀).andThen fun existing _ =>
    emits_commit (fun _ _ => trivial) fun _ t _ _ _ => ?_
  refine invalidateProductCache_bind_emits (F := fun _ => True)
    (fun v hv => (List.mem_singleton.mp hv).le) (fun _ _ _ _ => trivial) trivial
    fun cleared s hcleared _ _ => returnFrom_emits _ _ _ fun hc key hkey level => ?_
  exact hcleared hc key hkey level _ (List.mem_singleton_self _)

lemma checkExists_emits (rows : Tables → List ℕ) (current : Option ℕ) (asked : Option (Option ℕ))
    (message : String) (s₀ : Store) :
    (checkExists rows current asked message).Emits Commit.apply Grows Grows Emitted Any s₀ := by
  unfold checkExists
  split
  · exact emits_pure
  · refine emits_read fun s _ => ?_
    split
    · exact emits_pure
    · exact emits_throw

lemma resolveSlug_emits (slugify : String → String) (existing : ProductRow)
    (input : UpdateProductInput) (s₀ : Store) :
    (resolveSlug slugify existing input).Emits Commit.apply Grows Grows Emitted Any s₀ := by
  unfold resolveSlug
  split
  · exact emits_pure
  · refine emits_read fun s _ => ?_
    split
    · exact emits_throw
    · exact emits_pure

lemma updateProduct_emits (slugify : String → String) (id : ProductId) (input : UpdateProductInput)
    (user : Option AuthorizationContext) (s₀ : Store) :
    (updateProduct slugify id input user).Emits Commit.apply Grows Grows Emitted Any s₀ := by
  refine (existingProduct_emits id user s₀).andThen fun existing s₁ =>
    (resolveSlug_emits slugify existing input s₁).andThen fun slug s₂ =>
    (checkExists_emits _ _ _ _ s₂).andThen fun _ s₃ =>
    (checkExists_emits _ _ _ _ s₃).andThen fun _ s₄ =>
    emits_commit (fun _ _ => trivial) fun _ t _ _ _ => ?_
  refine invalidateProductCache_bind_emits (F := fun _ => True)
    (fun v hv => (List.mem_singleton.mp hv).le) (fun _ _ _ _ => trivial) trivial
    fun cleared s hcleared hvs _ => ?_
  split
  · -- the new slug has keys of its own
    refine invalidateProductCache_bind_emits
      (F := fun s => cleared = true → s.Cleared (productKeys id existing.slug) [t.history.version])
      hvs (fun _ _ h h' hc => (h' hc).mono h) hcleared fun cleared' s hcleared' _ hold =>
      returnFrom_emits _ _ _ fun hc key hkey level => ?_
    obtain ⟨hc, hc'⟩ := Bool.and_eq_true_iff.mp hc
    rcases List.mem_append.mp hkey with hkey | hkey
    · exact hold hc key hkey level _ (List.mem_singleton_self _)
    · exact hcleared' hc' key hkey level _ (List.mem_singleton_self _)
  · refine returnFrom_emits _ _ _ fun hc key hkey level => ?_
    exact hcleared hc key hkey level _ (List.mem_singleton_self _)

lemma draftProductIfActive_emits (productId : ProductId) (productSlug : String)
    (hv : v ≤ s.history.version) :
    (draftProductIfActive productId productSlug v).Emits Commit.apply Grows Grows Emitted Any s := by
  refine emits_commit (fun _ _ => trivial) fun s₁ t h₁ _ h₂ => ?_
  have hvs : ∀ w ∈ [v, t.history.version], w ≤ t.history.version := by
    intro w hw
    rcases List.mem_cons.mp hw with rfl | hw
    · exact hv.trans (h₁.trans h₂).history.version_le
    · exact (List.mem_singleton.mp hw).le
  dsimp only
  split
  · refine invalidateProductCache_bind_emits (F := fun _ => True) hvs (fun _ _ _ _ => trivial) trivial
      fun cleared s₃ hcleared _ _ => ?_
    refine emits_commit (fun s₄ h₄ hc key hkey level => ?_) fun s₄ s₅ h₄ _ h₅ => ?_
    · exact h₄.swept level key v (hcleared hc key hkey level v List.mem_cons_self)
    · refine returnFrom_emits _ _ _ fun hc key hkey level => ?_
      exact (h₄.trans h₅).swept level key _ (hcleared hc key hkey level _
        (List.mem_cons_of_mem _ (List.mem_singleton_self _)))
  · exact (returnFrom_emits _ _ _ fun hc => Bool.noConfusion hc).andThen fun _ _ =>
      returnFrom_emits _ _ _ fun hc => Bool.noConfusion hc

lemma checkSku_emits (variant : VariantRow) (asked : Option String) (s₀ : Store) :
    (checkSku variant asked).Emits Commit.apply Grows Grows Emitted Any s₀ := by
  unfold checkSku
  split
  · exact emits_pure
  · refine emits_read fun s _ => ?_
    dsimp only
    split
    · exact emits_throw
    · exact emits_pure

lemma updateVariant_emits (variantId : VariantId) (input : VariantData)
    (user : Option AuthorizationContext) (s₀ : Store) :
    (updateVariant variantId input user).Emits Commit.apply Grows Grows Emitted Any s₀ := by
  refine emits_read fun s _ => ?_
  cases s.db.variantWithProduct variantId with
  | none => exact emits_throw
  | some rows =>
    obtain ⟨variant, product⟩ := rows
    refine Emits.andThen (p := Proc.done _) trivial fun _ s₁ =>
      (checkSku_emits variant input.sku s₁).andThen fun _ s₂ => ?_
    exact emits_commit (fun _ _ => trivial) fun _ t _ _ _ =>
      draftProductIfActive_emits product.id product.slug le_rfl

/-- The calls of the server only extend the history, whatever a commit has to satisfy besides. -/
lemma catalogServer_rely (slugify : String → String) (isTest : Bool)
    (Cond : Store → Commit → Prop) :
    Rely (catalogServer slugify isTest) (fun _ => True) Cond Grows fun _ => Emitted where
  refl := Grows.refl
  trans h h' := h.trans h'
  env elapsed s := ⟨.refl _, fun _ _ _ hv => hv, fun _ hhit => hhit⟩
  commit _ _ _ happ := Grows.of_apply happ
  emits x s _ := by
    cases x with
    | getProductById id => exact getProduct_emits isTest (.byId id) s
    | getProductBySlug slug => exact getProduct_emits isTest (.bySlug slug) s
    | updateProduct id input user => exact updateProduct_emits slugify id input user s
    | publishProduct id user => exact setStatus_emits .active id user s
    | draftProduct id user => exact setStatus_emits .draft id user s
    | archiveProduct id user => exact setStatus_emits .archived id user s
    | updateVariant id input user => exact updateVariant_emits id input user s

/-! ## The invariant -/

/-- Something is found only under the keys of the products. -/
lemma mem_keys_of_details {db : Tables} (h : db.details key = some value) : key ∈ db.keys := by
  obtain ⟨row, hrow, -⟩ := Option.map_eq_some_iff.mp h
  refine List.mem_flatMap.mpr ⟨row, ?_⟩
  cases key with
  | byId id =>
    obtain rfl : row.id = id := by simpa using List.find?_some hrow
    exact ⟨List.mem_of_find?_eq_some hrow, List.mem_cons_self⟩
  | bySlug slug =>
    obtain rfl : row.slug = slug := by simpa using List.find?_some hrow
    exact ⟨List.mem_of_find?_eq_some hrow, List.mem_cons_of_mem _ (List.mem_singleton_self _)⟩

/-- What a change has replaced was found under one of the keys before it. -/
lemma mem_keysBefore (h : Replaced Tables.details s.history v key value) :
    key ∈ s.keysBefore v := by
  obtain ⟨⟨before, hbefore, -, -, hdetails, -⟩, -⟩ := h
  unfold Store.keysBefore
  rw [Option.mem_def.mp hbefore]
  exact mem_keys_of_details hdetails

/-- Nothing is cached, and nothing was answered, that should have been replaced. -/
def Coherent (s : Store) : Prop := s.toStore.Coherent Tables.details

/-- What a commit that meets the condition leaves coherent. -/
lemma Coherent.of_apply (h : Coherent s) {c : Commit} (hemitted : Emitted s c) (hmeets : Meets s c)
    (happ : c.apply s = some s') : Coherent s' := by
  cases c with
  | change c =>
    obtain ⟨db, -, rfl⟩ := Option.map_eq_some_iff.mp happ
    exact Lookaside.Store.Coherent.record h db
  | lookup level key =>
    cases level with
    | memory =>
      obtain rfl := Option.some.inj happ
      exact (Lookaside.Store.Coherent.lookup h .memory key).forget .memory key
    | redis =>
      obtain rfl := Option.some.inj happ
      exact Lookaside.Store.Coherent.lookup h .redis key
  | memorySet key value expiresAt | redisSet key value ttlSeconds =>
    obtain rfl := Option.some.inj happ
    exact Lookaside.Store.Coherent.put h
      (Lookaside.Store.Coherent.fresh_of_known h hemitted).since hmeets
  | delete level keys vs =>
    obtain rfl := Option.some.inj happ
    exact Lookaside.Store.Coherent.clear h level keys hemitted
  | settle v keys cleared =>
    obtain ⟨hv, rfl⟩ := settle_eq_some happ
    refine Lookaside.Store.Coherent.settle h hv fun level key value hlive hreplaced => ?_
    by_cases hkey : cleared = true ∧ key ∈ keys
    · -- the key was cleared after the change
      have hswept := hemitted hkey.1 key hkey.2 level
      exact (((Lookaside.Store.Coherent.entries h level key value hlive).kept v
        (List.mem_append_left _ hswept)).2) hreplaced
    · refine hmeets key (mem_keysBefore hreplaced) (fun hc hmem => hkey ⟨hc, hmem⟩) level ?_ value
        hlive hreplaced
      cases level with
      | memory => exact List.mem_cons_self
      | redis => exact List.mem_cons_of_mem _ (List.mem_singleton_self _)
  | answer a =>
    obtain rfl := Option.some.inj happ
    exact Lookaside.Store.Coherent.answer h hemitted.1
      (Lookaside.Store.Coherent.fresh_of_known h hemitted.2)

lemma Coherent.readsCoherent (h : Coherent s) : ReadsCoherent s := by
  intro a ha
  obtain ⟨hle, hfresh⟩ := Lookaside.Store.Coherent.answers h a ha
  refine ⟨fun v hv => (hfresh.kept v hv).2, fun hall => hfresh.since_version hle fun v hv hvn => ?_⟩
  have hsettled := hall (v - 1) (List.mem_range.mpr (by omega))
  rwa [Nat.sub_add_cancel hv] at hsettled

/-- **Product details are read as they were left** in the runs whose commits meet the condition, on
any tables, however readers and operations are interleaved and wherever they fail. -/
theorem reads_coherent (slugify : String → String) (isTest : Bool) (clock : ℕ) (db : Tables)
    {cfg : Config Store Commit AppError}
    (hr : (catalogServer slugify isTest).Reachable (fun _ => True) Meets (.start clock db) cfg) :
    ReadsCoherent cfg.store := by
  have hinv : Coherent cfg.store :=
    (catalogServer_rely slugify isTest Meets).invariant hr
      (Lookaside.Store.coherent_start clock db)
      (fun elapsed s hs => Lookaside.Store.Coherent.tick hs elapsed)
      fun _ hemitted hmeets happ hs => Coherent.of_apply hs hemitted hmeets happ
  exact hinv.readsCoherent

/-! ## What an operation clears -/

section Clears

variable {db db' : Tables} {id : ProductId} {slug : String}

/-- Whoever has neither the identifier nor the slug is somebody else. -/
lemma id_ne_of_find {row : ProductRow} (hslug : ∀ row ∈ db.products, row.id = id ↔ row.slug = slug)
    (hne : slug ≠ "") (hkey : key ∉ productKeys id slug) (hrow : db.find key = some row) :
    row.id ≠ id := by
  unfold productKeys at hkey
  rw [if_neg hne] at hkey
  rintro rfl
  cases key with
  | byId k =>
    obtain rfl : row.id = k := by simpa using List.find?_some hrow
    exact hkey List.mem_cons_self
  | bySlug k =>
    obtain rfl : row.slug = k := by simpa using List.find?_some hrow
    rw [(hslug row (List.mem_of_find?_eq_some hrow)).mp rfl] at hkey
    exact hkey (List.mem_cons_of_mem _ (List.mem_singleton_self _))

lemma slug_ne (hslug : ∀ row ∈ db.products, row.id = id ↔ row.slug = slug) {r other : ProductRow}
    (hr : r ∈ db.products) (hrId : r.id = id) (hother : other ∈ db.products)
    (hotherId : other.id ≠ id) : r.slug ≠ other.slug := by
  rw [(hslug r hr).mp hrId]
  exact fun heq => hotherId ((hslug other hother).mpr heq.symm)

/-- A change of one product does not show under the keys of the others. -/
lemma find_updateProducts {p : ProductRow → Bool} {f : ProductRow → ProductRow} {row : ProductRow}
    (hp : ∀ r, p r = true → r.id = id) (hid : ∀ r, (f r).id = r.id)
    (hfree : ∀ r ∈ db.products, r.id = id → ∀ other ∈ db.products, other.id ≠ id →
      r.slug ≠ other.slug ∧ (f r).slug ≠ other.slug)
    (hrow : db.find key = some row) (hne : row.id ≠ id) :
    ({ db with products := Table.updateWhere p f db.products } : Tables).find key = some row := by
  have hother : ∀ r : ProductRow, r.id ≠ id → (if p r = true then f r else r) = r :=
    fun r hr => if_neg fun h => hr (hp r h)
  -- the row stays where it is, behind rows that still do not match
  have hsplits : ∀ before after, db.products = before ++ row :: after →
      Table.updateWhere p f db.products =
        Table.updateWhere p f before ++ row :: Table.updateWhere p f after := by
    intro before after hsplit
    unfold Table.updateWhere
    rw [hsplit, List.map_append, List.map_cons, hother row hne]
  cases key with
  | byId k =>
    obtain ⟨hk, before, after, hsplit, hbefore⟩ := List.find?_eq_some_iff_append.mp hrow
    refine List.find?_eq_some_iff_append.mpr ⟨hk, _, _, hsplits before after hsplit, fun r hr => ?_⟩
    obtain ⟨r', hr', rfl⟩ := List.mem_map.mp hr
    have hsame : (if p r' = true then f r' else r').id = r'.id := by
      split
      · exact hid r'
      · rfl
    rw [hsame]
    exact hbefore r' hr'
  | bySlug k =>
    obtain ⟨hk, before, after, hsplit, hbefore⟩ := List.find?_eq_some_iff_append.mp hrow
    refine List.find?_eq_some_iff_append.mpr ⟨hk, _, _, hsplits before after hsplit, fun r hr => ?_⟩
    obtain ⟨r', hr', rfl⟩ := List.mem_map.mp hr
    -- the changed product has another slug than the row, before and after
    by_cases hid' : r'.id = id
    · have hmem : r' ∈ db.products := hsplit ▸ List.mem_append_left _ hr'
      obtain ⟨hold, hnew⟩ := hfree r' hmem hid' row (List.mem_of_find?_eq_some hrow) hne
      rw [of_decide_eq_true hk] at hold hnew
      split
      · simpa using hnew
      · simpa using hold
    · rw [hother r' hid']
      exact hbefore r' hr'

/-- An update of a product takes nothing from under other keys than those of the product, with the
slug that it had. -/
lemma details_updateProduct {data : ProductData}
    (hslug : ∀ row ∈ db.products, row.id = id ↔ row.slug = slug) (hne : slug ≠ "")
    (happ : (Change.updateProduct id data).apply db = some db') (hkey : key ∉ productKeys id slug)
    (h : db.details key = some value) : db'.details key = some value := by
  obtain ⟨row, hrow, rfl⟩ := Option.map_eq_some_iff.mp h
  have hrowId := id_ne_of_find hslug hne hkey hrow
  unfold Change.apply at happ
  dsimp only at happ
  split at happ
  · rename_i hunique
    obtain rfl := Option.some.inj happ
    refine Option.map_eq_some_iff.mpr ⟨row, find_updateProducts (fun _ => of_decide_eq_true)
      (fun _ => rfl) (fun r hr hrId other hother hotherId => ?_) hrow hrowId, rfl⟩
    have hold := slug_ne hslug hr hrId hother hotherId
    refine ⟨hold, ?_⟩
    have hnew := hunique.2 other hother hotherId
    unfold ProductData.update
    dsimp only
    cases hdata : data.slug with
    | none => exact hold
    | some new =>
      rw [hdata] at hnew
      exact fun heq => hnew (congrArg some heq)
  · cases happ

/-- The same for the return of an ACTIVE product to DRAFT. -/
lemma details_draftIfActive (hslug : ∀ row ∈ db.products, row.id = id ↔ row.slug = slug)
    (hne : slug ≠ "") (happ : (Change.draftIfActive id).apply db = some db')
    (hkey : key ∉ productKeys id slug) (h : db.details key = some value) :
    db'.details key = some value := by
  obtain ⟨row, hrow, rfl⟩ := Option.map_eq_some_iff.mp h
  obtain rfl := Option.some.inj happ
  refine Option.map_eq_some_iff.mpr ⟨row, find_updateProducts
    (fun _ h => (of_decide_eq_true h).1) (fun _ => rfl) (fun r hr hrId other hother hotherId => ?_)
    hrow (id_ne_of_find hslug hne hkey hrow), rfl⟩
  have hold := slug_ne hslug hr hrId hother hotherId
  exact ⟨hold, hold⟩

/-- The same for an update of one of its variants. -/
lemma details_updateVariant {variantId : VariantId} {data : VariantData}
    (hslug : ∀ row ∈ db.products, row.id = id ↔ row.slug = slug) (hne : slug ≠ "")
    (hvariant : ∀ row ∈ db.variants, row.id = variantId → row.productId = id)
    (happ : (Change.updateVariant variantId data).apply db = some db')
    (hkey : key ∉ productKeys id slug) (h : db.details key = some value) :
    db'.details key = some value := by
  obtain ⟨row, hrow, rfl⟩ := Option.map_eq_some_iff.mp h
  have hrowId := id_ne_of_find hslug hne hkey hrow
  unfold Change.apply at happ
  dsimp only at happ
  split at happ
  · obtain rfl := Option.some.inj happ
    refine Option.map_eq_some_iff.mpr ⟨row, ?_, ?_⟩
    · cases key <;> exact hrow
    · unfold Tables.productDetails
      dsimp only
      congr 2
      refine Table.filter_updateWhere_of_not fun v hv hid => ?_
      have hproduct : v.productId ≠ row.id := by
        rw [hvariant v hv (of_decide_eq_true hid)]
        exact hrowId.symm
      exact ⟨decide_eq_false hproduct, decide_eq_false hproduct⟩
  · cases happ

/-- The change is one of the product. -/
def Change.IsAbout (db : Tables) (id : ProductId) : Change → Prop
  | updateProduct productId _ | draftIfActive productId => productId = id
  | updateVariant variantId _ => ∀ row ∈ db.variants, row.id = variantId → row.productId = id

/-- **An operation that clears the keys of its product**, with the slug that the product had before
the change, meets the condition when it returns. -/
theorem meets_settle {c : Change} (hbefore : s.history.versions[v - 1]? = some db)
    (hafter : s.history.versions[v]? = some db') (happ : c.apply db = some db')
    (habout : c.IsAbout db id) (hslug : ∀ row ∈ db.products, row.id = id ↔ row.slug = slug)
    (hne : slug ≠ "") (hkeys : ∀ key ∈ productKeys id slug, key ∈ keys) :
    Meets s (.settle v keys true) := by
  have hkept : ∀ key value, key ∉ keys → db.details key = some value →
      db'.details key = some value := by
    intro key value hkey h
    have hkey' : key ∉ productKeys id slug := fun hmem => hkey (hkeys key hmem)
    cases c with
    | updateProduct productId data =>
      obtain rfl : productId = id := habout
      exact details_updateProduct hslug hne happ hkey' h
    | draftIfActive productId =>
      obtain rfl : productId = id := habout
      exact details_draftIfActive hslug hne happ hkey' h
    | updateVariant variantId data =>
      exact details_updateVariant hslug hne habout happ hkey' h
  intro key _ hkey level _ value _ hreplaced
  obtain ⟨⟨d, hd, d', hd', hdetails, hnot⟩, -⟩ := hreplaced
  rw [hbefore] at hd
  rw [hafter] at hd'
  obtain rfl := Option.some.inj hd
  obtain rfl := Option.some.inj hd'
  exact hnot (hkept key value (hkey rfl) hdetails)

end Clears

/-! ## A lamp is published -/

/-- A lamp that is not published yet. -/
def lamp : Tables where
  products := [⟨1, "Lamp", "lamp", .draft, none, none, some 7⟩]
  variants := [⟨1, 1, "LAMP", 900, none, .active⟩]
  categories := []
  brands := []

/-- Who has created it. -/
def creator : AuthorizationContext := ⟨7, 7, [], [], none⟩

/-- A reader that misses both levels, up to its query. -/
def missed (i : ℕ) : List (Event Call ℕ) :=
  .call (.getProductById 1) :: List.replicate 4 (.step i .ok)

/-- The lamp is published while nobody reads it. -/
def published (i : ℕ) : List (Event Call ℕ) :=
  .call (.publishProduct 1 (some creator)) :: List.replicate 6 (.step i .ok)

theorem reads_coherent_lamp : ∃ cfg,
    (catalogServer id false).Reachable (fun _ => True) Meets (.start 0 lamp) cfg ∧
      cfg.store.answers.map (fun a => (a.value.status, a.version)) = [(.draft, 0), (.active, 1)] ∧
      ReadsCoherent cfg.store := by
  obtain ⟨cfg, hr, hanswers⟩ := Machine.exists_reachable_of_exec (catalogServer id false)
    (fun _ => True) Meets
    (missed 0 ++ List.replicate 4 (.step 0 .ok) ++ published 1 ++
      missed 2 ++ List.replicate 4 (.step 2 .ok))
    (.start 0 lamp) (fun s => s.answers.map fun a => (a.value.status, a.version))
    [(.draft, 0), (.active, 1)] (by decide +kernel)
  exact ⟨cfg, hr, hanswers, reads_coherent _ _ _ _ hr⟩

/-- Without the condition the lamp is still a draft after it was published: the first reader
writes what it has read before. -/
theorem draft_after_publish : ¬∀ (slugify : String → String) (isTest : Bool) (clock : ℕ)
    (db : Tables) (cfg : Config Store Commit AppError),
    (catalogServer slugify isTest).Reachable (fun _ => True) Free (.start clock db) cfg →
      ReadsCoherent cfg.store := by
  intro h
  obtain ⟨cfg, hr, hstale⟩ := Machine.exists_reachable_of_exec (catalogServer id false)
    (fun _ => True) Free
    (missed 0 ++ published 1 ++ List.replicate 4 (.step 0 .ok) ++
      .call (.getProductById 1) :: List.replicate 3 (.step 2 .ok))
    (.start 0 lamp) (fun s => decide (ReadsCoherent s)) false (by decide +kernel)
  exact of_decide_eq_false hstale (h _ _ _ _ cfg hr)

/-- Nothing has to overlap for that: the price of a lamp is changed that is not ACTIVE, and the cache
is not cleared. -/
example : ∃ cfg, (catalogServer id false).Reachable (fun _ => True) Free (.start 0 lamp) cfg ∧
    ¬ReadsCoherent cfg.store := by
  obtain ⟨cfg, hr, hstale⟩ := Machine.exists_reachable_of_exec (catalogServer id false)
    (fun _ => True) Free
    (missed 0 ++ List.replicate 4 (.step 0 .ok) ++
      .call (.updateVariant 1 ⟨none, some 800, none, none⟩ (some creator)) ::
        List.replicate 5 (.step 1 .ok) ++
      .call (.getProductById 1) :: List.replicate 3 (.step 2 .ok))
    (.start 0 lamp) (fun s => decide (ReadsCoherent s)) false (by decide +kernel)
  exact ⟨cfg, hr, of_decide_eq_false hstale⟩

end MeeoServer.Catalog.ProductCache
