/-
# New variants and the ledger

A new variant gets its stock with its inventory row, and no row of the ledger says so.  Besides
that only an adjustment can change a counter by something else than it logs, if the available
quantity has changed since the adjustment has read it.  In the runs without either, the ledger of
each variant replays to its stock.
-/
import MeeoServer.Catalog.Variants
import MeeoServer.Inventory.Availability
import MeeoServer.Inventory.Replay

namespace MeeoServer

open Proc

/-- An adjustment that sets no quantity logs no difference. -/
def Commit.LogsOnlySet : Commit → Prop
  | .adjustStock input delta => input.availableQuantity = none → delta = 0
  | _ => True

/-! ## The adjustments -/

section Adjustments

variable {I G : Database → Database → Prop} {s : Database}

lemma adjustStock_logsOnlySet (input : AdjustStockInput) :
    (adjustStock input).Emits Commit.apply I G (fun _ c => c.LogsOnlySet) Any s := by
  refine emits_read fun s _ => ?_
  split
  · exact emits_throw
  · refine emits_commit (fun _ _ hnone => ?_) fun _ _ _ _ _ => emits_pure
    rw [hnone]

/-- Only `adjustStock` commits an adjustment. -/
lemma Call.Spec.adjustment {config : GatewayConfig} {x : Call} {input : AdjustStockInput}
    {delta : ℤ} (h : Call.Spec I config x s (.adjustStock input delta)) :
    x = .adjustStock input := by
  cases x with
  | adjustStock input' =>
    obtain ⟨_, heq⟩ := h
    cases heq
    rfl
  | _ =>
    simp [Call.Spec, CheckoutBatch, TransitionBatch, ConfirmBatch, InitializeBatch, AttemptBatch,
      VerifyBatch, FailureBatch, ManualBatch, RefundBatch] at h

lemma Call.logsOnlySet (config : GatewayConfig) (x : Call) (s : Database) :
    (x.proc config).Emits Commit.apply (fun _ _ => True) (fun _ _ => True)
      (fun _ c => c.LogsOnlySet) Any s := by
  have hspec : (x.proc config).Emits Commit.apply (fun _ _ => True) (fun _ _ => True)
      (x.Spec (fun _ _ => True) config) Any s :=
    Call.emits (fun _ _ => trivial) (fun _ => trivial)
      (fun _ => expireStaleReservations_emits (fun _ => trivial) (fun _ _ => trivial)
        fun _ _ _ => trivial) x s
  cases x with
  | adjustStock input => exact adjustStock_logsOnlySet input
  | _ =>
    refine hspec.imp fun s c hc => ?_
    cases c with
    | adjustStock input delta => exact nomatch Call.Spec.adjustment hc
    | _ => trivial

end Adjustments

namespace Catalog

/-- New variants come without stock, and an adjustment that sets the available quantity finds the
one that it has read. -/
def LogsWhole (s : Shop) : Commit → Prop
  | .createVariants _ variants => ∀ variant ∈ variants, variant.2.initialStock.getD 0 = 0
  | .service (.adjustStock input delta) =>
    ∀ quantity ∈ input.availableQuantity, s.db.stock.available input.variantId = quantity - delta
  | _ => True

instance (s : Shop) (c : Commit) : Decidable (LogsWhole s c) := by
  unfold LogsWhole
  split <;> infer_instance

/-! ## What a new variant leaves out -/

section NewVariants

variable {s s' : Shop} {v : VariantId}

/-- The initial stock of a variant among the new ones. -/
def initialStockOf (variants : List (VariantId × CreateProductVariantInput)) (v : VariantId) : ℕ :=
  (variants.map fun variant => if variant.1 = v then variant.2.initialStock.getD 0 else 0).sum

lemma initialStockOf_eq_zero {variants : List (VariantId × CreateProductVariantInput)} :
    (∀ v, initialStockOf variants v = 0) ↔
      ∀ variant ∈ variants, variant.2.initialStock.getD 0 = 0 := by
  simp only [initialStockOf, List.sum_eq_zero_iff_forall_eq_nat, List.mem_map,
    forall_exists_index, and_imp, forall_apply_eq_imp_iff₂, ite_eq_right_iff]
  constructor
  · exact fun h variant hmem => h variant.1 variant hmem rfl
  · exact fun h _ variant hmem _ => h variant hmem

lemma insertVariant_unlogged {variant : VariantId × CreateProductVariantInput}
    (h : insertVariant s variant = some s') :
    s'.db.stock.unlogged v = s.db.stock.unlogged v +
      ((initialStockOf [variant] v : ℤ), 0) := by
  obtain ⟨id, input⟩ := variant
  simp only [insertVariant, Option.ite_none_left_eq_some, not_or, Option.some.injEq,
    Option.not_isSome_iff_eq_none] at h
  obtain ⟨⟨-, -, hnone, -⟩, rfl⟩ := h
  by_cases hv : v = id
  · subst hv
    simp [initialStockOf, Stock.unlogged, Stock.counters, Stock.replayed, Stock.available,
      Stock.reserved, hnone, Prod.ext_iff]
    omega
  · simp [initialStockOf, Stock.unlogged, Stock.counters, Stock.replayed, Stock.available,
      Stock.reserved, hv, Ne.symm hv]

lemma insertVariants_unlogged {variants : List (VariantId × CreateProductVariantInput)}
    (h : variants.foldlM insertVariant s = some s') :
    s'.db.stock.unlogged v = s.db.stock.unlogged v + ((initialStockOf variants v : ℤ), 0) := by
  induction variants generalizing s with
  | nil =>
    obtain rfl : s = s' := by simpa using h
    exact (add_zero _).symm
  | cons variant variants ih =>
    simp only [List.foldlM_cons, Option.bind_eq_bind, Option.bind_eq_some_iff] at h
    obtain ⟨t, ht, hrest⟩ := h
    have hcons : initialStockOf (variant :: variants) v =
        initialStockOf [variant] v + initialStockOf variants v := by
      simp [initialStockOf]
    rw [ih hrest, insertVariant_unlogged ht, hcons, add_assoc]
    simp

end NewVariants

/-! ## One batch -/

/-- What a batch changes beyond what it logs. -/
def Commit.unlogged (s : Shop) : Commit → VariantId → ℤ × ℤ
  | .service c, v => c.unlogged s.db v
  | .createVariants _ variants, v => ((initialStockOf variants v : ℤ), 0)
  | .draftProductIfActive _, _ => 0

def Commit.LogsOnlySet : Commit → Prop
  | .service c => c.LogsOnlySet
  | _ => True

variable {s s' : Shop} {c : Commit}

lemma apply_unlogged (h : c.apply s = some s') (v : VariantId) :
    s'.db.stock.unlogged v = s.db.stock.unlogged v + c.unlogged s v := by
  cases c with
  | service c =>
    obtain ⟨db, hdb, rfl⟩ := Option.map_eq_some_iff.mp h
    exact Commit.stockAfter_unlogged (Commit.apply_eq_some hdb).1 v
  | createVariants productId variants =>
    simp only [Commit.apply, Option.ite_none_right_eq_some] at h
    exact insertVariants_unlogged h.2
  | draftProductIfActive productId =>
    obtain rfl := Option.some.inj h
    exact (add_zero _).symm

/-- The exact condition under which a batch logs all that it changes. -/
lemma unlogged_eq_zero_iff (hc : c.LogsOnlySet) :
    (∀ v, c.unlogged s v = 0) ↔ LogsWhole s c := by
  cases c with
  | service c =>
    cases c with
    | adjustStock input delta =>
      have hiff : (∀ v, Commit.unlogged s (.service (.adjustStock input delta)) v = 0) ↔
          s.db.stock.unloggedBy input delta = 0 := by
        constructor
        · intro h
          simpa [Commit.unlogged, MeeoServer.Commit.unlogged] using h input.variantId
        · intro h v
          simp [Commit.unlogged, MeeoServer.Commit.unlogged, h]
      rw [hiff]
      cases hset : input.availableQuantity with
      | none => simp [Stock.unloggedBy, LogsWhole, hset, hc hset]
      | some quantity =>
        simp only [Stock.unloggedBy, LogsWhole, hset, Option.map_some, Option.getD_some,
          Option.mem_def, Option.some.injEq, forall_eq']
        omega
    | _ => exact iff_of_true (fun _ => rfl) trivial
  | createVariants productId variants =>
    rw [show LogsWhole s (.createVariants productId variants) ↔ _ from
      initialStockOf_eq_zero.symm]
    simp [Commit.unlogged, Prod.ext_iff]
  | draftProductIfActive productId => exact iff_of_true (fun _ => rfl) trivial

/-- **One batch**: the ledger still replays to the stock exactly if the condition holds. -/
theorem replays_iff_logsWhole (hc : c.LogsOnlySet) (hs : s.db.stock.Replays)
    (h : c.apply s = some s') : s'.db.stock.Replays ↔ LogsWhole s c := by
  rw [Stock.replays_iff] at hs ⊢
  rw [← unlogged_eq_zero_iff hc]
  refine forall_congr' fun v => ?_
  rw [apply_unlogged h, hs v, zero_add]

/-! ## Runs -/

lemma Call.logsOnlySet (config : GatewayConfig) (x : Call) (s : Shop) :
    ((shopServer config).proc x).Emits Commit.apply (fun _ _ => True) (fun _ _ => True)
      (fun _ c => c.LogsOnlySet) Any s := by
  cases x with
  | service x =>
    refine Emits.imp (Emits.zoom ?_ (fun _ => trivial) (fun _ => trivial)
      (MeeoServer.Call.logsOnlySet config x s.db)) ?_
    · intro b s s' h
      obtain ⟨db, hdb, rfl⟩ := Option.map_eq_some_iff.mp h
      exact hdb
    · rintro s c ⟨b, rfl, hb⟩
      exact hb
  | createVariant productId input user id =>
    refine emits_read fun s _ => ?_
    split
    · exact emits_throw
    · refine Emits.andThen trivial fun _ _ => emits_read fun s _ => ?_
      split
      · exact emits_throw
      · refine emits_read fun s _ => ?_
        split
        · exact emits_throw
        · exact emits_commit (fun _ _ => trivial) fun _ _ _ _ _ =>
            emits_commit (fun _ _ => trivial) fun _ _ _ _ _ => emits_pure
  | batchCreateVariants productId variants user =>
    refine emits_read fun s _ => ?_
    split
    · exact emits_throw
    · refine Emits.andThen trivial fun _ _ => ?_
      dsimp only
      split
      · exact emits_throw
      · refine emits_read fun s _ => ?_
        split
        · exact emits_throw
        · refine emits_commit (fun _ _ => trivial) fun _ _ _ _ _ => emits_read fun s _ => ?_
          split
          · exact emits_commit (fun _ _ => trivial) fun _ _ _ _ _ => emits_pure
          · exact emits_pure

/-- A batch that a call has computed from what it read; the others do as they like. -/
lemma shop_rely (config : GatewayConfig) (Allowed : Call → Prop) (Cond : Shop → Commit → Prop) :
    Rely (shopServer config) Allowed Cond (fun _ _ => True) fun _ _ c => c.LogsOnlySet where
  refl _ := trivial
  trans _ _ := trivial
  env _ _ := trivial
  commit _ _ _ _ := trivial
  emits x s _ := Call.logsOnlySet config x s

/-- **The ledger replays to the stock**, in the runs in which new variants come without stock and
an adjustment that sets the available quantity finds the one that it has read: whatever calls run,
and in whatever order their steps are taken. -/
theorem ledger_replays (config : GatewayConfig) (Allowed : Call → Prop) {s₀ : Shop}
    (h₀ : s₀.db.stock.Replays) {cfg : Config Shop Commit AppError}
    (hr : (shopServer config).Reachable Allowed LogsWhole s₀ cfg) :
    cfg.store.db.stock.Replays := by
  refine (shop_rely config Allowed LogsWhole).invariant (P := fun s => s.db.stock.Replays) hr h₀
    ?_ ?_
  · intro e s hs
    cases e with
    | server e =>
      show (e.apply s.db).stock.Replays
      rw [Environ.apply_stock]
      exact hs
    | catalogue change => exact hs
  · intro x s c s' _ hspec hcond happ hs
    exact (replays_iff_logsWhole hspec hs happ).mpr hcond

/-! ## A variant with initial stock -/

/-- A shop with one product and no variants. -/
def openShop : Shop where
  products := fun productId => if productId = 0 then some ⟨some 7, .draft⟩ else none
  skus := []
  attributeValues := []
  db := { Database.stocked 0 with stock := ⟨fun _ => false, fun _ => none, [], []⟩ }

lemma openShop_replays : openShop.db.stock.Replays := fun _ => rfl

/-- The owner of the product adds the variant 0. -/
def addVariant (initialStock : Option ℕ) : Call :=
  .createVariant 0 ⟨"lamp-1", [], initialStock, none⟩ (some ⟨7, 7, [], [], none⟩) 0

/-- The calls that move stock between the counters, or create variants. -/
def Call.movesStock : Call → Bool
  | .service x => x.movesStock
  | .createVariant .. | .batchCreateVariants .. => true

/-- Ten units are added to a variant, three of them are reserved, and a count finds twenty. -/
theorem ledger_replays_counted : ∃ cfg : Config Shop Commit AppError,
    (shopServer .unchecked).Reachable (fun x => x.movesStock = true) LogsWhole openShop cfg ∧
      cfg.store.db.stock.Replays ∧ cfg.store.db.stock.counters 0 = (20, 3) := by
  obtain ⟨cfg, hr, hcounters⟩ := (shopServer .unchecked).exists_reachable_of_exec
    (fun x => x.movesStock = true) LogsWhole
    [.call (addVariant none), .step 0 .ok, .step 0 .ok, .step 0 .ok, .step 0 .ok, .step 0 .ok,
      .call (.service (.addStock 0 10)), .step 1 .ok, .step 1 .ok,
      .call (.service (.reserveStock ⟨0, 3, none, 15⟩)), .step 2 .ok, .step 2 .ok,
      .call (.service (.adjustStock ⟨0, some 20, none⟩)), .step 3 .ok, .step 3 .ok]
    openShop (fun s => s.db.stock.counters 0) (20, 3) (by decide +kernel)
  exact ⟨cfg, hr, ledger_replays .unchecked (fun x => x.movesStock = true) openShop_replays hr,
    hcounters⟩

/-- Five units are there from the beginning, and the ledger is empty. -/
theorem initial_stock_unlogged :
    ¬∀ (config : GatewayConfig) (s₀ : Shop) (cfg : Config Shop Commit AppError),
      s₀.db.stock.Replays →
      (shopServer config).Reachable (fun x => x.movesStock = true) Free s₀ cfg →
      cfg.store.db.stock.Replays := by
  intro h
  obtain ⟨cfg, hr, hstock⟩ := (shopServer .unchecked).exists_reachable_of_exec
    (fun x => x.movesStock = true) Free
    [.call (addVariant (some 5)), .step 0 .ok, .step 0 .ok, .step 0 .ok, .step 0 .ok,
      .step 0 .ok]
    openShop (fun s => (s.db.stock.replayed 0, s.db.stock.counters 0)) ((0, 0), (5, 0))
    (by decide +kernel)
  obtain ⟨hreplayed, hcounters⟩ := Prod.mk.inj hstock
  have hreplays := h .unchecked openShop cfg openShop_replays hr 0
  rw [hreplayed, hcounters] at hreplays
  exact absurd hreplays (by decide)

end Catalog

end MeeoServer
