/-
# All or nothing

`confirmOrder` sells the held units in one transaction and changes the status in another, after
a check of the status that it has read before both.  If the first is committed and the second
is not, the units are sold for an order that stays pending, or that somebody else has cancelled
meanwhile.  It is all or nothing in the runs in which nothing fails after the first transaction,
and nobody else writes to the order from the reading of the reservations on.
-/
import MeeoServer.Process.Beside
import MeeoServer.Process.Transaction
import MeeoServer.Server.Calls
import MeeoServer.Inventory.Effects

namespace MeeoServer

open Relation Beside

namespace Confirmation

/-- The reservations of an order, whatever their status. -/
def holdsOf (s : Database) (orderId : OrderId) : List Hold :=
  Table.findMany (fun r => r.orderId = some orderId) s.stock.reservations

/-- Every reservation of the order is committed. -/
def Committed (orderId : OrderId) (s : Database) : Prop :=
  ∀ h ∈ holdsOf s orderId, h.val.status = .confirmed

/-- The store that `confirmOrder` leaves, and the one that there would be without it: the order
is confirmed, and its reservations are committed, or its status, its reservations and the stock
are as if it had not run. -/
def AllOrNothing (orderId : OrderId) (present absent : Database) : Prop :=
  present.book.statusOf orderId = some .confirmed ∧ Committed orderId present ∨
    present.book.statusOf orderId = absent.book.statusOf orderId ∧ present.stock = absent.stock

/-! ## The condition -/

def awaits : OrderStatus → Bool
  | .pending | .paymentPending => true
  | _ => false

/-- Nobody has written to the order. -/
structure Untouched (orderId : OrderId) (s s' : Database) : Prop where
  status : s'.book.statusOf orderId = s.book.statusOf orderId
  holds : holdsOf s' orderId = holdsOf s orderId

/-- The order can be confirmed, and none of its reservations is released or expired; or it
cannot, and none of them is active. -/
def Confirmable (orderId : OrderId) (s : Database) : Prop :=
  (∃ st ∈ s.book.statusOf orderId, awaits st = true ∨ st = .confirmed) ∧
      (∀ h ∈ holdsOf s orderId, h.val.status = .active ∨ h.val.status = .confirmed) ∨
    (∀ st ∈ s.book.statusOf orderId, awaits st = false) ∧ s.stock.activeHolds orderId = []

/-- The statements of `confirmOrder` are numbered from 0; 1 reads the reservations, 2 and 5 are
the two commits.  After the first one a statement fails only if the first one had nothing to
sell, so that the store is the one without the call. -/
def terms (orderId : OrderId) : Terms Database where
  own n outcome s absent :=
    match n with
    | 1 => outcome = .ok → Confirmable orderId s
    | 2 => outcome = .unacked → s.stock.activeHolds orderId = []
    | 3 | 4 => outcome ≠ .ok → s = absent
    | 5 => outcome = .failed → s = absent
    | _ => True
  other n s s' := 2 ≤ n → Untouched orderId s s'

/-! ## The store between the statements -/

section Between

variable {orderId : OrderId} {s s' : Database}

lemma activeHolds_eq (s : Database) (orderId : OrderId) :
    s.stock.activeHolds orderId =
      (holdsOf s orderId).filter fun h => h.val.status = .active := by
  unfold Stock.activeHolds holdsOf Table.findMany
  rw [List.filter_map, List.filter_filter]
  congr 2
  funext x
  simp [and_comm]

lemma Untouched.activeHolds (h : Untouched orderId s s') :
    s'.stock.activeHolds orderId = s.stock.activeHolds orderId := by
  rw [activeHolds_eq, activeHolds_eq, h.holds]

lemma Untouched.confirmable (h : Untouched orderId s s') (hs : Confirmable orderId s) :
    Confirmable orderId s' := by
  unfold Confirmable
  rw [h.status, h.holds, h.activeHolds]
  exact hs

/-- The reservations are committed, and the order can still be confirmed, or is. -/
structure Ready (orderId : OrderId) (s : Database) : Prop where
  status : ∃ st ∈ s.book.statusOf orderId, awaits st = true ∨ st = .confirmed
  committed : Committed orderId s

lemma Untouched.ready (h : Untouched orderId s s') (hs : Ready orderId s) :
    Ready orderId s' := by
  refine ⟨?_, ?_⟩
  · rw [h.status]
    exact hs.status
  · unfold Committed
    rw [h.holds]
    exact hs.committed

lemma confirmHolds_ready {holds : List Hold} (hholds : holds = s.stock.activeHolds orderId)
    (happ : Commit.apply (.confirmHolds orderId holds) s = some s')
    (hstatus : ∃ st ∈ s.book.statusOf orderId, awaits st = true ∨ st = .confirmed)
    (hlive : ∀ h ∈ holdsOf s orderId, h.val.status = .active ∨ h.val.status = .confirmed) :
    Ready orderId s' := by
  simp only [Commit.apply, Option.bind_eq_bind, Option.bind_eq_some_iff, Option.some.injEq] at happ
  obtain ⟨stock, hstock, rfl⟩ := happ
  refine ⟨hstatus, fun h hh => ?_⟩
  obtain ⟨hrow, horder⟩ := Table.mem_findMany.mp hh
  obtain ⟨i, r, hr, horder', ⟨-, hclosed⟩ | ⟨hopen, heq⟩⟩ :=
    Stock.mem_closeHolds hstock (List.mem_of_getElem? hrow)
  · exact hclosed
  · have hmem : (⟨i, r⟩ : Hold) ∈ holdsOf s orderId := by
      refine Table.mem_findMany.mpr ⟨hr, ?_⟩
      rw [← heq]
      exact horder
    rw [heq]
    refine (hlive _ hmem).resolve_left fun hactive => hopen ⟨i, r⟩ ?_ rfl
    rw [hholds, activeHolds_eq]
    exact List.mem_filter.mpr ⟨hmem, by simpa using hactive⟩

lemma confirmHolds_nil (orderId : OrderId)
    (happ : Commit.apply (.confirmHolds orderId []) s = some s') :
    s' = s := by
  have h : some s = some s' := happ
  exact (Option.some.inj h).symm

lemma changeStatus_statusOf (b : OrderBook) {st previousStatus newStatus : OrderStatus}
    (h : b.statusOf orderId = some st) :
    (b.changeStatus orderId previousStatus newStatus).statusOf orderId = some newStatus := by
  obtain ⟨order, horder, -⟩ := Option.map_eq_some_iff.mp h
  simp [OrderBook.statusOf, OrderBook.changeStatus, horder]

lemma updateOrderStatus_apply {previousStatus : OrderStatus} {codPayment : Option (Row Payment)}
    {holds : List Hold} (hs : Ready orderId s)
    (happ : Commit.apply (.updateOrderStatus orderId previousStatus .confirmed codPayment holds) s =
      some s') :
    s'.book.statusOf orderId = some .confirmed ∧ Committed orderId s' := by
  obtain rfl := Option.some.inj happ
  obtain ⟨st, hst, -⟩ := hs.status
  exact ⟨changeStatus_statusOf s.book hst, hs.committed⟩

/-- These are the statuses from which an order is confirmed. -/
lemma validateStatusTransition_confirmed {st : OrderStatus} :
    validateStatusTransition st .confirmed = .ok () ↔ awaits st = true ∨ st = .confirmed := by
  rw [validateStatusTransition_eq_ok]
  cases st <;> decide

lemma Ready.validates {st : OrderStatus} (hs : Ready orderId s)
    (hst : s.book.statusOf orderId = some st) :
    validateStatusTransition st .confirmed = .ok () := by
  obtain ⟨st', hst', hready⟩ := hs.status
  obtain rfl : st = st' := Option.some.inj (hst.symm.trans hst')
  exact validateStatusTransition_confirmed.mpr hready

end Between

/-! ## The run of the call -/

section Run

variable {config : GatewayConfig} {Allowed : Call → Prop} [DecidablePred Allowed]
  {orderId : OrderId} {n : ℕ}
  {cfg w cfg' w' : Config Database Commit AppError}

/-- What `confirmOrder` ends in. -/
abbrev Goal (orderId : OrderId) (_ : Except AppError Unit)
    (cfg w : Config Database Commit AppError) : Prop :=
  AllOrNothing orderId cfg.store w.store

lemma allOrNothing_of_eq {present absent : Database} (h : present = absent) :
    AllOrNothing orderId present absent := by
  subst h
  exact Or.inr ⟨rfl, rfl⟩

lemma allOrNothing_of_agrees (h : cfg = w) : AllOrNothing orderId cfg.store w.store :=
  allOrNothing_of_eq (congrArg Config.store h)

/-- After the first transaction: the reservations are sold and the order can be confirmed, or
nothing was sold and it cannot. -/
def Sold (orderId : OrderId) (cfg w : Config Database Commit AppError) : Prop :=
  Ready orderId cfg.store ∨
    cfg = w ∧ ∀ st ∈ cfg.store.book.statusOf orderId, awaits st = false

section Stable

variable (hothers : Others (server config) Allowed (terms orderId) n cfg w cfg' w') (hn : 2 ≤ n)

include hothers hn

lemma others_untouched {P : Database → Prop} (hP : ∀ {s s'}, Untouched orderId s s' → P s → P s')
    (hs : P cfg.store) : P cfg'.store :=
  hothers.keeps (fun _ _ hother => hP (hother hn)) hs

lemma others_sold (hs : Sold orderId cfg w) : Sold orderId cfg' w' := by
  rcases hs with hready | ⟨heq, hstatus⟩
  · exact Or.inl (others_untouched hothers hn Untouched.ready hready)
  · refine Or.inr ⟨hothers.agrees heq, ?_⟩
    exact others_untouched hothers hn
      (P := fun s => ∀ st ∈ s.book.statusOf orderId, awaits st = false)
      (fun hu hs => by rw [hu.status]; exact hs) hstatus

end Stable

/-- The call has done everything, or nothing. -/
def Settled (orderId : OrderId) (cfg w : Config Database Commit AppError) : Prop :=
  (cfg.store.book.statusOf orderId = some .confirmed ∧ Committed orderId cfg.store) ∨ cfg = w

lemma Settled.allOrNothing (h : Settled orderId cfg w) :
    AllOrNothing orderId cfg.store w.store :=
  h.elim Or.inl allOrNothing_of_agrees

/-- The last look may fail. -/
lemma ends_look (hn : 2 ≤ n) (h : Settled orderId cfg w) :
    Ends (server config) Allowed (terms orderId) (Goal orderId)
      (do let _ ← Proc.read; pure ()) n cfg w := by
  have hstable {cfg' w' : Config Database Commit AppError}
      (hothers : Others (server config) Allowed (terms orderId) n cfg w cfg' w') :
      AllOrNothing orderId cfg'.store w'.store := by
    refine Settled.allOrNothing (h.imp (fun hdone => ?_) hothers.agrees)
    exact others_untouched hothers hn
      (P := fun s => s.book.statusOf orderId = some .confirmed ∧ Committed orderId s)
      (fun hu hs => by rw [Committed, hu.status, hu.holds]; exact hs) hdone
  exact ends_read (fun cfg' w' _ hothers _ _ => hstable hothers)
    fun cfg' w' hothers _ => ends_pure (hstable hothers)

/-- The second transaction. -/
lemma ends_updateOrderStatus {pick : ℕ} (h : Sold orderId cfg w) :
    Ends (server config) Allowed (terms orderId) (Goal orderId)
      (updateOrderStatus orderId .confirmed pick) 3 cfg w := by
  refine ends_read (fun cfg' w' o hothers ho hown => allOrNothing_of_eq (hown ho))
    fun cfg' w' hothers _ => ?_
  have hsold := others_sold hothers (by decide) h
  split
  · -- there is no such order, so nothing was sold
    rename_i hnone
    refine ends_throw (allOrNothing_of_agrees (hsold.resolve_left fun hready => ?_).1)
    obtain ⟨st, hst, -⟩ := hready.status
    exact nomatch hnone.symm.trans hst
  · rename_i previousStatus hstatus
    split
    · -- somebody else has confirmed the order before the reservations were read
      rename_i hconfirmed
      refine ends_look (by decide) (hsold.imp (fun hready => ?_) And.left)
      exact ⟨hconfirmed ▸ hstatus, hready.committed⟩
    · rename_i hne
      split
      · -- the order has ended, and it had no active reservation then
        rename_i error herror
        refine ends_throw (allOrNothing_of_agrees (hsold.resolve_left fun hready => ?_).1)
        exact nomatch herror.symm.trans (hready.validates hstatus)
      · rename_i hvalid
        have hready : Ready orderId cfg'.store := hsold.resolve_right fun hnothing => by
          have hawaits := (validateStatusTransition_confirmed.mp hvalid).resolve_right hne
          exact nomatch hawaits.symm.trans (hnothing.2 previousStatus hstatus)
        refine ends_read (fun _ _ o _ ho hown => allOrNothing_of_eq (hown ho))
          fun cfg₁ w₁ hothers₁ _ => ?_
        have hready₁ := others_untouched hothers₁ (by decide) Untouched.ready hready
        have hcommit {cfg₂ w₂ : Config Database Commit AppError} {s' : Database}
            {codPayment : Option (Row Payment)} {holds : List Hold}
            (hothers₂ : Others (server config) Allowed (terms orderId) 5 cfg₁ w₁ cfg₂ w₂)
            (happ : Commit.apply
              (.updateOrderStatus orderId previousStatus .confirmed codPayment holds) cfg₂.store =
                some s') :
            s'.book.statusOf orderId = some .confirmed ∧ Committed orderId s' :=
          updateOrderStatus_apply (others_untouched hothers₂ (by decide) Untouched.ready hready₁)
            happ
        refine ends_commit (fun _ _ _ hown => allOrNothing_of_eq (hown rfl))
          (fun _ _ _ hothers₂ happ _ => Or.inl (hcommit hothers₂ happ))
          fun _ _ _ hothers₂ happ _ => ?_
        exact ends_look (by decide) (Or.inl (hcommit hothers₂ happ))

/-- The first transaction, and the second one after it. -/
lemma ends_confirmHolds {pick : ℕ} {holds : List Hold} (heq : cfg = w)
    (hconfirmable : Confirmable orderId cfg.store)
    (hholds : holds = cfg.store.stock.activeHolds orderId) :
    Ends (server config) Allowed (terms orderId) (Goal orderId) (do
      let _ ← Proc.commit (.confirmHolds orderId holds)
      updateOrderStatus orderId .confirmed pick) 2 cfg w := by
  have hstable {cfg' w' : Config Database Commit AppError}
      (hothers : Others (server config) Allowed (terms orderId) 2 cfg w cfg' w') :
      Confirmable orderId cfg'.store ∧ holds = cfg'.store.stock.activeHolds orderId :=
    others_untouched hothers le_rfl
      (P := fun s => Confirmable orderId s ∧ holds = s.stock.activeHolds orderId)
      (fun hu hs => ⟨hu.confirmable hs.1, hs.2.trans hu.activeHolds.symm⟩)
      ⟨hconfirmable, hholds⟩
  refine ends_commit (fun _ _ hothers _ => allOrNothing_of_agrees (hothers.agrees heq))
    (fun cfg' w' s' hothers happ hown => ?_) fun cfg' w' s' hothers happ _ => ?_
  · -- the answer is lost of a transaction that had nothing to sell
    obtain ⟨-, hholds'⟩ := hstable hothers
    rw [hholds'.trans (hown rfl)] at happ
    refine allOrNothing_of_eq ((confirmHolds_nil orderId happ).trans ?_)
    exact congrArg Config.store (hothers.agrees heq)
  · obtain ⟨⟨hstatus, hlive⟩ | ⟨hstatus, hnone⟩, hholds'⟩ := hstable hothers
    · exact ends_updateOrderStatus (Or.inl (confirmHolds_ready hholds' happ hstatus hlive))
    · rw [hholds'.trans hnone] at happ
      obtain rfl := confirmHolds_nil orderId happ
      exact ends_updateOrderStatus (Or.inr ⟨hothers.agrees heq, hstatus⟩)

variable (config Allowed)

/-- **All or nothing**, whatever the others do before the reservations are read. -/
theorem confirmOrder_ends (orderId : OrderId) (pick : ℕ)
    (start : Config Database Commit AppError) :
    Ends (server config) Allowed (terms orderId) (Goal orderId) (confirmOrder orderId pick) 0
      start start := by
  refine ends_read (fun _ _ _ hothers _ _ => allOrNothing_of_agrees (hothers.agrees rfl))
    fun cfg w hothers _ => ?_
  have heq := hothers.agrees rfl
  -- the checks throw before anything is written
  split
  · exact ends_throw (allOrNothing_of_agrees heq)
  · split
    · exact ends_throw (allOrNothing_of_agrees heq)
    · refine ends_read (fun _ _ _ hothers₁ _ _ => allOrNothing_of_agrees (hothers₁.agrees heq))
        fun cfg₁ w₁ hothers₁ hown => ?_
      exact ends_confirmHolds (hothers₁.agrees heq) (hown rfl) rfl

end Run

/-- `confirmOrder` is all or nothing in every run under the terms, whatever other calls there
are. -/
theorem confirmOrder_all_or_nothing (config : GatewayConfig) (Allowed : Call → Prop)
    [DecidablePred Allowed] (orderId : OrderId) (pick : ℕ)
    (start : Config Database Commit AppError)
    {x : Beside Database Commit AppError Unit} {r : Except AppError Unit}
    (hr : ReflTransGen (Step (server config) Allowed (terms orderId))
      ⟨confirmOrder orderId pick, 0, start, start⟩ x) (hdone : x.program = .done r) :
    AllOrNothing orderId x.present.store x.absent.store :=
  (confirmOrder_ends config Allowed orderId pick start).sound hr hdone

/-! ## The call alone -/

section Alone

variable {orderId : OrderId} {s s' : Database}

/-- The reservations of an order after some were closed. -/
lemma exists_holdsOf_closeHolds (s' : Database) {holds : List Hold} {h : Hold}
    (hstock : s.stock.closeHolds .confirm holds = some s'.stock) (hh : h ∈ holdsOf s orderId) :
    ∃ h' ∈ holdsOf s' orderId,
      h'.val.status = if h.id ∈ holds.map Row.id then .confirmed else h.val.status := by
  obtain ⟨hrow, horder⟩ := Table.mem_findMany.mp hh
  refine ⟨⟨h.id, if h.id ∈ holds.map Row.id then { h.val with status := .confirmed } else h.val⟩,
    Table.mem_findMany.mpr ⟨?_, ?_⟩, ?_⟩
  · rw [Stock.closeHolds_reservations hstock, List.getElem?_mapIdx, hrow]
    rfl
  · dsimp only
    split_ifs <;> exact horder
  · dsimp only
    split_ifs <;> rfl

/-- What the first transaction leaves of the order is committed exactly if no reservation of it
had ended otherwise. -/
lemma committed_confirmHolds_iff
    (happ : Commit.apply (.confirmHolds orderId (s.stock.activeHolds orderId)) s = some s')
    (hstatus : ∃ st ∈ s.book.statusOf orderId, awaits st = true ∨ st = .confirmed) :
    Committed orderId s' ↔
      ∀ h ∈ holdsOf s orderId, h.val.status = .active ∨ h.val.status = .confirmed := by
  constructor
  · intro hcommitted h hh
    simp only [Commit.apply, Option.bind_eq_bind, Option.bind_eq_some_iff,
      Option.some.injEq] at happ
    obtain ⟨stock, hstock, rfl⟩ := happ
    obtain ⟨h', hh', hafter⟩ := exists_holdsOf_closeHolds { s with stock := stock } hstock hh
    rw [hcommitted h' hh'] at hafter
    split_ifs at hafter with hclosed
    · -- it was listed because it was active
      obtain ⟨hold, hhold, hid⟩ := List.mem_map.mp hclosed
      rw [activeHolds_eq] at hhold
      obtain ⟨hmem, hactive⟩ := List.mem_filter.mp hhold
      have hrow := (Table.mem_findMany.mp hh).1
      rw [← hid, (Table.mem_findMany.mp hmem).1] at hrow
      rw [← Option.some.inj hrow]
      exact Or.inl (by simpa using hactive)
    · exact Or.inr hafter.symm
  · exact fun hlive => (confirmHolds_ready rfl happ hstatus hlive).committed

lemma awaits_iff {st : OrderStatus} :
    awaits st = true ↔ ¬(st ≠ .pending ∧ st ≠ .paymentPending) := by
  cases st <;> decide

/-- The second transaction alone. -/
lemma perform_updateOrderStatus {st : OrderStatus} (pick : ℕ)
    (hstatus : s.book.statusOf orderId = some st) (hawaits : awaits st = true) :
    ∃ r s', (updateOrderStatus orderId .confirmed pick).perform Commit.apply s = (r, s') ∧
      s'.book.statusOf orderId = some .confirmed ∧ s'.stock = s.stock := by
  have hne : st ≠ .confirmed := by
    rintro rfl
    cases hawaits
  unfold updateOrderStatus
  rw [perform_read, hstatus]
  dsimp only
  rw [if_neg hne, validateStatusTransition_confirmed.mpr (Or.inl hawaits)]
  exact ⟨_, _, rfl, changeStatus_statusOf s.book hstatus, rfl⟩

/-- **Alone**, `confirmOrder` is all or nothing exactly if no reservation of an order that it
confirms was released or has expired. -/
theorem confirmOrder_alone_iff (orderId : OrderId) (pick : ℕ) (db : Database) :
    AllOrNothing orderId ((confirmOrder orderId pick).perform Commit.apply db).2 db ↔
      ((∃ st ∈ db.book.statusOf orderId, awaits st = true) →
        (db.stock.closeHolds .confirm (db.stock.activeHolds orderId)).isSome →
        ∀ h ∈ holdsOf db orderId, h.val.status = .active ∨ h.val.status = .confirmed) := by
  unfold confirmOrder
  rw [perform_read]
  cases hstatus : db.book.statusOf orderId with
  | none =>
    refine iff_of_true (Or.inr ⟨rfl, rfl⟩) ?_
    rintro ⟨st, hst, -⟩
    cases hst
  | some st =>
    dsimp only
    split_ifs with hbad
    · refine iff_of_true (Or.inr ⟨rfl, rfl⟩) ?_
      rintro ⟨st', hst', hawaits⟩
      cases hst'
      exact absurd hbad (awaits_iff.mp hawaits)
    · have hawaits := awaits_iff.mpr hbad
      rw [perform_read, perform_commit_bind]
      cases hstock : db.stock.closeHolds .confirm (db.stock.activeHolds orderId) with
      | none =>
        have happ : Commit.apply (.confirmHolds orderId (db.stock.activeHolds orderId)) db =
            none := by
          rw [Commit.apply, hstock]
          rfl
        rw [happ]
        -- the first transaction fails and nothing is written
        refine iff_of_true (Or.inr ⟨rfl, rfl⟩) fun _ hclosed => ?_
        cases hclosed
      | some stock =>
        have happ : Commit.apply (.confirmHolds orderId (db.stock.activeHolds orderId)) db =
            some { db with stock := stock } := by
          rw [Commit.apply, hstock]
          rfl
        obtain ⟨r, t, hperform, hconfirmed, ht⟩ :=
          perform_updateOrderStatus (s := { db with stock := stock }) pick hstatus hawaits
        have hcommitted : Committed orderId t ↔ Committed orderId { db with stock := stock } := by
          rw [Committed, Committed, holdsOf, holdsOf, ht]
        rw [happ]
        dsimp only
        rw [hperform, AllOrNothing, hcommitted,
          committed_confirmHolds_iff happ ⟨st, hstatus, Or.inl hawaits⟩]
        constructor
        · rintro (⟨-, hlive⟩ | ⟨hsame, -⟩)
          · exact fun _ _ => hlive
          · rw [hconfirmed, hstatus] at hsame
            cases hsame
            cases hawaits
        · exact fun hlive => Or.inl ⟨hconfirmed, hlive ⟨st, rfl, hawaits⟩ rfl⟩

end Alone

/-! ## Two runs -/

/-- A pending order of two units, which are held. -/
def twoHeld : Database :=
  { Database.stocked 0 with
    stock := ⟨fun _ => true, fun _ => some ⟨3, 2, some 5⟩, [⟨0, some 0, 2, .active, 1000⟩], []⟩
    book := ⟨[⟨7, .pending, 1000, [⟨0, 2, "Tee", "TEE-1"⟩], 0, none⟩], []⟩ }

/-- Its confirmation, alone. -/
theorem twoHeld_confirmed :
    ∃ x r, ReflTransGen (Step (server .unchecked) (fun _ => True) (terms 0))
        ⟨confirmOrder 0 0, 0, ⟨twoHeld, []⟩, ⟨twoHeld, []⟩⟩ x ∧ x.program = .done r ∧
      x.present.store.book.statusOf 0 = some .confirmed ∧
      AllOrNothing 0 x.present.store x.absent.store := by
  have hconfirmable : Confirmable 0 twoHeld :=
    Or.inl ⟨⟨.pending, rfl, Or.inl rfl⟩, by decide⟩
  have hadmits : AdmitsAll (server .unchecked) (fun _ => True) (terms 0)
      (List.replicate 7 (.own .ok)) ⟨confirmOrder 0 0, 0, ⟨twoHeld, []⟩, ⟨twoHeld, []⟩⟩ :=
    And.intro trivial <| And.intro (fun _ => hconfirmable) <| And.intro nofun <|
      And.intro (fun h => (h rfl).elim) <| And.intro (fun h => (h rfl).elim) <|
      And.intro nofun <| And.intro trivial trivial
  have hrun := steps_of_exec _ hadmits rfl
  exact ⟨_, _, hrun, rfl, rfl,
    confirmOrder_all_or_nothing .unchecked (fun _ => True) 0 0 _ hrun rfl⟩

/-- The calls that call orders off, of one order or of all stale ones. -/
def callsOff (orderId : OrderId) : Call → Bool
  | .cancelOrder id _ _ _ => id = orderId
  | .expireStaleOrders _ _ => true
  | _ => false

/-- The order is cancelled after its units were sold: it stays cancelled, and they stay sold. -/
theorem sold_for_cancelled :
    ¬ ∀ config orderId pick start x r,
      ReflTransGen (Step (server config) (fun call => callsOff orderId call = true) .free)
        ⟨confirmOrder orderId pick, 0, start, start⟩ x → x.program = .done r →
      AllOrNothing orderId x.present.store x.absent.store := by
  intro h
  have hgoal := h .unchecked 0 0 ⟨twoHeld, []⟩ _ _ (steps_of_exec
    [.own .ok, .own .ok, .own .ok, .other (.call (.cancelOrder 0 none true 0)),
      .other (.step 0 .ok), .other (.step 0 .ok), .other (.step 0 .ok), .other (.step 0 .ok),
      .own .ok] (admitsAll_free _ _) rfl) rfl
  rcases hgoal with ⟨hconfirmed, -⟩ | ⟨-, hstock⟩
  · have hstatus : some OrderStatus.cancelled = some .confirmed := hconfirmed
    cases hstatus
  · have hstatuses : [InventoryReservationStatus.confirmed] = [.released] :=
      congrArg (fun stock => stock.reservations.map InventoryReservation.status) hstock
    cases hstatuses

end Confirmation

end MeeoServer
