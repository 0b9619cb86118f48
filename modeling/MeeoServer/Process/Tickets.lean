/-
# Tickets

Some commands of a store answer with a ticket, which they give to nobody else, and some batches
spend tickets.  A program that spends the tickets it was given, all at once, and forgets them then,
spends each of them once; so no ticket is ever spent twice, whatever the programs do at the same
time, and wherever their answers are lost.
-/
import MeeoServer.Process.Protocol
import Mathlib.Data.List.Nodup

namespace MeeoServer

/-- The tickets of a store are numbers: those that are given out, and those that are spent. -/
structure Tickets (σ κ : Type) where
  issued : σ → ℕ
  spent : σ → List ℕ
  /-- The tickets that a batch spends. -/
  spends : κ → List ℕ
  /-- The ticket that a store names in its answer to a batch. -/
  answer : κ → σ → Option ℕ

namespace Tickets

variable {σ κ ε χ η : Type} (T : Tickets σ κ)

/-- A program holds the tickets that it was given, and spends all of them or none. -/
def protocol : Protocol σ κ (List ℕ) where
  start := []
  allow held c := T.spends c = [] ∨ T.spends c = held
  after held c o := (if T.spends c = [] then held else []) ++ (o.bind (T.answer c)).toList

/-- What the commands do with the tickets. -/
structure Lawful (apply : κ → σ → Option σ) : Prop where
  mono : ∀ {c s s'}, apply c s = some s' → T.issued s ≤ T.issued s'
  spent : ∀ {c s s'}, apply c s = some s' → T.spent s' = T.spent s ++ T.spends c
  /-- A ticket in an answer is new. -/
  fresh : ∀ {c s s' t}, apply c s = some s' → T.answer c s' = some t →
    T.issued s ≤ t ∧ t < T.issued s'

/-- No ticket is spent twice, and those that are held are not spent and held once. -/
structure Once (s : σ) (held : ℕ → List ℕ) : Prop where
  spent_nodup : (T.spent s).Nodup
  spent_lt : ∀ t ∈ T.spent s, t < T.issued s
  held_nodup : ∀ i, (held i).Nodup
  held_lt : ∀ i, ∀ t ∈ held i, t < T.issued s
  unspent : ∀ i, ∀ t ∈ held i, t ∉ T.spent s
  apart : ∀ i j, i ≠ j → ∀ t ∈ held i, t ∉ held j

variable {T} {s s' : σ} {held : ℕ → List ℕ} {i : ℕ} {c : κ}

/-- A program may lose tickets. -/
lemma Once.drop (h : T.Once s held) {kept : List ℕ} (hkept : kept.Sublist (held i)) :
    T.Once s (Function.update held i kept) := by
  have hsub (j : ℕ) : (Function.update held i kept j).Sublist (held j) := by
    by_cases hij : j = i
    · subst hij
      rwa [Function.update_self]
    · rw [Function.update_of_ne hij]
  exact
    { spent_nodup := h.spent_nodup
      spent_lt := h.spent_lt
      held_nodup := fun j => (h.held_nodup j).sublist (hsub j)
      held_lt := fun j t ht => h.held_lt j t ((hsub j).subset ht)
      unspent := fun j t ht => h.unspent j t ((hsub j).subset ht)
      apart := fun j k hjk t ht ht' => h.apart j k hjk t ((hsub j).subset ht) ((hsub k).subset ht') }

/-- The batch spends tickets of the program `i`, which it does not hold any more. -/
lemma Once.spend (h : T.Once s held) {tickets : List ℕ} (hheld : ∀ t ∈ tickets, ∀ j, t ∉ held j)
    (hnodup : tickets.Nodup) (hfresh : ∀ t ∈ tickets, t ∉ T.spent s ∧ t < T.issued s)
    (hmono : T.issued s ≤ T.issued s') (hspent : T.spent s' = T.spent s ++ tickets) :
    T.Once s' held where
  spent_nodup := by
    rw [hspent, List.nodup_append]
    refine ⟨h.spent_nodup, hnodup, fun t ht t' ht' => ?_⟩
    rintro rfl
    exact (hfresh t ht').1 ht
  spent_lt t ht := by
    rw [hspent] at ht
    rcases List.mem_append.mp ht with ht | ht
    · exact Nat.lt_of_lt_of_le (h.spent_lt t ht) hmono
    · exact Nat.lt_of_lt_of_le (hfresh t ht).2 hmono
  held_nodup := h.held_nodup
  held_lt j t ht := Nat.lt_of_lt_of_le (h.held_lt j t ht) hmono
  unspent j t ht := by
    rw [hspent]
    intro hmem
    rcases List.mem_append.mp hmem with hmem | hmem
    · exact h.unspent j t ht hmem
    · exact hheld t hmem j ht
  apart := h.apart

/-- The program `i` is given a new ticket. -/
lemma Once.give (h : T.Once s held) {t : ℕ} (hspent : t ∉ T.spent s) (hlt : t < T.issued s)
    (hnew : ∀ j, t ∉ held j) : T.Once s (Function.update held i (held i ++ [t])) := by
  have hcases {j u : ℕ} (hu : u ∈ Function.update held i (held i ++ [t]) j) :
      u ∈ held j ∨ j = i ∧ u = t := by
    by_cases hij : j = i
    · subst hij
      rw [Function.update_self] at hu
      simpa using hu
    · rw [Function.update_of_ne hij] at hu
      exact .inl hu
  constructor
  · exact h.spent_nodup
  · exact h.spent_lt
  · intro j
    by_cases hij : j = i
    · subst hij
      rw [Function.update_self, List.nodup_append]
      refine ⟨h.held_nodup j, List.nodup_singleton t, fun u hu u' hu' => ?_⟩
      rintro rfl
      exact hnew j (List.mem_singleton.mp hu' ▸ hu)
    · rw [Function.update_of_ne hij]
      exact h.held_nodup j
  · intro j u hu
    rcases hcases hu with hu | ⟨-, rfl⟩
    · exact h.held_lt j u hu
    · exact hlt
  · intro j u hu
    rcases hcases hu with hu | ⟨-, rfl⟩
    · exact h.unspent j u hu
    · exact hspent
  · intro j k hjk u hu hu'
    rcases hcases hu with hold | ⟨rfl, rfl⟩
    · rcases hcases hu' with hold' | ⟨-, rfl⟩
      · exact h.apart j k hjk u hold hold'
      · exact hnew j hold
    · rcases hcases hu' with hold' | ⟨rfl, -⟩
      · exact hnew k hold'
      · exact hjk rfl

/-- A batch of the program `i` that its protocol allows, before an answer arrives. -/
lemma Once.commit {apply : κ → σ → Option σ} (hT : T.Lawful apply) (h : T.Once s held)
    (hallow : T.protocol.allow (held i) c) (happ : apply c s = some s') :
    T.Once s' (Function.update held i (if T.spends c = [] then held i else [])) := by
  have hmono := hT.mono happ
  have hspent := hT.spent happ
  by_cases hnone : T.spends c = []
  · rw [if_pos hnone, Function.update_eq_self]
    refine h.spend ?_ List.nodup_nil ?_ hmono (by rw [hspent, hnone])
    · exact nofun
    · exact nofun
  · have hall : T.spends c = held i := hallow.resolve_left hnone
    rw [if_neg hnone]
    refine (h.drop (List.nil_sublist (held i))).spend (fun t ht j hj => ?_)
      (h.held_nodup i) (fun t ht => ⟨h.unspent i t ht, h.held_lt i t ht⟩) hmono
      (by rw [hspent, hall])
    by_cases hij : j = i
    · subst hij
      rw [Function.update_self] at hj
      cases hj
    · rw [Function.update_of_ne hij] at hj
      exact h.apart i j (Ne.symm hij) t ht hj

/-- **No ticket is spent twice**, if every program keeps to the protocol. -/
theorem Lawful.spent_nodup {M : Machine σ κ ε χ η} {Allowed : χ → Prop}
    {Cond : σ → κ → Prop} (hT : T.Lawful M.apply)
    (hfollows : ∀ x, Allowed x → T.protocol.Follows M.apply (M.proc x) Protocol.Ends [])
    (henv : ∀ e s, T.issued (M.environ e s) = T.issued s ∧ T.spent (M.environ e s) = T.spent s)
    {s₀ : σ} {cfg : Config σ κ ε} (h₀ : (T.spent s₀).Nodup ∧ ∀ t ∈ T.spent s₀, t < T.issued s₀)
    (hr : M.Reachable Allowed Cond s₀ cfg) : (T.spent cfg.store).Nodup := by
  suffices h : ∃ held, T.Once cfg.store held ∧ T.protocol.Obeyed M cfg.procs held by
    obtain ⟨held, honce, -⟩ := h
    exact honce.spent_nodup
  refine Protocol.invariant hfollows hr
    ⟨h₀.1, h₀.2, fun _ => List.nodup_nil, nofun, nofun, nofun⟩ ?_ ?_ ?_
  · intro e s held h
    obtain ⟨hissued, hspent⟩ := henv e s
    exact
      { spent_nodup := hspent ▸ h.spent_nodup
        spent_lt := by rw [hissued, hspent]; exact h.spent_lt
        held_nodup := h.held_nodup
        held_lt := by rw [hissued]; exact h.held_lt
        unspent := by rw [hspent]; exact h.unspent
        apart := h.apart }
  · -- a batch that fails spends nothing, but the program may have forgotten its tickets
    intro s held i c hallow h
    show T.Once s (Function.update held i ((if T.spends c = [] then held i else []) ++ []))
    rw [List.append_nil]
    refine h.drop ?_
    split
    · exact List.Sublist.refl _
    · exact List.nil_sublist _
  · intro s s' held i c o hallow _ happ ho h
    have hcommit := h.commit hT hallow happ
    show T.Once s' (Function.update held i
      ((if T.spends c = [] then held i else []) ++ (o.bind (T.answer c)).toList))
    cases hanswer : o.bind (T.answer c) with
    | none => rwa [Option.toList_none, List.append_nil]
    | some t =>
      -- the answer has arrived, and names a ticket that nobody has seen
      rcases ho with rfl | rfl
      · cases hanswer
      · obtain ⟨hge, hlt⟩ := hT.fresh happ hanswer
        have hgive := hcommit.give (i := i) (t := t) ?_ hlt ?_
        · rwa [Function.update_self, Function.update_idem] at hgive
        · rw [hT.spent happ]
          intro hmem
          rcases List.mem_append.mp hmem with hmem | hmem
          · exact absurd (h.spent_lt t hmem) (Nat.not_lt.mpr hge)
          · rcases hallow with hnone | hall
            · rw [hnone] at hmem
              cases hmem
            · exact absurd (h.held_lt i t (hall ▸ hmem)) (Nat.not_lt.mpr hge)
        · intro j hj
          have hold : t ∈ held j := by
            by_cases hij : j = i
            · subst hij
              rw [Function.update_self] at hj
              split at hj
              · exact hj
              · cases hj
            · rwa [Function.update_of_ne hij] at hj
          exact absurd (h.held_lt j t hold) (Nat.not_lt.mpr hge)

end Tickets

end MeeoServer
