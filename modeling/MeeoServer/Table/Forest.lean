/-
# Forests

A table whose rows may name a parent in the same table, read from the top: the rows without a
parent in the table are roots, and under each row are the rows that name it.  `unfold` reads
a tree out of nodes that refer to each other, down to a depth.

If nothing is an ancestor of itself, what is read is a forest of all rows, each of them once.
-/
import MeeoServer.Table.Traversal

namespace MeeoServer.Table

open Relation

/-- A tree with its subtrees in order. -/
inductive RowTree (α : Type) where
  | node (root : α) (children : List (RowTree α))

namespace RowTree

variable {α : Type}

def root : RowTree α → α
  | node a _ => a

def children : RowTree α → List (RowTree α)
  | node _ ts => ts

mutual

/-- The tree and everything below it. -/
def subtrees : RowTree α → List (RowTree α)
  | node a ts => node a ts :: subtreesOf ts

def subtreesOf : List (RowTree α) → List (RowTree α)
  | [] => []
  | t :: ts => t.subtrees ++ subtreesOf ts

end

/-- What a forest holds. -/
def values (forest : List (RowTree α)) : List α := (subtreesOf forest).map root

lemma subtrees_eq (t : RowTree α) : t.subtrees = t :: subtreesOf t.children := by
  cases t
  rfl

lemma mem_subtreesOf {t' : RowTree α} {ts : List (RowTree α)} :
    t' ∈ subtreesOf ts ↔ ∃ t ∈ ts, t' ∈ t.subtrees := by
  induction ts with
  | nil => simp [subtreesOf]
  | cons t ts ih => simp [subtreesOf, ih]

/-- The nodes of a forest are its trees, and the children of its nodes. -/
lemma subtreesOf_perm (ts : List (RowTree α)) :
    (subtreesOf ts).Perm (ts ++ (subtreesOf ts).flatMap children) := by
  refine subtreesOf.induct (fun t => t.subtrees.Perm (t :: t.subtrees.flatMap children))
    (fun ts => (subtreesOf ts).Perm (ts ++ (subtreesOf ts).flatMap children)) ?_ .nil ?_ ts
  · intro a ts ih
    rw [subtrees, List.flatMap_cons]
    exact ih.cons _
  · intro t ts iht ih
    rw [subtreesOf, List.flatMap_append, List.cons_append]
    refine (iht.append ih).trans ?_
    rw [List.cons_append]
    refine .cons t ?_
    rw [← List.append_assoc, ← List.append_assoc]
    exact List.perm_append_comm.append_right _

end RowTree

variable {ι α : Type}

/-! ## Induction along a hierarchy -/

/-- A hierarchy in which every row has a smaller parent. -/
lemma acyclic_of_lt {parent : ι → Option ι} {rank : ι → ℕ}
    (h : ∀ a p, parent a = some p → rank p < rank a) : Acyclic parent := by
  have hup : ∀ {a b}, TransGen (ChildOf parent) a b → rank b < rank a := by
    intro a b hab
    induction hab with
    | single hstep => exact h _ _ hstep
    | tail _ hstep ih => exact (h _ _ hstep).trans ih
  exact fun a hcycle => lt_irrefl _ (hup hcycle)

section Induction

variable [DecidableEq ι] {parent : ι → Option ι} (h : Acyclic parent) {rows : List ι}
  (hrows : ∀ x, parent x ≠ none → x ∈ rows) {P : ι → Prop}
include h hrows

/-- From the children to their parents. -/
lemma Acyclic.induction_up (step : ∀ x, (∀ c, parent c = some x → P c) → P x) (x : ι) : P x := by
  classical
  let below (x : ι) : Finset ι := rows.toFinset.filter fun y => TransGen (ChildOf parent) y x
  induction hn : (below x).card using Nat.strong_induction_on generalizing x with
  | _ n ih =>
    subst hn
    refine step x fun c hc => ih _ ?_ c rfl
    have hsub : below c ⊆ below x := by
      intro y hy
      obtain ⟨hmem, hup⟩ := Finset.mem_filter.mp hy
      exact Finset.mem_filter.mpr ⟨hmem, hup.tail hc⟩
    -- the child itself is below its parent and not below itself
    have hchild : c ∈ below x := by
      have hmem : c ∈ rows := hrows c (by rw [hc]; exact Option.some_ne_none x)
      exact Finset.mem_filter.mpr ⟨List.mem_toFinset.mpr hmem, .single hc⟩
    have hself : c ∉ below c := fun hmem => h c (Finset.mem_filter.mp hmem).2
    exact Finset.card_lt_card ⟨hsub, fun hle => hself (hle hchild)⟩

/-- From the parents to their children. -/
lemma Acyclic.induction_down (step : ∀ x, (∀ p, parent x = some p → P p) → P x) (x : ι) :
    P x := by
  classical
  let above (x : ι) : Finset ι := rows.toFinset.filter fun y => Reaches parent x y
  induction hn : (above x).card using Nat.strong_induction_on generalizing x with
  | _ n ih =>
    subst hn
    refine step x fun p hp => ih _ ?_ p rfl
    have hsub : above p ⊆ above x := by
      intro y hy
      obtain ⟨hmem, hup⟩ := Finset.mem_filter.mp hy
      exact Finset.mem_filter.mpr ⟨hmem, ReflTransGen.head hp hup⟩
    have hself : x ∈ above x := by
      have hmem : x ∈ rows := hrows x (by rw [hp]; exact Option.some_ne_none p)
      exact Finset.mem_filter.mpr ⟨List.mem_toFinset.mpr hmem, .refl⟩
    have hback : x ∉ above p := fun hmem => h.not_reaches hp (Finset.mem_filter.mp hmem).2
    exact Finset.card_lt_card ⟨hsub, fun hle => hback (hle hself)⟩

end Induction

/-! ## Reading a tree -/

/-- The tree under a node, as far as the depth goes; a node has a value and refers to its
children. -/
def unfold (node : ι → Option (α × List ι)) : ℕ → ι → Option (RowTree α)
  | 0, _ => none
  | depth + 1, a => do
    let (value, children) ← node a
    let ts ← children.mapM (unfold node depth)
    some (.node value ts)

/-- The trees under several nodes. -/
def unfoldAll (node : ι → Option (α × List ι)) (depth : ℕ) (l : List ι) :
    Option (List (RowTree α)) :=
  l.mapM (unfold node depth)

section Unfold

variable {node : ι → Option (α × List ι)} {depth : ℕ} {a : ι} {l : List ι} {t : RowTree α}
  {ts : List (RowTree α)}

lemma unfoldAll_eq_some : unfoldAll node depth l = some ts ↔
    List.Forall₂ (fun a t => unfold node depth a = some t) l ts := by
  unfold unfoldAll
  induction l generalizing ts with
  | nil => simp [eq_comm]
  | cons a l ih =>
    rw [List.mapM_cons, List.forall₂_cons_left_iff]
    simp only [Option.bind_eq_bind, Option.bind_eq_some_iff, Option.pure_def, Option.some.injEq]
    constructor
    · rintro ⟨t, ht, ts', hts', rfl⟩
      exact ⟨t, ts', ht, ih.mp hts', rfl⟩
    · rintro ⟨t, ts', ht, hts', rfl⟩
      exact ⟨t, ht, ts', ih.mpr hts', rfl⟩

/-- Each of the trees is read from one of the nodes. -/
lemma exists_of_unfoldAll (h : unfoldAll node depth l = some ts) (ht : t ∈ ts) :
    ∃ a ∈ l, unfold node depth a = some t := by
  rw [unfoldAll_eq_some] at h
  induction h with
  | nil => exact absurd ht List.not_mem_nil
  | @cons a t₀ l ts hfirst _ ih =>
    rcases List.mem_cons.mp ht with rfl | ht
    · exact ⟨a, List.mem_cons_self, hfirst⟩
    · obtain ⟨b, hb, hbt⟩ := ih ht
      exact ⟨b, List.mem_cons_of_mem a hb, hbt⟩

lemma unfold_succ_eq_some : unfold node (depth + 1) a = some t ↔
    ∃ children, node a = some (t.root, children) ∧
      unfoldAll node depth children = some t.children := by
  obtain ⟨value, ts⟩ := t
  rw [unfold]
  simp only [Option.bind_eq_bind, Option.bind_eq_some_iff, Option.some.injEq, RowTree.node.injEq]
  constructor
  · rintro ⟨⟨value', children⟩, hnode, ts', hts, rfl, rfl⟩
    exact ⟨children, hnode, hts⟩
  · rintro ⟨children, hnode, hts⟩
    exact ⟨(value, children), hnode, ts, hts, rfl, rfl⟩

/-- A tree that has been read is read again if one goes deeper. -/
lemma unfold_mono {depth' : ℕ} (hle : depth ≤ depth') (h : unfold node depth a = some t) :
    unfold node depth' a = some t := by
  induction depth generalizing depth' a t with
  | zero => exact nomatch h
  | succ depth ih =>
    obtain ⟨d, rfl⟩ := Nat.exists_eq_succ_of_ne_zero (Nat.ne_zero_of_lt hle)
    obtain ⟨children, hnode, hts⟩ := unfold_succ_eq_some.mp h
    refine unfold_succ_eq_some.mpr ⟨children, hnode, ?_⟩
    rw [unfoldAll_eq_some] at hts ⊢
    exact hts.imp fun _ _ => ih (Nat.le_of_succ_le_succ hle)

/-- If each tree can be read to some depth, they can all be read to one. -/
lemma exists_unfoldAll (h : ∀ a ∈ l, ∃ depth t, unfold node depth a = some t) :
    ∃ depth ts, unfoldAll node depth l = some ts := by
  simp only [unfoldAll_eq_some]
  induction l with
  | nil => exact ⟨0, [], .nil⟩
  | cons a l ih =>
    obtain ⟨depth, t, ht⟩ := h a List.mem_cons_self
    obtain ⟨depth', ts, hts⟩ := ih fun b hb => h b (List.mem_cons_of_mem a hb)
    refine ⟨max depth depth', t :: ts, .cons (unfold_mono (le_max_left _ _) ht) ?_⟩
    exact hts.imp fun _ _ => unfold_mono (le_max_right _ _)

end Unfold

/-! ## The forest of a table -/

section Rows

variable [DecidableEq ι] (key : α → ι) (parent : α → Option ι) (rows : List α)

/-- The parent that the table gives an identifier. -/
def parentIn (a : ι) : Option ι := (rows.find? fun row => key row = a).bind parent

/-- The rows that name the parent, in the order of the table. -/
def childrenIn (p : ι) : List α := rows.filter fun row => parent row = some p

/-- The rows whose parent is not in the table. -/
def rootsIn : List α := rows.filter fun row => ∀ p ∈ parent row, p ∉ rows.map key

/-- **The forest of a table**: every row once, at the root if its parent is not in the table and
directly under its parent otherwise, beside its siblings in the order of the table. -/
structure Arranges (forest : List (RowTree α)) : Prop where
  values : (RowTree.values forest).Perm rows
  roots : forest.map RowTree.root = rootsIn key parent rows
  children : ∀ t ∈ RowTree.subtreesOf forest,
    t.children.map RowTree.root = childrenIn parent rows (key t.root)

section Arranges

variable {key parent rows} {node : ι → Option (α × List ι)} {row : α} {depth : ℕ} {a p : ι}
  {t : RowTree α} {forest : List (RowTree α)}

lemma find?_key (hkeys : (rows.map key).Nodup) (hrow : row ∈ rows) :
    rows.find? (fun r => key r = key row) = some row := by
  cases hfind : rows.find? fun r => key r = key row with
  | none =>
    have hnone := List.find?_eq_none.mp hfind row hrow
    simp at hnone
  | some r =>
    have hr := List.mem_of_find?_eq_some hfind
    have hkey : key r = key row := by simpa using List.find?_some hfind
    rw [List.inj_on_of_nodup_map hkeys hr hrow hkey]

lemma parentIn_of_mem (hkeys : (rows.map key).Nodup) (hrow : row ∈ rows) :
    parentIn key parent rows (key row) = parent row := by
  rw [parentIn, find?_key hkeys hrow]
  rfl

lemma exists_of_parentIn (h : parentIn key parent rows a = some p) :
    ∃ row ∈ rows, key row = a ∧ parent row = some p := by
  obtain ⟨row, hfind, hparent⟩ := Option.bind_eq_some_iff.mp h
  have hkey : key row = a := by simpa using List.find?_some hfind
  exact ⟨row, List.mem_of_find?_eq_some hfind, hkey, hparent⟩

lemma mem_keys_of_parentIn (h : parentIn key parent rows a ≠ none) : a ∈ rows.map key := by
  obtain ⟨p, hp⟩ := Option.ne_none_iff_exists'.mp h
  obtain ⟨row, hrow, rfl, -⟩ := exists_of_parentIn hp
  exact List.mem_map_of_mem hrow

/-- The rows under each parent are what `parentIn` tells. -/
lemma lists_childrenIn (hkeys : (rows.map key).Nodup) :
    Lists (parentIn key parent rows) fun p => (childrenIn parent rows p).map key := by
  intro p x
  have hnodup : ((childrenIn parent rows p).map key).Nodup :=
    hkeys.sublist (List.filter_sublist.map key)
  rw [hnodup.count]
  refine if_congr ?_ rfl rfl
  constructor
  · intro hmem
    obtain ⟨row, hrow, rfl⟩ := List.mem_map.mp hmem
    obtain ⟨hrow, hparent⟩ := List.mem_filter.mp hrow
    rw [parentIn_of_mem hkeys hrow]
    exact of_decide_eq_true hparent
  · intro hparent
    obtain ⟨row, hrow, rfl, hp⟩ := exists_of_parentIn hparent
    exact List.mem_map_of_mem (List.mem_filter.mpr ⟨hrow, decide_eq_true hp⟩)

section Node

variable (hnode : ∀ row ∈ rows, node (key row) =
  some (row, (childrenIn parent rows (key row)).map key))
include hnode

/-- What is read from a row is the row, with the rows that name it below it. -/
lemma root_of_unfold (hrow : row ∈ rows) (h : unfold node depth (key row) = some t) :
    t.root = row ∧ ∃ d, unfoldAll node d ((childrenIn parent rows (key row)).map key) =
      some t.children := by
  cases depth with
  | zero => exact nomatch h
  | succ depth =>
    obtain ⟨children, hnode', hts⟩ := unfold_succ_eq_some.mp h
    rw [hnode row hrow, Option.some.injEq, Prod.mk.injEq] at hnode'
    obtain ⟨hroot, rfl⟩ := hnode'
    exact ⟨hroot.symm, depth, hts⟩

/-- The trees that are read from rows have these rows as roots. -/
lemma roots_of_unfoldAll {l : List α} (hl : ∀ row ∈ l, row ∈ rows)
    (h : unfoldAll node depth (l.map key) = some forest) : forest.map RowTree.root = l := by
  rw [unfoldAll_eq_some] at h
  induction l generalizing forest with
  | nil =>
    cases h
    rfl
  | cons row l ih =>
    obtain ⟨t, ts, ht, hts, rfl⟩ := List.forall₂_cons_left_iff.mp h
    have hroot := (root_of_unfold hnode (hl row List.mem_cons_self) ht).1
    rw [List.map_cons, hroot, ih (fun r hr => hl r (List.mem_cons_of_mem row hr)) hts]

/-- Every node that is read is a row, with the rows that name it below it. -/
lemma node_of_unfold (hrow : row ∈ rows) (h : unfold node depth (key row) = some t) :
    ∀ t' ∈ t.subtrees, t'.root ∈ rows ∧
      t'.children.map RowTree.root = childrenIn parent rows (key t'.root) := by
  induction depth generalizing row t with
  | zero => exact nomatch h
  | succ depth ih =>
    obtain ⟨children, hnode', hts⟩ := unfold_succ_eq_some.mp h
    rw [hnode row hrow, Option.some.injEq, Prod.mk.injEq] at hnode'
    obtain ⟨hroot, rfl⟩ := hnode'
    have hchildren : ∀ r ∈ childrenIn parent rows (key row), r ∈ rows :=
      fun r hr => List.mem_of_mem_filter hr
    intro t' ht'
    rw [RowTree.subtrees_eq, List.mem_cons, RowTree.mem_subtreesOf] at ht'
    rcases ht' with rfl | ⟨c, hc, ht'⟩
    · rw [← hroot]
      exact ⟨hrow, roots_of_unfoldAll hnode hchildren hts⟩
    · obtain ⟨x, hx, hxc⟩ := exists_of_unfoldAll hts hc
      obtain ⟨r, hr, rfl⟩ := List.mem_map.mp hx
      exact ih (hchildren r hr) hxc t' ht'

/-- From every row a tree can be read. -/
lemma exists_unfold (hkeys : (rows.map key).Nodup) (h : Acyclic (parentIn key parent rows))
    (row : α) (hrow : row ∈ rows) : ∃ depth t, unfold node depth (key row) = some t := by
  refine h.induction_up (P := fun x => ∀ row ∈ rows, key row = x →
    ∃ depth t, unfold node depth x = some t) (fun _ => mem_keys_of_parentIn) ?_ (key row) row
    hrow rfl
  rintro _ ih row hrow rfl
  have hbelow : ∀ x ∈ (childrenIn parent rows (key row)).map key,
      ∃ depth t, unfold node depth x = some t := by
    intro x hx
    obtain ⟨r, hr, rfl⟩ := List.mem_map.mp hx
    exact ih _ ((lists_childrenIn hkeys).mem_iff.mp hx) r (List.mem_of_mem_filter hr) rfl
  obtain ⟨depth, ts, hts⟩ := exists_unfoldAll hbelow
  exact ⟨depth + 1, .node row ts, unfold_succ_eq_some.mpr ⟨_, hnode row hrow, hts⟩⟩

section Roots

variable (hforest : unfoldAll node depth ((rootsIn key parent rows).map key) = some forest)
include hforest

/-- What is read from the roots has rows for nodes, with the rows that name them below them. -/
lemma node_of_roots {t : RowTree α} (ht : t ∈ RowTree.subtreesOf forest) : t.root ∈ rows ∧
    t.children.map RowTree.root = childrenIn parent rows (key t.root) := by
  obtain ⟨t₀, ht₀, ht⟩ := RowTree.mem_subtreesOf.mp ht
  obtain ⟨y, hy, hunfold⟩ := exists_of_unfoldAll hforest ht₀
  obtain ⟨row, hrow, rfl⟩ := List.mem_map.mp hy
  exact node_of_unfold hnode (List.mem_of_mem_filter hrow) hunfold t ht

/-- A row is read as often as its parent is, and once more if it is a root. -/
lemma count_keys_eq (hkeys : (rows.map key).Nodup) (x : ι) :
    ((RowTree.values forest).map key).count x = ((rootsIn key parent rows).map key).count x +
      (parentIn key parent rows x).elim 0 fun p => ((RowTree.values forest).map key).count p := by
  have hroots : forest.map RowTree.root = rootsIn key parent rows :=
    roots_of_unfoldAll hnode (fun row hrow => List.mem_of_mem_filter hrow) hforest
  have hbelow :
      ((RowTree.subtreesOf forest).flatMap fun t => (t.children.map RowTree.root).map key) =
        ((RowTree.values forest).map key).flatMap fun p => (childrenIn parent rows p).map key := by
    rw [RowTree.values, List.flatMap_map, List.flatMap_map]
    refine List.flatMap_congr fun t ht => ?_
    rw [(node_of_roots hnode hforest ht).2]
  have hperm := ((RowTree.subtreesOf_perm forest).map RowTree.root).map key
  rw [List.map_append, hroots, List.map_append, List.map_flatMap, List.map_flatMap, hbelow]
    at hperm
  have hchildren : Lists (parentIn key parent rows) fun p => (childrenIn parent rows p).map key :=
    lists_childrenIn hkeys
  rw [← hchildren.count_flatMap, ← List.count_append]
  exact hperm.count_eq x

/-- Every row is read once. -/
lemma count_keys_of_mem (hkeys : (rows.map key).Nodup)
    (h : Acyclic (parentIn key parent rows)) {row : α} (hrow : row ∈ rows) :
    ((RowTree.values forest).map key).count (key row) = 1 := by
  refine h.induction_down (P := fun x => ∀ row ∈ rows, key row = x →
    ((RowTree.values forest).map key).count x = 1) (fun _ => mem_keys_of_parentIn) ?_ (key row) row
    hrow rfl
  rintro _ ih row hrow rfl
  have hnodup : ((rootsIn key parent rows).map key).Nodup :=
    hkeys.sublist (List.filter_sublist.map key)
  have hroot : key row ∈ (rootsIn key parent rows).map key ↔
      ∀ p ∈ parent row, p ∉ rows.map key := by
    constructor
    · intro hmem
      obtain ⟨r, hr, hkey⟩ := List.mem_map.mp hmem
      obtain ⟨hr, hroot⟩ := List.mem_filter.mp hr
      rw [← List.inj_on_of_nodup_map hkeys hr hrow hkey]
      exact of_decide_eq_true hroot
    · intro hroot
      exact List.mem_map_of_mem (List.mem_filter.mpr ⟨hrow, decide_eq_true hroot⟩)
  have hparent : parentIn key parent rows (key row) = parent row := parentIn_of_mem hkeys hrow
  rw [count_keys_eq hnode hforest hkeys, hnodup.count, if_congr hroot rfl rfl, hparent]
  cases hp : parent row with
  | none => simp
  | some p =>
    by_cases hmem : p ∈ rows.map key
    · -- the parent is in the table, and read once
      obtain ⟨q, hq, rfl⟩ := List.mem_map.mp hmem
      have hone := ih (key q) (hparent.trans hp) q hq rfl
      rw [if_neg fun hnone => hnone _ rfl hmem, Option.elim_some, hone]
    · have hzero : ((RowTree.values forest).map key).count p = 0 := by
        refine List.count_eq_zero.mpr fun hread => hmem ?_
        obtain ⟨r, hr, rfl⟩ := List.mem_map.mp hread
        obtain ⟨t, ht, rfl⟩ := List.mem_map.mp hr
        exact List.mem_map_of_mem (node_of_roots hnode hforest ht).1
      rw [if_pos (by rintro _ ⟨⟩; exact hmem), Option.elim_some, hzero]

/-- What is read from the roots is the forest of the table. -/
lemma arranges_of_unfoldAll (hkeys : (rows.map key).Nodup)
    (h : Acyclic (parentIn key parent rows)) : Arranges key parent rows forest where
  values := by
    have hmem : ∀ row ∈ RowTree.values forest, row ∈ rows := by
      intro row hrow
      obtain ⟨t, ht, rfl⟩ := List.mem_map.mp hrow
      exact (node_of_roots hnode hforest ht).1
    have hone : ∀ row ∈ rows, ((RowTree.values forest).map key).count (key row) = 1 :=
      fun row hrow => count_keys_of_mem hnode hforest hkeys h hrow
    have hnodup : ((RowTree.values forest).map key).Nodup := by
      refine List.nodup_iff_count_le_one.mpr fun x => ?_
      by_cases hx : x ∈ (RowTree.values forest).map key
      · obtain ⟨row, hrow, rfl⟩ := List.mem_map.mp hx
        exact (hone row (hmem row hrow)).le
      · rw [List.count_eq_zero.mpr hx]
        exact Nat.zero_le 1
    refine (List.perm_ext_iff_of_nodup hnodup.of_map hkeys.of_map).mpr fun row =>
      ⟨hmem row, fun hrow => ?_⟩
    have hread : key row ∈ (RowTree.values forest).map key := by
      rw [← List.count_pos_iff, hone row hrow]
      exact Nat.one_pos
    obtain ⟨r, hr, hkey⟩ := List.mem_map.mp hread
    rwa [← List.inj_on_of_nodup_map hkeys (hmem r hr) hrow hkey]
  roots := roots_of_unfoldAll hnode (fun row hrow => List.mem_of_mem_filter hrow) hforest
  children := fun _ ht => (node_of_roots hnode hforest ht).2

end Roots

/-- **From the roots** of a table in which nothing is its own ancestor, its forest can be read. -/
theorem exists_arranges (hkeys : (rows.map key).Nodup)
    (h : Acyclic (parentIn key parent rows)) :
    ∃ depth forest, unfoldAll node depth ((rootsIn key parent rows).map key) = some forest ∧
      Arranges key parent rows forest := by
  have hread : ∀ x ∈ (rootsIn key parent rows).map key,
      ∃ depth t, unfold node depth x = some t := by
    intro x hx
    obtain ⟨row, hrow, rfl⟩ := List.mem_map.mp hx
    exact exists_unfold hnode hkeys h row (List.mem_of_mem_filter hrow)
  obtain ⟨depth, forest, hforest⟩ := exists_unfoldAll hread
  exact ⟨depth, forest, hforest, arranges_of_unfoldAll hnode hforest hkeys h⟩

end Node

end Arranges

end Rows

end MeeoServer.Table
