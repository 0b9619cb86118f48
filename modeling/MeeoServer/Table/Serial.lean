/-
# Tables that number their rows

The database draws the identifier of a new row, and it draws none twice.  So an identifier that was
seen once means the same row for ever, and what is immutable in a row can be relied on as long as
the row is there.
-/
import MeeoServer.Table.Rows
import MeeoServer.Table.Updates

namespace MeeoServer.Table

variable {α β : Type}

/-- A table, and the next number. -/
structure Serial (α : Type) where
  rows : List (Row α)
  next : ℕ
  nodup : (rows.map Row.id).Nodup
  lt : ∀ row ∈ rows, row.id < next

namespace Serial

/-! ## Statements -/

def empty : Serial α := ⟨[], 0, List.nodup_nil, nofun⟩

variable (t : Serial α)

def get? (id : ℕ) : Option α := (t.rows.find? (·.id = id)).map Row.val

def insert (a : α) : Serial α where
  rows := t.rows ++ [⟨t.next, a⟩]
  next := t.next + 1
  nodup := by
    rw [List.map_append, List.map_singleton]
    refine List.nodup_append.mpr ⟨t.nodup, List.nodup_singleton _, ?_⟩
    intro i hi j hj hij
    obtain ⟨row, hmem, rfl⟩ := List.mem_map.mp hi
    exact (t.lt row hmem).ne (hij.trans (List.mem_singleton.mp hj))
  lt := by
    intro row hrow
    rcases List.mem_append.mp hrow with hrow | hrow
    · exact Nat.lt_succ_of_lt (t.lt row hrow)
    · rw [List.mem_singleton.mp hrow]
      exact Nat.lt_succ_self _

/-- `createMany` -/
def insertAll (l : List α) : Serial α := l.foldl insert t

/-- `deleteMany` -/
def delete (p : Row α → Bool) : Serial α where
  rows := t.rows.filter fun row => !p row
  next := t.next
  nodup := t.nodup.sublist (List.filter_sublist.map _)
  lt row hrow := t.lt row (List.mem_filter.mp hrow).1

/-- `updateMany` -/
def modify (p : Row α → Bool) (f : α → α) : Serial α where
  rows := updateWhere p (fun row => ⟨row.id, f row.val⟩) t.rows
  next := t.next
  nodup := by
    have hid : ∀ row : Row α, Row.id (⟨row.id, f row.val⟩ : Row α) = row.id := fun _ => rfl
    rw [map_updateWhere hid]
    exact t.nodup
  lt row hrow := by
    obtain ⟨row', hrow', heq⟩ := mem_updateWhere hrow
    rcases heq with rfl | rfl
    · exact t.lt row hrow'
    · exact t.lt row' hrow'

variable {t} {t' t'' : Serial α} {id : ℕ} {a a' : α}

lemma eq_of_mem (h : ⟨id, a⟩ ∈ t.rows) (h' : ⟨id, a'⟩ ∈ t.rows) : a = a' :=
  congrArg Row.val (List.inj_on_of_nodup_map t.nodup h h' rfl)

lemma get?_eq_some_iff : t.get? id = some a ↔ ⟨id, a⟩ ∈ t.rows := by
  constructor
  · intro h
    obtain ⟨row, hfind, rfl⟩ := Option.map_eq_some_iff.mp h
    have hid : row.id = id := by simpa using List.find?_some hfind
    exact hid ▸ List.mem_of_find?_eq_some hfind
  · intro h
    cases hfind : t.rows.find? (·.id = id) with
    | none => exact absurd (List.find?_eq_none.mp hfind _ h) (by simp)
    | some row =>
      have hid : row.id = id := by simpa using List.find?_some hfind
      have hrow : row = ⟨id, a⟩ :=
        List.inj_on_of_nodup_map t.nodup (List.mem_of_find?_eq_some hfind) h hid
      rw [get?, hfind, Option.map_some, hrow]

lemma mem_insert {row : Row α} : row ∈ (t.insert a).rows ↔ row ∈ t.rows ∨ row = ⟨t.next, a⟩ := by
  simp [insert]

/-- New rows have new numbers. -/
lemma mem_insertAll {l : List α} {row : Row α} (h : row ∈ (t.insertAll l).rows) :
    row ∈ t.rows ∨ t.next ≤ row.id ∧ row.val ∈ l := by
  induction l generalizing t with
  | nil => exact .inl h
  | cons a l ih =>
    rcases ih h with hrow | ⟨hle, hmem⟩
    · rcases mem_insert.mp hrow with hrow | rfl
      · exact .inl hrow
      · exact .inr ⟨le_rfl, List.mem_cons_self⟩
    · exact .inr ⟨(Nat.le_succ _).trans hle, List.mem_cons_of_mem a hmem⟩

lemma next_le_insertAll (l : List α) : t.next ≤ (t.insertAll l).next := by
  induction l generalizing t with
  | nil => exact le_rfl
  | cons a l ih => exact (Nat.le_succ _).trans (ih (t := t.insert a))

/-! ## Frames -/

/-- A part of the table, in which no new row is. -/
lemma filter_insertAll {q : Row α → Bool} {l : List α}
    (h : ∀ id, t.next ≤ id → ∀ a ∈ l, q ⟨id, a⟩ = false) :
    (t.insertAll l).rows.filter q = t.rows.filter q := by
  induction l generalizing t with
  | nil => rfl
  | cons a l ih =>
    refine (ih fun id hid b hb => h id ((Nat.le_succ _).trans hid) b
      (List.mem_cons_of_mem a hb)).trans ?_
    exact filter_append_of_not (h t.next le_rfl a List.mem_cons_self)

/-- A part of the table, of which nothing is deleted. -/
lemma filter_delete {p q : Row α → Bool} (h : ∀ row ∈ t.rows, p row = true → q row = false) :
    (t.delete p).rows.filter q = t.rows.filter q := by
  refine filter_filter_of fun row hrow hq => ?_
  cases hp : p row with
  | false => rfl
  | true => exact absurd hq (by rw [h row hrow hp]; exact Bool.false_ne_true)

/-! ## Later tables -/

/-- The rows of `t` that are still there have the same immutable columns `f`. -/
structure Later (f : α → β) (t t' : Serial α) : Prop where
  next : t.next ≤ t'.next
  old : ∀ row ∈ t'.rows, row.id < t.next → ∃ a, ⟨row.id, a⟩ ∈ t.rows ∧ f a = f row.val

variable {f : α → β}

namespace Later

lemma refl (f : α → β) (t : Serial α) : Later f t t := ⟨le_rfl, fun row h _ => ⟨row.val, h, rfl⟩⟩

lemma trans (h : Later f t t') (h' : Later f t' t'') : Later f t t'' where
  next := h.next.trans h'.next
  old row hrow hlt := by
    obtain ⟨a', hmem', ha'⟩ := h'.old row hrow (hlt.trans_le h.next)
    obtain ⟨a, hmem, ha⟩ := h.old ⟨row.id, a'⟩ hmem' hlt
    exact ⟨a, hmem, ha.trans ha'⟩

lemma eq (h : Later f t t') (ha : ⟨id, a⟩ ∈ t.rows) (ha' : ⟨id, a'⟩ ∈ t'.rows) : f a' = f a := by
  obtain ⟨b, hmem, hb⟩ := h.old ⟨id, a'⟩ ha' (t.lt ⟨id, a⟩ ha)
  rw [eq_of_mem ha hmem]
  exact hb.symm

lemma insertAll (f : α → β) (t : Serial α) (l : List α) : Later f t (t.insertAll l) where
  next := next_le_insertAll l
  old row hrow hlt := by
    rcases mem_insertAll hrow with hrow | ⟨hle, -⟩
    · exact ⟨row.val, hrow, rfl⟩
    · exact absurd hlt (Nat.not_lt.mpr hle)

lemma delete (f : α → β) (t : Serial α) (p : Row α → Bool) : Later f t (t.delete p) :=
  ⟨le_rfl, fun row hrow _ => ⟨row.val, (List.mem_filter.mp hrow).1, rfl⟩⟩

lemma modify {g : α → α} (hg : ∀ a, f (g a) = f a) (t : Serial α) (p : Row α → Bool) :
    Later f t (t.modify p g) := by
  refine ⟨le_rfl, fun row hrow _ => ?_⟩
  obtain ⟨row', hmem, rfl | rfl⟩ := mem_updateWhere hrow
  · exact ⟨row.val, hmem, rfl⟩
  · exact ⟨row'.val, hmem, (hg row'.val).symm⟩

end Later

end Serial

end MeeoServer.Table
