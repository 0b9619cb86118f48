/-
# Pagination with cursors

The cursor of a page is the id of its last item, written as JSON in base64url.  A page asks for
one row more than its limit and shows the rest; whoever follows the end cursors as long as there
is a next page has seen every item once, in order.
-/
import MeeoServer.Text.Bytes
import MeeoServer.Text.JsonText

namespace MeeoServer.Catalog

open Text

/-! ## Cursors -/

/-- `parsed.id`, if it is a string. -/
def idOf (fields : List (Units × Json Units)) : Option Units :=
  match fields.lookup (units "id") with
  | some (.str id) => some id
  | _ => none

structure CursorPayload where
  fields : List (Units × Json Units)
  id : Units
  hid : idOf fields = some id

namespace CursorPayload

/-- `{ id }` -/
def ofId (id : Units) : CursorPayload where
  fields := [(units "id", .str id)]
  id := id
  hid := by rw [idOf, List.lookup_cons_self]

def ofFields? (fields : List (Units × Json Units)) : Option CursorPayload :=
  match h : idOf fields with
  | some id => some ⟨fields, id, h⟩
  | none => none

lemma ofFields?_fields (payload : CursorPayload) : ofFields? payload.fields = some payload := by
  obtain ⟨fields, id, hid⟩ := payload
  rw [ofFields?]
  split
  · next id' h =>
    obtain rfl : id' = id := Option.some.inj (h.symm.trans hid)
    rfl
  · next h => exact absurd (h.symm.trans hid) (by simp)

end CursorPayload

/-- A falsy cursor is none, and neither is a text that is not the JSON of an object with an id. -/
def decodeCursor : Option Units → Option CursorPayload
  | none => none
  | some cursor =>
    if cursor = [] then none
    else match Json.parse (Utf8.decode (Base64Url.decode cursor)) with
      | some (.obj fields) => CursorPayload.ofFields? fields
      | _ => none

section Pages

-- how the language writes a number
variable (numberText : ℚ → List Char)

def encodeCursor (payload : CursorPayload) : Units :=
  Base64Url.encode (Utf8.encode (Json.stringify numberText (.obj payload.fields)))

lemma encodeCursor_ne_nil (payload : CursorPayload) : encodeCursor numberText payload ≠ [] := by
  refine Base64Url.encode_ne_nil fun hnil => ?_
  have htext := Utf8.decode_encode (Json.stringify numberText (.obj payload.fields))
  rw [hnil, Json.stringify] at htext
  exact absurd htext.symm (List.cons_ne_nil _ _)

lemma decodeCursor_encodeCursor (id : Units) :
    decodeCursor (some (encodeCursor numberText (.ofId id))) = some (.ofId id) := by
  have hparse : Json.parse (Utf8.decode (Base64Url.decode (encodeCursor numberText (.ofId id)))) =
      some (.obj (CursorPayload.ofId id).fields) := by
    rw [encodeCursor, Base64Url.decode_encode, Utf8.decode_encode]
    exact Json.parse_stringify_single numberText _ id
  rw [decodeCursor, if_neg (encodeCursor_ne_nil numberText _), hparse]
  exact CursorPayload.ofFields?_fields _

/-! ## One page -/

/-- What `queryFn` is asked for. -/
structure QueryArgs where
  take : ℕ
  skip : Option ℕ
  cursor : Option Units

structure PageInfo where
  hasNextPage : Bool
  hasPreviousPage : Bool
  startCursor : Option Units
  endCursor : Option Units
  count : ℕ

structure CursorPaginationResult (α : Type) where
  items : List α
  pageInfo : PageInfo

variable {α : Type} (id : α → Units)

def cursorOf (item : α) : Units := encodeCursor numberText (.ofId (id item))

def paginateWithCursor (queryFn : QueryArgs → List α) (limit : ℕ) (rawCursor : Option Units) :
    CursorPaginationResult α :=
  -- an id that is empty counts as none
  let decoded := ((decodeCursor rawCursor).map CursorPayload.id).filter (· ≠ [])
  let take := limit + 1
  let items := queryFn (match decoded with
    | some id => { take, skip := some 1, cursor := some id }
    | none => { take, skip := none, cursor := none })
  let hasNextPage := decide (limit < items.length)
  let paginatedItems := if hasNextPage then items.take limit else items
  { items := paginatedItems
    pageInfo :=
      { hasNextPage
        hasPreviousPage := decoded.isSome
        startCursor := paginatedItems.head?.map (cursorOf numberText id)
        endCursor := paginatedItems.getLast?.map (cursorOf numberText id)
        count := paginatedItems.length } }

/-- The pages from a cursor on, as long as there is a next one.  The first argument bounds their
number. -/
def pagesFrom (queryFn : QueryArgs → List α) (limit : ℕ) :
    ℕ → Option Units → Option (List (CursorPaginationResult α))
  | 0, _ => none
  | fuel + 1, cursor =>
    let page := paginateWithCursor numberText id queryFn limit cursor
    if page.pageInfo.hasNextPage then
      (pagesFrom queryFn limit fuel page.pageInfo.endCursor).map (page :: ·)
    else some [page]

/-- A query over an ordered list of items: without a cursor from the start, with a cursor and
`skip: 1` from behind the item with that id. -/
structure Answers (items : List α) (queryFn : QueryArgs → List α) : Prop where
  first : ∀ n, queryFn ⟨n, none, none⟩ = items.take n
  after : ∀ n, ∀ c ∈ items.map id, queryFn ⟨n, some 1, some c⟩ =
    ((items.dropWhile fun item => id item ≠ c).drop 1).take n

/-- `findMany` of a table whose rows are in order. -/
def findMany (items : List α) (args : QueryArgs) : List α :=
  let rows := match args.cursor with
    | some c => items.dropWhile fun item => id item ≠ c
    | none => items
  (rows.drop (args.skip.getD 0)).take args.take

lemma answers_findMany (items : List α) : Answers id items (findMany id items) where
  first _ := rfl
  after _ _ _ := rfl

end Pages

/-! ## The pages of a list -/

section Walk

variable {numberText : ℚ → List Char} {α : Type} {id : α → Units} {items seen rest : List α}
  {queryFn : QueryArgs → List α} {limit : ℕ}

/-- Behind the item with the cursor's id come the items that have not been seen. -/
lemma dropWhile_seen (hdistinct : (items.map id).Nodup) {last : α}
    (hitems : items = seen ++ last :: rest) :
    ((items.dropWhile fun item => id item ≠ id last).drop 1) = rest := by
  have hbefore : ∀ item ∈ seen, decide (id item ≠ id last) = true := by
    intro item hitem
    rw [hitems, List.map_append, List.map_cons] at hdistinct
    refine decide_eq_true fun hsame => ?_
    exact (List.nodup_append.mp hdistinct).2.2 _ (List.mem_map_of_mem hitem) _ List.mem_cons_self
      hsame
  rw [hitems, List.dropWhile_append_of_pos hbefore, List.dropWhile_cons_of_neg (by simp)]
  rfl

variable (numberText limit) in
/-- The rows of a page, if the cursor is that of the last item seen. -/
lemma query_eq (hquery : Answers id items queryFn) (hdistinct : (items.map id).Nodup)
    (hid : ∀ item ∈ items, id item ≠ []) (hitems : items = seen ++ rest) :
    queryFn (match ((decodeCursor (seen.getLast?.map (cursorOf numberText id))).map
        CursorPayload.id).filter (· ≠ []) with
      | some c => { take := limit + 1, skip := some 1, cursor := some c }
      | none => { take := limit + 1, skip := none, cursor := none }) = rest.take (limit + 1) := by
  rcases List.eq_nil_or_concat' seen with rfl | ⟨before, last, rfl⟩
  · rw [hitems] at hquery
    exact hquery.first _
  · have hsplit : items = before ++ last :: rest := by
      rw [hitems, List.append_assoc, List.singleton_append]
    have hlast : last ∈ items := by
      rw [hsplit]
      exact List.mem_append_right _ List.mem_cons_self
    have hcursor : ((decodeCursor ((before ++ [last]).getLast?.map (cursorOf numberText id))).map
        CursorPayload.id).filter (· ≠ []) = some (id last) := by
      rw [List.getLast?_concat, Option.map_some, cursorOf, decodeCursor_encodeCursor,
        Option.map_some]
      exact Option.filter_some_pos (decide_eq_true (hid last hlast))
    rw [hcursor]
    exact (hquery.after _ _ (List.mem_map_of_mem hlast)).trans
      (congrArg (List.take (limit + 1)) (dropWhile_seen hdistinct hsplit))

variable (numberText limit) in
/-- What a page shows, and how it leads on. -/
lemma paginateWithCursor_eq (hquery : Answers id items queryFn) (hdistinct : (items.map id).Nodup)
    (hid : ∀ item ∈ items, id item ≠ []) (hitems : items = seen ++ rest) :
    let page := paginateWithCursor numberText id queryFn limit
      (seen.getLast?.map (cursorOf numberText id))
    page.items = rest.take limit ∧ page.pageInfo.hasNextPage = decide (limit < rest.length) ∧
      page.pageInfo.endCursor = (rest.take limit).getLast?.map (cursorOf numberText id) := by
  intro page
  have hrows := query_eq numberText limit hquery hdistinct hid hitems
  have hnext : page.pageInfo.hasNextPage = decide (limit < rest.length) := by
    simp only [page, paginateWithCursor, hrows, List.length_take, decide_eq_decide]
    omega
  have hpage : page.items = rest.take limit := by
    have hshown : page.items = if page.pageInfo.hasNextPage then (rest.take (limit + 1)).take limit
        else rest.take (limit + 1) := by
      simp only [page, paginateWithCursor, hrows]
    rw [hshown, hnext]
    by_cases hmore : limit < rest.length
    · rw [if_pos (decide_eq_true hmore), List.take_take, Nat.min_eq_left (Nat.le_succ limit)]
    · rw [if_neg (by simpa using hmore), List.take_of_length_le (by omega),
        List.take_of_length_le (by omega)]
  exact ⟨hpage, hnext, congrArg (fun shown => shown.getLast?.map (cursorOf numberText id)) hpage⟩

/-- From the cursor of the last item seen, the pages are those of the rest. -/
lemma pagesFrom_rest (hquery : Answers id items queryFn) (hdistinct : (items.map id).Nodup)
    (hid : ∀ item ∈ items, id item ≠ []) (hlimit : 1 ≤ limit) {fuel : ℕ}
    (hfuel : rest.length < fuel) (hitems : items = seen ++ rest) :
    ∃ pages, pagesFrom numberText id queryFn limit fuel
        (seen.getLast?.map (cursorOf numberText id)) = some pages ∧
      pages.flatMap CursorPaginationResult.items = rest := by
  induction fuel generalizing seen rest with
  | zero => omega
  | succ fuel ih =>
    obtain ⟨hpage, hnext, hend⟩ :=
      paginateWithCursor_eq numberText limit hquery hdistinct hid hitems
    set page := paginateWithCursor numberText id queryFn limit
      (seen.getLast?.map (cursorOf numberText id)) with hdef
    by_cases hmore : limit < rest.length
    · -- the end cursor is that of the last item seen after this page
      have hseen : (rest.take limit).getLast? = (seen ++ rest.take limit).getLast? := by
        refine (List.getLast?_append_of_ne_nil seen fun hnil => ?_).symm
        have hlength := congrArg List.length hnil
        rw [List.length_take, List.length_nil] at hlength
        omega
      obtain ⟨pages, hpages, hshown⟩ := @ih (seen ++ rest.take limit) (rest.drop limit)
        (by rw [List.length_drop]; omega)
        (by rw [List.append_assoc, List.take_append_drop, hitems])
      refine ⟨page :: pages, ?_, ?_⟩
      · rw [pagesFrom, ← hdef, if_pos (by rw [hnext]; exact decide_eq_true hmore), hend, hseen,
          hpages, Option.map_some]
      · rw [List.flatMap_cons, hpage, hshown, List.take_append_drop]
    · refine ⟨[page], ?_, ?_⟩
      · rw [pagesFrom, ← hdef, if_neg (by rw [hnext]; simpa using hmore)]
      · rw [List.flatMap_singleton, hpage, List.take_of_length_le (by omega)]

/-- More pages than items are never read. -/
lemma pagesFrom_mono {fuel fuel' : ℕ} {cursor : Option Units}
    {pages : List (CursorPaginationResult α)} (hle : fuel ≤ fuel')
    (h : pagesFrom numberText id queryFn limit fuel cursor = some pages) :
    pagesFrom numberText id queryFn limit fuel' cursor = some pages := by
  induction fuel generalizing fuel' cursor pages with
  | zero => exact absurd h (by simp [pagesFrom])
  | succ fuel ih =>
    obtain ⟨fuel', rfl⟩ : ∃ n, fuel' = n + 1 := ⟨fuel' - 1, by omega⟩
    rw [pagesFrom] at h ⊢
    split at h
    · next hnext =>
      obtain ⟨tail, htail, rfl⟩ := Option.map_eq_some_iff.mp h
      rw [if_pos hnext, ih (Nat.le_of_succ_le_succ hle) htail, Option.map_some]
    · next hnext => rw [if_neg hnext, h]

/-- Following the end cursors ends, and the pages are the list; a cursor is read as the payload
that was written. -/
theorem pages_partition (numberText : ℚ → List Char) (hdistinct : (items.map id).Nodup)
    (hid : ∀ item ∈ items, id item ≠ []) (hquery : Answers id items queryFn)
    (hlimit : 1 ≤ limit) :
    (∃ pages,
      (∀ fuel, items.length < fuel →
        pagesFrom numberText id queryFn limit fuel none = some pages) ∧
      pages.flatMap CursorPaginationResult.items = items) ∧
      ∀ id, decodeCursor (some (encodeCursor numberText (.ofId id))) = some (.ofId id) := by
  refine ⟨?_, decodeCursor_encodeCursor numberText⟩
  obtain ⟨pages, hpages, hshown⟩ := pagesFrom_rest hquery hdistinct hid hlimit
    (Nat.lt_succ_self items.length) (show items = [] ++ items from rfl)
  exact ⟨pages, fun fuel hfuel => pagesFrom_mono hfuel hpages, hshown⟩

/-- Three items with names, two a page. -/
theorem pages_of_three :
    let items : List (Units × String) := [([0x61], "Alpha"), ([0x62], "Beta"), ([0x63], "Gamma")]
    (∃ pages,
      (∀ fuel, 3 < fuel →
        pagesFrom (fun _ => []) Prod.fst (findMany Prod.fst items) 2 fuel none = some pages) ∧
      pages.flatMap CursorPaginationResult.items = items) ∧
      ∀ id, decodeCursor (some (encodeCursor (fun _ => []) (.ofId id))) = some (.ofId id) := by
  intro items
  have hdistinct : (items.map Prod.fst).Nodup := by decide
  have hid : ∀ item ∈ items, item.1 ≠ [] := by decide
  exact pages_partition _ hdistinct hid (answers_findMany _ _) (by decide)

end Walk

end MeeoServer.Catalog
