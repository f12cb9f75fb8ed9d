import NoteVault.Proofs.Calendar.Instant
import NoteVault.Proofs.Number.Exact
import NoteVault.Proofs.Order.Fields

/-!
# Values that can be compared

A comparison is refused if it gets to look at the character U+0000, at an integer that
is too large for binary64, or at an instant outside the calendar. A *comparable* value
has none of these anywhere in it: comparing comparable values never fails, and follows
the linear order of their keys.

What is comparable is said of values, so that nobody has to look at order keys; a
comparable value has a comparable key, because every text, number and date of the key
is one of the value, and fields only get lost when two keys of an object have one text.

## Main results

* `OrderKey.compare_eq_order` — comparable keys are compared, by the linear order.
* `Value.isComparable_orderKey` — the key of a comparable value is comparable.
* `Value.compareBy_eq_order` — comparable values are compared by their keys.
-/

namespace NoteVault

/-- Whether a text can be compared. -/
def Text.isComparable (s : Text) : Bool := !s.contains '\x00'

theorem compareTexts_eq_order {s t : Text} (hs : s.isComparable) (ht : t.isComparable) :
    compareTexts s t = .ok (Text.order s t) := by
  rw [Text.isComparable, Bool.not_eq_true'] at hs ht
  rw [compareTexts, hs, ht]
  rfl

/-- The empty subpath comes first, as the empty text does. -/
theorem compareSubpaths_eq_order {s t : Text} (hs : s.isComparable) (ht : t.isComparable) :
    compareSubpaths s t = .ok (Text.order s t) := by
  match s, t with
  | [], [] => rfl
  | [], _ :: _ => rfl
  | _ :: _, [] => rfl
  | c :: s, d :: t => exact compareTexts_eq_order hs ht

theorem compareTextLists_eq_order : ∀ {ss ts : List Text},
    ss.all Text.isComparable → ts.all Text.isComparable →
    compareTextLists ss ts = .ok (List.compareLex Text.order ss ts)
  | [], [], _, _ => rfl
  | [], _ :: _, _, _ => rfl
  | _ :: _, [], _, _ => rfl
  | s :: ss, t :: ts, hs, ht => by
      rw [List.all_cons, Bool.and_eq_true] at hs ht
      rw [compareTextLists, compareTexts_eq_order hs.1 ht.1,
        compareTextLists_eq_order hs.2 ht.2, List.compareLex_cons_cons]
      cases Text.order s t <;> rfl

/-- Where both comparisons are carried out, the second one follows the first. -/
theorem thenCompare_ok (x y : Ordering) : thenCompare (.ok x) (.ok y) = .ok (x.then y) := by
  cases x <;> rfl

theorem compareNumbers_eq_order {x y : ExactNumber} (hx : !x.isOversized) (hy : !y.isOversized) :
    compareNumbers x y = .ok (x.order y) := by
  rw [Bool.not_eq_true'] at hx hy
  rw [compareNumbers, hx, hy]
  rfl

theorem compareDates_eq_order {i i' : Int} (o o' : Option Int) (h : Moment.isInCalendar i)
    (h' : Moment.isInCalendar i') :
    compareDates i o i' o' = .ok ((compare i i').then (compare o o')) := by
  rw [compareDates, h, h']
  rfl

namespace OrderKey

/-! ## Comparable keys -/

mutual
/-- Whether no comparison with a key is refused on its account. -/
def isComparable : OrderKey → Bool
  | .number x => !x.isOversized
  | .string s => s.isComparable
  | .date instant _ => Moment.isInCalendar instant
  | .link path _ subpath => path.isComparable && subpath.isComparable
  | .array items => allComparable items
  | .object fields => fieldsComparable fields
  | .null | .untagged | .boolean _ | .duration _ | .html | .function => true

/-- Whether all keys of a list are comparable. -/
def allComparable : List OrderKey → Bool
  | [] => true
  | k :: rest => k.isComparable && allComparable rest

/-- Whether the names and the keys of some fields are comparable. -/
def fieldsComparable : List (Text × OrderKey) → Bool
  | [] => true
  | (name, k) :: rest => name.isComparable && k.isComparable && fieldsComparable rest
end

theorem fieldsComparable_iff {fields : List (Text × OrderKey)} :
    fieldsComparable fields ↔ ∀ f ∈ fields, f.1.isComparable ∧ f.2.isComparable := by
  induction fields with
  | nil => simp [fieldsComparable]
  | cons f rest ih =>
      obtain ⟨name, k⟩ := f
      simp only [fieldsComparable, Bool.and_eq_true, ih, List.forall_mem_cons]

theorem names_comparable {fields : List (Text × OrderKey)} (h : fieldsComparable fields) :
    (fields.map (·.1)).all Text.isComparable := by
  rw [List.all_map, List.all_eq_true]
  exact fun f hf => (fieldsComparable_iff.mp h f hf).1

/-- Keys of different tags are compared by their tags alone. -/
theorem compare_of_apart {a b : OrderKey} (hcompare : compare a b = .ok (compareTags a b))
    (halike : orderAlike a b = .eq) : compare a b = .ok (order a b) := by
  rw [hcompare, order, halike, Ordering.then_eq]

/-- Keys of one tag are compared by what is in them. -/
theorem compare_of_alike {a b : OrderKey} (htag : a.tag? = b.tag?)
    (hcompare : compare a b = .ok (orderAlike a b)) : compare a b = .ok (order a b) := by
  rw [hcompare, order_of_tag_eq htag]

mutual
/-- Comparable keys are compared, by the linear order. -/
theorem compare_eq_order :
    ∀ {a b : OrderKey}, a.isComparable → b.isComparable → compare a b = .ok (order a b)
  | .array items, b, ha, hb => by
      cases b with
      | array items' => exact compare_of_alike rfl (compareItems_eq_order ha hb)
      | _ => exact compare_of_apart rfl rfl
  | .object fields, b, ha, hb => by
      cases b with
      | object fields' =>
          refine compare_of_alike rfl ?_
          rw [compare, compareTextLists_eq_order (names_comparable ha) (names_comparable hb),
            compareFields_eq_order ha hb, thenCompare_ok]
          rfl
      | _ => exact compare_of_apart rfl rfl
  | .boolean x, b, _, _ => by
      cases b with
      | boolean y => exact compare_of_alike rfl rfl
      | _ => exact compare_of_apart rfl rfl
  | .number x, b, ha, hb => by
      cases b with
      | number y => exact compare_of_alike rfl (compareNumbers_eq_order ha hb)
      | _ => exact compare_of_apart rfl rfl
  | .string s, b, ha, hb => by
      cases b with
      | string t => exact compare_of_alike rfl (compareTexts_eq_order ha hb)
      | _ => exact compare_of_apart rfl rfl
  | .date i o, b, ha, hb => by
      cases b with
      | date i' o' => exact compare_of_alike rfl (compareDates_eq_order o o' ha hb)
      | _ => exact compare_of_apart rfl rfl
  | .duration d, b, _, _ => by
      cases b with
      | duration d' => exact compare_of_alike rfl rfl
      | _ => exact compare_of_apart rfl rfl
  | .link path kind sub, b, ha, hb => by
      cases b with
      | link path' kind' sub' =>
          refine compare_of_alike rfl ?_
          rw [isComparable, Bool.and_eq_true] at ha hb
          have hkind : compareTexts kind.name kind'.name = .ok (Text.order kind.name kind'.name) :=
            compareTexts_eq_order (by cases kind <;> decide) (by cases kind' <;> decide)
          show thenCompare (compareTexts path path')
            (thenCompare (compareTexts kind.name kind'.name) (compareSubpaths sub sub')) = _
          rw [compareTexts_eq_order ha.1 hb.1, hkind, compareSubpaths_eq_order ha.2 hb.2,
            thenCompare_ok, thenCompare_ok]
          rfl
      | _ => exact compare_of_apart rfl rfl
  | .null, b, _, _ | .untagged, b, _, _ | .html, b, _, _ | .function, b, _, _ => by
      cases b <;> exact compare_of_apart rfl rfl

theorem compareItems_eq_order : ∀ {as bs : List OrderKey}, allComparable as → allComparable bs →
    compareItems as bs = .ok (orderItems as bs)
  | [], [], _, _ => rfl
  | [], _ :: _, _, _ => rfl
  | _ :: _, [], _, _ => rfl
  | a :: as, b :: bs, ha, hb => by
      rw [allComparable, Bool.and_eq_true] at ha hb
      rw [compareItems, compare_eq_order ha.1 hb.1, compareItems_eq_order ha.2 hb.2,
        thenCompare_ok]
      rfl

theorem compareFields_eq_order : ∀ {fs gs : List (Text × OrderKey)},
    fieldsComparable fs → fieldsComparable gs → compareFields fs gs = .ok (orderFields fs gs)
  | [], [], _, _ => rfl
  | [], _ :: _, _, _ => rfl
  | _ :: _, [], _, _ => rfl
  | (_, a) :: fs, (_, b) :: gs, hf, hg => by
      rw [fieldsComparable, Bool.and_eq_true, Bool.and_eq_true] at hf hg
      rw [compareFields, compare_eq_order hf.1.2 hg.1.2, compareFields_eq_order hf.2 hg.2,
        thenCompare_ok]
      rfl
end

end OrderKey

/-! ## Comparable values -/

namespace Value

mutual
/-- Whether a value is comparable, paths of links being normalised. Values without parts
that the order looks at are. -/
def isComparable (normalize : Text → Text) : Value → Bool
  | .number x => x.fitsBinary64
  | .string s => s.isComparable
  | .date m => m.offset.isNone || Moment.isInCalendar m.instant
  | .array _ items => allComparable normalize items
  | .link l => (normalize l.path).isComparable && (l.subpath?.getD []).isComparable
  | .object entries => entriesComparable normalize entries
  | .null | .bool _ | .duration _ | .html _ | .function | .callable _ => true
  | .task _ | .flat _ | .grouped _ | .untagged => true

/-- Whether all values of a list are comparable. -/
def allComparable (normalize : Text → Text) : List Value → Bool
  | [] => true
  | v :: rest => v.isComparable normalize && allComparable normalize rest

/-- Whether the texts of the keys and the values of some entries are comparable. -/
def entriesComparable (normalize : Text → Text) : List (Key × Value) → Bool
  | [] => true
  | (k, v) :: rest =>
    k.text.isComparable && v.isComparable normalize && entriesComparable normalize rest
end

variable {normalize : Text → Text}

mutual
/-- The key of a comparable value is comparable. -/
theorem isComparable_orderKey : ∀ {v : Value}, v.isComparable normalize →
    (v.orderKey normalize).isComparable
  | .number x, h => by
      rw [isComparable] at h
      rw [orderKey, OrderKey.isComparable, Number.isOversized_exact, h]
      rfl
  | .string s, h => h
  | .date m, h => by
      rcases Bool.or_eq_true_iff.mp h with hnone | hinside
      · exact Moment.isInCalendar_of_offset_none (Option.isNone_iff_eq_none.mp hnone)
      · exact hinside
  | .array _ items, h => allComparable_orderKeys h
  | .link l, h => h
  | .object entries, h => by
      refine OrderKey.fieldsComparable_iff.mpr fun f hf => ?_
      exact OrderKey.fieldsComparable_iff.mp (fieldsComparable_fieldKeys h) f
        (mem_of_mem_sortFields hf)
  | .null, _ | .bool _, _ | .duration _, _ | .html _, _ | .function, _ | .callable _, _ => rfl
  | .task _, _ | .flat _, _ | .grouped _, _ | .untagged, _ => rfl

theorem allComparable_orderKeys : ∀ {items : List Value}, allComparable normalize items →
    OrderKey.allComparable (orderKeys normalize items)
  | [], _ => rfl
  | v :: rest, h => by
      rw [allComparable, Bool.and_eq_true] at h
      rw [orderKeys, OrderKey.allComparable, Bool.and_eq_true]
      exact ⟨isComparable_orderKey h.1, allComparable_orderKeys h.2⟩

theorem fieldsComparable_fieldKeys : ∀ {entries : List (Key × Value)},
    entriesComparable normalize entries →
    OrderKey.fieldsComparable (fieldKeys normalize entries)
  | [], _ => rfl
  | (k, v) :: rest, h => by
      rw [entriesComparable, Bool.and_eq_true, Bool.and_eq_true] at h
      rw [fieldKeys, OrderKey.fieldsComparable, Bool.and_eq_true, Bool.and_eq_true]
      exact ⟨⟨h.1.1, isComparable_orderKey h.1.2⟩, fieldsComparable_fieldKeys h.2⟩
end

/-- Comparable values are compared, by the linear order of their keys. -/
theorem compareBy_eq_order {a b : Value} (ha : a.isComparable normalize)
    (hb : b.isComparable normalize) :
    a.compareBy normalize b = .ok ((a.orderKey normalize).order (b.orderKey normalize)) :=
  OrderKey.compare_eq_order (isComparable_orderKey ha) (isComparable_orderKey hb)

/-- The order sees the tag of a value. -/
theorem tag?_orderKey (v : Value) : (v.orderKey normalize).tag? = v.tag? := by
  cases v <;> rfl

end Value
end NoteVault
