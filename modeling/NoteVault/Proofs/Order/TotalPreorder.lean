import NoteVault.Proofs.Order.Comparable

/-!
# The order of values is a total preorder

On comparable values of any nesting, comparing always gives an outcome, and the outcomes
are those of a total preorder: a value is equal to itself, reversing the sides reverses
the outcome, and the order is transitive. The tags lie in it as their names do, with the
values that have no tag behind all that have one, and null behind everything.

All of this is read off the linear order of order keys; the order of values is only a
preorder because different values can have one key.

## Main results

* `Value.compareBy_orderLaws` — the laws, for every normaliser.
-/

namespace NoteVault

namespace OrderKey

/-- Between keys of different tags the tags decide. -/
theorem order_of_tag_ne {a b : OrderKey} (h : a.tag? ≠ b.tag?) : order a b = compareTags a b := by
  unfold order
  cases htags : compareTags a b with
  | eq => exact absurd (compareTags_eq_iff.mp htags) h
  | lt => rfl
  | gt => rfl

/-- A key of a higher rank comes later. -/
theorem order_of_rank_gt {a b : OrderKey} (h : b.rank < a.rank) : order a b = .gt := by
  have hrank : Ord.compare a.rank b.rank = .gt := Nat.compare_eq_gt.mpr h
  rw [order, compareTags_eq, hrank]
  rfl

end OrderKey

namespace Value

variable {normalize : Text → Text} {a b c : Value}

theorem compareBy_self (ha : a.isComparable normalize) :
    a.compareBy normalize a = .ok .eq := by
  rw [compareBy_eq_order ha ha, OrderKey.order_eq_iff.mpr rfl]

theorem compareBy_swap (ha : a.isComparable normalize) (hb : b.isComparable normalize) :
    ∃ o, a.compareBy normalize b = .ok o ∧ b.compareBy normalize a = .ok o.swap := by
  refine ⟨_, compareBy_eq_order ha hb, ?_⟩
  rw [compareBy_eq_order hb ha, OrderKey.order_swap]

/-- A value does not come after another one. -/
def NotAfter (normalize : Text → Text) (a b : Value) : Prop :=
  ∃ o, a.compareBy normalize b = .ok o ∧ o ≠ .gt

theorem notAfter_iff (ha : a.isComparable normalize) (hb : b.isComparable normalize) :
    NotAfter normalize a b ↔ ((a.orderKey normalize).order (b.orderKey normalize)).isLE := by
  rw [NotAfter, compareBy_eq_order ha hb, Ordering.isLE_iff_ne_gt]
  constructor
  · rintro ⟨o, ho, hne⟩
    rw [Except.ok.inj ho]
    exact hne
  · exact fun h => ⟨_, rfl, h⟩

theorem NotAfter.trans (ha : a.isComparable normalize) (hb : b.isComparable normalize)
    (hc : c.isComparable normalize) (hab : NotAfter normalize a b) (hbc : NotAfter normalize b c) :
    NotAfter normalize a c := by
  rw [notAfter_iff ha hb] at hab
  rw [notAfter_iff hb hc] at hbc
  rw [notAfter_iff ha hc]
  exact Std.TransCmp.isLE_trans hab hbc

theorem rank_orderKey_null : (null.orderKey normalize).rank = 2 := rfl

theorem rank_orderKey_untagged (h : a.tag? = none) : (a.orderKey normalize).rank = 1 := by
  rw [OrderKey.rank, tag?_orderKey, h]

theorem rank_orderKey_tagged {t : Tag} (h : a.tag? = some t) (ht : t ≠ .null) :
    (a.orderKey normalize).rank = 0 := by
  rw [OrderKey.rank, tag?_orderKey, h]
  cases t <;> first | rfl | exact absurd rfl ht

theorem tag?_eq_null_iff : a.tag? = some .null ↔ a = null := by
  cases a <;> simp [tag?]

/-- Null comes after every other value. -/
theorem compareBy_null (hb : b.isComparable normalize) (hne : b ≠ null) :
    null.compareBy normalize b = .ok .gt := by
  rw [compareBy_eq_order rfl hb, OrderKey.order_of_rank_gt]
  rw [rank_orderKey_null]
  cases htag : b.tag? with
  | none => rw [rank_orderKey_untagged htag]; decide
  | some t =>
      have ht : t ≠ .null := fun ht => hne (tag?_eq_null_iff.mp (ht ▸ htag))
      rw [rank_orderKey_tagged htag ht]
      decide

/-- A value without a tag comes after every tagged one but null. -/
theorem compareBy_untagged (ha : a.isComparable normalize) (hb : b.isComparable normalize)
    (hnone : a.tag? = none) {t : Tag} (htag : b.tag? = some t) (ht : t ≠ .null) :
    a.compareBy normalize b = .ok .gt := by
  rw [compareBy_eq_order ha hb, OrderKey.order_of_rank_gt]
  rw [rank_orderKey_untagged hnone, rank_orderKey_tagged htag ht]
  decide

/-- Values of different tags are in the order of the names of their tags. -/
theorem compareBy_tags (ha : a.isComparable normalize) (hb : b.isComparable normalize)
    {t u : Tag} (htag : a.tag? = some t) (hutag : b.tag? = some u) (ht : t ≠ .null)
    (hu : u ≠ .null) (hne : t ≠ u) :
    a.compareBy normalize b = .ok (Text.order t.name u.name) := by
  have hkeys : (a.orderKey normalize).tag? ≠ (b.orderKey normalize).tag? := by
    rw [tag?_orderKey, tag?_orderKey, htag, hutag]
    exact fun h => hne (Option.some.inj h)
  rw [compareBy_eq_order ha hb, OrderKey.order_of_tag_ne hkeys, OrderKey.compareTags_eq,
    rank_orderKey_tagged htag ht, rank_orderKey_tagged hutag hu, OrderKey.tagName,
    OrderKey.tagName, tag?_orderKey, tag?_orderKey, htag, hutag]
  rfl

/-- The laws of the order, for three values. -/
structure OrderLaws (normalize : Text → Text) (a b c : Value) : Prop where
  /-- Comparing gives an outcome. -/
  total : ∃ o, a.compareBy normalize b = .ok o
  /-- A value is equal to itself. -/
  refl : a.compareBy normalize a = .ok .eq
  /-- Reversing the sides reverses the outcome. -/
  swap : ∃ o, a.compareBy normalize b = .ok o ∧ b.compareBy normalize a = .ok o.swap
  /-- The order is transitive. -/
  trans : NotAfter normalize a b → NotAfter normalize b c → NotAfter normalize a c
  /-- Null comes after every other value. -/
  null_last : a = null → b ≠ null → a.compareBy normalize b = .ok .gt
  /-- A value without a tag comes after every tagged one but null. -/
  untagged_after : a.tag? = none → ∀ t, b.tag? = some t → t ≠ .null →
    a.compareBy normalize b = .ok .gt
  /-- Tagged values other than null are in the order of the names of their tags. -/
  by_name : ∀ t u, a.tag? = some t → b.tag? = some u → t ≠ .null → u ≠ .null → t ≠ u →
    a.compareBy normalize b = .ok (Text.order t.name u.name)

/-- **The order of comparable values is a total preorder**, whatever the normaliser. -/
theorem compareBy_orderLaws (normalize : Text → Text) (a b c : Value)
    (ha : a.isComparable normalize) (hb : b.isComparable normalize)
    (hc : c.isComparable normalize) : OrderLaws normalize a b c where
  total := ⟨_, compareBy_eq_order ha hb⟩
  refl := compareBy_self ha
  swap := compareBy_swap ha hb
  trans := NotAfter.trans ha hb hc
  null_last hnull hne := by
    rw [hnull]
    exact compareBy_null hb hne
  untagged_after hnone _ htag ht := compareBy_untagged ha hb hnone htag ht
  by_name _ _ htag hutag ht hu hne := compareBy_tags ha hb htag hutag ht hu hne

/-- The laws for an object two keys of which have one text, a nested array with an
infinity in it, and a date with an offset. -/
theorem compareBy_orderLaws_nested :
    OrderLaws (fun path => path)
      (object [(.number (.int 1), list [int 3, null]), (.string ['1'], bool true)])
      (array .tuple [number (.float (.infinite true)), array .list [untagged, string ['a']]])
      (date (.time ⟨⟨2024, 5, 6, by decide⟩, 10, 0, 0, 0, some 7200, by decide⟩)) :=
  compareBy_orderLaws _ _ _ _ (by decide +kernel) (by decide +kernel) (by decide +kernel)

end Value
end NoteVault
