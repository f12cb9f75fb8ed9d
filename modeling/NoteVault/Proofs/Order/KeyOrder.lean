import NoteVault.Proofs.Order.Composition
import NoteVault.Value.Order

/-!
# The linear order of order keys

`OrderKey.compare` may be refused, so it is not the comparison of a linear order by
itself. `OrderKey.order` is the order that it follows wherever it is not refused. It
is total on all keys: first the tags decide, then, between keys of one tag, what is
in them.

Keys are nested through lists and fields, so every law is proved for keys, for lists
of keys and for fields at once, along the recursion of `orderAlike`.

## Main results

* `OrderKey.order_of_tag_eq` — between keys of one tag, what is in them decides.
* `instTransCmpOrder`, `instLawfulEqCmpOrder` — the order is linear: it is
  antisymmetric and transitive, and two keys are equal in it only if they are the
  same.
-/

namespace NoteVault

instance : Std.TransCmp Text.order := inferInstanceAs (Std.TransOrd Text)

instance : Std.LawfulEqCmp Text.order := inferInstanceAs (Std.LawfulEqOrd Text)

theorem Text.order_swap (s t : Text) : order t s = (order s t).swap := Std.OrientedCmp.eq_swap

theorem Text.order_eq_iff {s t : Text} : order s t = .eq ↔ s = t :=
  Std.LawfulEqCmp.compare_eq_iff_eq

theorem Text.ne_of_order_lt {s t : Text} (h : order s t = .lt) : s ≠ t := by
  rintro rfl
  rw [order_eq_iff.mpr rfl] at h
  cases h

namespace ExactNumber

/-- The finite part of a value; the values around the finite ones have none. -/
def units : ExactNumber → Int
  | .finite units => units
  | _ => 0

/-- Exact values are in the order of their ranks, finite ones in that of their units. -/
theorem order_eq_then (x y : ExactNumber) :
    x.order y = (compare x.rank y.rank).then (compare x.units y.units) := by
  cases x <;> cases y <;> rfl

theorem eq_of_rank_units {x y : ExactNumber} (hrank : x.rank = y.rank)
    (hunits : x.units = y.units) : x = y := by
  cases x <;> cases y <;> simp_all [rank, units]

instance : Std.TransCmp order where
  eq_swap {x y} := by
    rw [order_eq_then, order_eq_then y x, Ordering.swap_then,
      ← Std.OrientedCmp.eq_swap, ← Std.OrientedCmp.eq_swap]
  isLE_trans {x y z} hxy hyz := by
    rw [order_eq_then] at hxy hyz ⊢
    exact ((composes_of_transCmp _ _ _ _).andThen
      fun _ _ => composes_of_transCmp _ _ _ _).isLE hxy hyz

instance : Std.LawfulEqCmp order where
  compare_self {x} := by
    rw [order_eq_then, Ordering.then_eq_eq]
    exact ⟨Std.ReflOrd.compare_self, Std.ReflOrd.compare_self⟩
  eq_of_compare {x y} h := by
    rw [order_eq_then, Ordering.then_eq_eq] at h
    exact eq_of_rank_units (Std.LawfulEqCmp.eq_of_compare h.1) (Std.LawfulEqCmp.eq_of_compare h.2)

theorem order_swap (x y : ExactNumber) : order y x = (order x y).swap :=
  Std.OrientedCmp.eq_swap

theorem order_eq_iff {x y : ExactNumber} : order x y = .eq ↔ x = y :=
  Std.LawfulEqCmp.compare_eq_iff_eq

end ExactNumber

theorem LinkKind.name_injective {k k' : LinkKind} (h : k.name = k'.name) : k = k' := by
  revert h; cases k <;> cases k' <;> decide

theorem Tag.name_injective {t u : Tag} (h : t.name = u.name) : t = u := by
  revert h; cases t <;> cases u <;> decide

theorem Tag.name_ne_nil (t : Tag) : t.name ≠ [] := by
  cases t <;> decide

namespace OrderKey

/-! ## Tags -/

/-- The name by which a key is placed among those of other tags. -/
def tagName (k : OrderKey) : Text := (k.tag?.map Tag.name).getD []

theorem compareTags_eq (a b : OrderKey) :
    compareTags a b = (Ord.compare a.rank b.rank).then (Text.order a.tagName b.tagName) := rfl

theorem compareTags_swap (a b : OrderKey) : compareTags b a = (compareTags a b).swap := by
  rw [compareTags_eq, compareTags_eq, Ordering.swap_then, ← Std.OrientedCmp.eq_swap,
    ← Std.OrientedCmp.eq_swap]

theorem compareTags_composes (a b c : OrderKey) :
    Composes (compareTags a b) (compareTags b c) (compareTags a c) :=
  (composes_of_transCmp _ _ _ _).andThen fun _ _ => composes_of_transCmp _ _ _ _

/-- Tags are told apart. -/
theorem compareTags_eq_iff {a b : OrderKey} : compareTags a b = .eq ↔ a.tag? = b.tag? := by
  constructor
  · intro h
    rw [compareTags_eq, Ordering.then_eq_eq] at h
    have hname : a.tagName = b.tagName := Text.order_eq_iff.mp h.2
    unfold tagName at hname
    cases ha : a.tag? with
    | none =>
        cases hb : b.tag? with
        | none => rfl
        | some u => simp [ha, hb, Tag.name_ne_nil] at hname
    | some t =>
        cases hb : b.tag? with
        | none => simp [ha, hb, Tag.name_ne_nil] at hname
        | some u => exact congrArg some (Tag.name_injective (by simpa [ha, hb] using hname))
  · intro h
    have hrank : a.rank = b.rank := by unfold rank; rw [h]
    have hname : a.tagName = b.tagName := by unfold tagName; rw [h]
    rw [compareTags_eq, Ordering.then_eq_eq, hrank, hname]
    exact ⟨Std.ReflOrd.compare_self, Std.ReflCmp.compare_self⟩

/-! ## Keys of one tag -/

mutual
/-- The order of keys of one tag. Keys of different tags are not told apart here. -/
def orderAlike : OrderKey → OrderKey → Ordering
  | .boolean a, .boolean b => Ord.compare a b
  | .number x, .number y => x.order y
  | .string s, .string t => Text.order s t
  | .date i o, .date i' o' => (Ord.compare i i').then (Ord.compare o o')
  | .duration d, .duration d' => Ord.compare d d'
  | .link path kind sub, .link path' kind' sub' =>
    (Text.order path path').then
      ((Text.order kind.name kind'.name).then (Text.order sub sub'))
  | .array items, .array items' => orderItems items items'
  | .object fields, .object fields' =>
    (List.compareLex Text.order (fields.map (·.1)) (fields'.map (·.1))).then
      (orderFields fields fields')
  | _, _ => .eq

/-- The order of lists of keys: the first difference decides, then the length. -/
def orderItems : List OrderKey → List OrderKey → Ordering
  | [], [] => .eq
  | [], _ :: _ => .lt
  | _ :: _, [] => .gt
  | a :: rest, b :: rest' =>
    ((compareTags a b).then (orderAlike a b)).then (orderItems rest rest')

/-- The order of fields with the same names: the first difference decides. -/
def orderFields : List (Text × OrderKey) → List (Text × OrderKey) → Ordering
  | (_, a) :: rest, (_, b) :: rest' =>
    ((compareTags a b).then (orderAlike a b)).then (orderFields rest rest')
  | _, _ => .eq
end

/-- The order of keys: first by tag, then by what is in them. -/
def order (a b : OrderKey) : Ordering := (compareTags a b).then (orderAlike a b)

/-! ### Reversal -/

mutual
theorem orderAlike_swap : ∀ a b : OrderKey, orderAlike b a = (orderAlike a b).swap
  | .array items, b => by
      cases b with
      | array items' => exact orderItems_swap items items'
      | _ => rfl
  | .object fields, b => by
      cases b with
      | object fields' =>
          simp only [orderAlike, Ordering.swap_then, ← Std.OrientedCmp.eq_swap,
            ← orderFields_swap fields fields']
      | _ => rfl
  | .boolean x, b => by
      cases b with
      | boolean y => exact Std.OrientedOrd.eq_swap
      | _ => rfl
  | .number x, b => by
      cases b with
      | number y => exact ExactNumber.order_swap x y
      | _ => rfl
  | .string s, b => by
      cases b with
      | string t => exact Text.order_swap s t
      | _ => rfl
  | .date i o, b => by
      cases b with
      | date i' o' => simp only [orderAlike, Ordering.swap_then, ← Std.OrientedOrd.eq_swap]
      | _ => rfl
  | .duration d, b => by
      cases b with
      | duration d' => exact Std.OrientedOrd.eq_swap
      | _ => rfl
  | .link path kind sub, b => by
      cases b with
      | link path' kind' sub' =>
          simp only [orderAlike, Ordering.swap_then, ← Std.OrientedCmp.eq_swap]
      | _ => rfl
  | .null, b | .untagged, b | .html, b | .function, b => by cases b <;> rfl

theorem orderItems_swap : ∀ as bs : List OrderKey, orderItems bs as = (orderItems as bs).swap
  | [], [] => rfl
  | [], _ :: _ => rfl
  | _ :: _, [] => rfl
  | a :: rest, b :: rest' => by
      simp only [orderItems, Ordering.swap_then, compareTags_swap a b, orderAlike_swap a b,
        orderItems_swap rest rest']

theorem orderFields_swap :
    ∀ fs gs : List (Text × OrderKey), orderFields gs fs = (orderFields fs gs).swap
  | [], [] => rfl
  | [], _ :: _ => rfl
  | _ :: _, [] => rfl
  | (_, a) :: rest, (_, b) :: rest' => by
      simp only [orderFields, Ordering.swap_then, compareTags_swap a b, orderAlike_swap a b,
        orderFields_swap rest rest']
end

/-! ### Transitivity -/

mutual
/-- Keys of one tag are compared transitively. -/
theorem orderAlike_composes : ∀ a b c : OrderKey, a.tag? = b.tag? → b.tag? = c.tag? →
    Composes (orderAlike a b) (orderAlike b c) (orderAlike a c)
  | .array as, b, c, hab, hbc => by
      cases b with
      | array bs =>
          cases c with
          | array cs => exact orderItems_composes as bs cs
          | _ => cases hbc
      | _ => cases hab
  | .object fs, b, c, hab, hbc => by
      cases b with
      | object gs =>
          cases c with
          | object hs =>
              refine (composes_of_transCmp _ _ _ _).andThen fun hfg hgh => ?_
              exact orderFields_composes fs gs hs
                (Std.LawfulEqCmp.eq_of_compare hfg) (Std.LawfulEqCmp.eq_of_compare hgh)
          | _ => cases hbc
      | _ => cases hab
  | .boolean x, b, c, hab, hbc => by
      cases b with
      | boolean y =>
          cases c with
          | boolean z => exact composes_of_transCmp Ord.compare x y z
          | _ => cases hbc
      | _ => cases hab
  | .number x, b, c, hab, hbc => by
      cases b with
      | number y =>
          cases c with
          | number z => exact composes_of_transCmp ExactNumber.order x y z
          | _ => cases hbc
      | _ => cases hab
  | .string s, b, c, hab, hbc => by
      cases b with
      | string t =>
          cases c with
          | string u => exact composes_of_transCmp Text.order s t u
          | _ => cases hbc
      | _ => cases hab
  | .date .., b, c, hab, hbc => by
      cases b with
      | date =>
          cases c with
          | date =>
              exact (composes_of_transCmp _ _ _ _).andThen
                fun _ _ => composes_of_transCmp _ _ _ _
          | _ => cases hbc
      | _ => cases hab
  | .duration d, b, c, hab, hbc => by
      cases b with
      | duration e =>
          cases c with
          | duration f => exact composes_of_transCmp Ord.compare d e f
          | _ => cases hbc
      | _ => cases hab
  | .link .., b, c, hab, hbc => by
      cases b with
      | link =>
          cases c with
          | link =>
              exact (composes_of_transCmp _ _ _ _).andThen fun _ _ =>
                (composes_of_transCmp _ _ _ _).andThen
                  fun _ _ => composes_of_transCmp _ _ _ _
          | _ => cases hbc
      | _ => cases hab
  | .null, b, c, hab, hbc | .untagged, b, c, hab, hbc | .html, b, c, hab, hbc
  | .function, b, c, hab, hbc => by
      cases b <;> cases hab
      cases c <;> cases hbc
      exact composes_eq

theorem orderItems_composes : ∀ as bs cs : List OrderKey,
    Composes (orderItems as bs) (orderItems bs cs) (orderItems as cs)
  | [], [], [] => composes_eq
  | [], [], _ :: _ => ⟨fun _ => rfl, nofun, nofun⟩
  | [], _ :: _, [] => ⟨nofun, nofun, nofun⟩
  | _ :: _, [], [] => ⟨nofun, fun _ => rfl, nofun⟩
  | _ :: _, [], _ :: _ => ⟨nofun, nofun, nofun⟩
  | [], b :: bs, c :: cs => by
      refine ⟨nofun, fun _ => rfl, fun _ => rfl⟩
  | a :: as, b :: bs, [] => by
      refine ⟨fun _ => rfl, nofun, fun h => h.symm⟩
  | a :: as, b :: bs, c :: cs => by
      refine Composes.andThen ?_ fun _ _ => orderItems_composes as bs cs
      refine (compareTags_composes a b c).andThen fun hab hbc => ?_
      exact orderAlike_composes a b c (compareTags_eq_iff.mp hab) (compareTags_eq_iff.mp hbc)

theorem orderFields_composes : ∀ fs gs hs : List (Text × OrderKey),
    fs.map (·.1) = gs.map (·.1) → gs.map (·.1) = hs.map (·.1) →
    Composes (orderFields fs gs) (orderFields gs hs) (orderFields fs hs)
  | [], [], [], _, _ => composes_eq
  | (_, a) :: fs, (_, b) :: gs, (_, c) :: hs, hfg, hgh => by
      rw [List.map_cons, List.map_cons, List.cons.injEq] at hfg hgh
      refine Composes.andThen ?_ fun _ _ => orderFields_composes fs gs hs hfg.2 hgh.2
      refine (compareTags_composes a b c).andThen fun hab hbc => ?_
      exact orderAlike_composes a b c (compareTags_eq_iff.mp hab) (compareTags_eq_iff.mp hbc)
end

/-! ### Equality -/

mutual
/-- Keys of one tag between which there is no difference are the same. -/
theorem eq_of_orderAlike :
    ∀ a b : OrderKey, a.tag? = b.tag? → orderAlike a b = .eq → a = b
  | .array items, b, hab, h => by
      cases b with
      | array items' => rw [eq_of_orderItems items items' h]
      | _ => cases hab
  | .object fields, b, hab, h => by
      cases b with
      | object fields' =>
          have h := Ordering.then_eq_eq.mp h
          have hnames := Std.LawfulEqCmp.eq_of_compare h.1
          rw [eq_of_orderFields fields fields' hnames h.2]
      | _ => cases hab
  | .boolean x, b, hab, h => by
      cases b with
      | boolean y => rw [show x = y from Std.LawfulEqOrd.eq_of_compare h]
      | _ => cases hab
  | .number x, b, hab, h => by
      cases b with
      | number y => rw [ExactNumber.order_eq_iff.mp h]
      | _ => cases hab
  | .string s, b, hab, h => by
      cases b with
      | string t => rw [Text.order_eq_iff.mp h]
      | _ => cases hab
  | .date i o, b, hab, h => by
      cases b with
      | date i' o' =>
          have h := Ordering.then_eq_eq.mp h
          rw [Std.LawfulEqOrd.eq_of_compare h.1, Std.LawfulEqOrd.eq_of_compare h.2]
      | _ => cases hab
  | .duration d, b, hab, h => by
      cases b with
      | duration d' => rw [show d = d' from Std.LawfulEqOrd.eq_of_compare h]
      | _ => cases hab
  | .link path kind sub, b, hab, h => by
      cases b with
      | link path' kind' sub' =>
          have h := Ordering.then_eq_eq.mp h
          have h' := Ordering.then_eq_eq.mp h.2
          rw [Text.order_eq_iff.mp h.1, Text.order_eq_iff.mp h'.2,
            LinkKind.name_injective (Text.order_eq_iff.mp h'.1)]
      | _ => cases hab
  | .null, b, hab, _ | .untagged, b, hab, _ | .html, b, hab, _ | .function, b, hab, _ => by
      cases b <;> cases hab
      rfl

theorem eq_of_orderItems : ∀ as bs : List OrderKey, orderItems as bs = .eq → as = bs
  | [], [], _ => rfl
  | a :: as, b :: bs, h => by
      have h := Ordering.then_eq_eq.mp h
      have hab := Ordering.then_eq_eq.mp h.1
      rw [eq_of_orderAlike a b (compareTags_eq_iff.mp hab.1) hab.2, eq_of_orderItems as bs h.2]

theorem eq_of_orderFields : ∀ fs gs : List (Text × OrderKey),
    fs.map (·.1) = gs.map (·.1) → orderFields fs gs = .eq → fs = gs
  | [], [], _, _ => rfl
  | (n, a) :: fs, (m, b) :: gs, hnames, h => by
      rw [List.map_cons, List.map_cons, List.cons.injEq] at hnames
      have h := Ordering.then_eq_eq.mp h
      have hab := Ordering.then_eq_eq.mp h.1
      rw [show n = m from hnames.1, eq_of_orderAlike a b (compareTags_eq_iff.mp hab.1) hab.2,
        eq_of_orderFields fs gs hnames.2 h.2]
end

/-! ## The order is linear -/

instance instTransCmpOrder : Std.TransCmp order where
  eq_swap {a b} := by
    rw [order, order, Ordering.swap_then, ← compareTags_swap, ← orderAlike_swap]
  isLE_trans {a b c} hab hbc := by
    have h : Composes (order a b) (order b c) (order a c) := by
      refine (compareTags_composes a b c).andThen fun h₁ h₂ => ?_
      exact orderAlike_composes a b c (compareTags_eq_iff.mp h₁) (compareTags_eq_iff.mp h₂)
    exact h.isLE hab hbc

instance instLawfulEqCmpOrder : Std.LawfulEqCmp order where
  eq_of_compare {a b} h := by
    have h := Ordering.then_eq_eq.mp h
    exact eq_of_orderAlike a b (compareTags_eq_iff.mp h.1) h.2

theorem order_swap (a b : OrderKey) : order b a = (order a b).swap := Std.OrientedCmp.eq_swap

/-- Two keys are equal in the order only if they are the same. -/
theorem order_eq_iff {a b : OrderKey} : order a b = .eq ↔ a = b :=
  Std.LawfulEqCmp.compare_eq_iff_eq

/-- Between keys of one tag the tags do not matter. -/
theorem order_of_tag_eq {a b : OrderKey} (h : a.tag? = b.tag?) : order a b = orderAlike a b := by
  rw [order, compareTags_eq_iff.mpr h]
  rfl

end OrderKey
end NoteVault
