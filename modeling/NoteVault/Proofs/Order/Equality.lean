import NoteVault.Proofs.Order.Comparable

/-!
# Equality in the order

Two comparable values are equal in the order exactly if they are the same literal. What
that means is said here without the order: `Value.Alike` goes down two values side by
side. Numbers count by what they denote, dates by instant and offset, links by what they
point at, arrays element by element, and objects by what they hold under each name.

The order finds no difference between two values if and only if they have one order key,
so the theorem is about keys: one induction over the value reads an equal key back into
likeness, and one over likeness builds the equal key.

## Main results

* `Value.literalKey_eq_iff_alike` — values have one key exactly if they are alike.
* `Value.equals_iff_alike` — comparable values are equal exactly if they are alike.
-/

namespace NoteVault

/-- The value that entries have under a name: that of the last entry whose key has that
text. -/
def Entries.named? {α : Type} (name : Text) (entries : List (Key × α)) : Option α :=
  lastUnder name (entries.map fun e => (e.1.text, e.2))

namespace Value

/-- Two values are the same literal. -/
inductive Alike : Value → Value → Prop where
  /-- Both are null. -/
  | null : Alike null null
  /-- Neither has a tag. -/
  | untagged {a b : Value} (ha : a.tag? = none) (hb : b.tag? = none) : Alike a b
  /-- Both are numbers that denote the same. -/
  | number {x y : Number} (h : x.quantity = y.quantity) : Alike (number x) (number y)
  /-- Both are the same truth value. -/
  | bool (b : Bool) : Alike (bool b) (bool b)
  /-- Both are the same text. -/
  | string (s : Text) : Alike (string s) (string s)
  /-- Both are durations of one length. -/
  | duration {d e : Duration} (h : d.micros = e.micros) : Alike (duration d) (duration e)
  /-- Both are dates with one instant and one offset, if any. -/
  | date {m n : Moment} (hinstant : m.instant = n.instant) (hoffset : m.offset = n.offset) :
    Alike (date m) (date n)
  /-- Both are markup. -/
  | html (s t : Text) : Alike (html s) (html t)
  /-- Both are functions. -/
  | function {a b : Value} (ha : a.tag? = some .function) (hb : b.tag? = some .function) :
    Alike a b
  /-- Both are links to one place. -/
  | link {l m : Link} (hpath : l.path = m.path) (hkind : l.kind = m.kind)
    (hsubpath : l.subpath? = m.subpath?) : Alike (link l) (link m)
  /-- Both are arrays, of either kind, whose elements are alike one by one. -/
  | array {kind kind' : ArrayKind} {items items' : List Value}
    (hlength : items.length = items'.length)
    (hitems : ∀ (i : Nat) (h : i < items.length) (h' : i < items'.length),
      Alike items[i] items'[i]) :
    Alike (array kind items) (array kind' items')
  /-- Both are objects that have a value under the same names, and like values under each. -/
  | object {entries entries' : List (Key × Value)}
    (hnames : ∀ name, (Entries.named? name entries).isSome = (Entries.named? name entries').isSome)
    (hvalues : ∀ name v w, Entries.named? name entries = some v →
      Entries.named? name entries' = some w → Alike v w) :
    Alike (object entries) (object entries')

/-! ## Keys of parts -/

theorem orderKeys_eq_map (normalize : Text → Text) (items : List Value) :
    orderKeys normalize items = items.map (orderKey normalize) := by
  induction items with
  | nil => rfl
  | cons v rest ih => rw [orderKeys, ih, List.map_cons]

theorem fieldKeys_eq_map (normalize : Text → Text) (entries : List (Key × Value)) :
    fieldKeys normalize entries = entries.map fun e => (e.1.text, e.2.orderKey normalize) := by
  induction entries with
  | nil => rfl
  | cons e rest ih =>
      obtain ⟨k, v⟩ := e
      rw [fieldKeys, ih, List.map_cons]

theorem lastUnder_map {α β : Type} (name : Text) (f : α → β) (pairs : List (Text × α)) :
    lastUnder name (pairs.map fun p => (p.1, f p.2)) = (lastUnder name pairs).map f := by
  have hfilter : (pairs.map fun p => (p.1, f p.2)).filter (fun p => p.1 = name) =
      (pairs.filter fun p => p.1 = name).map fun p => (p.1, f p.2) := by
    rw [List.filter_map]
    rfl
  rw [lastUnder, lastUnder, hfilter, List.getLast?_map, Option.map_map, Option.map_map]
  rfl

/-- The fields of an object's key hold under each name the key of the value there. -/
theorem lastUnder_fieldKeys (normalize : Text → Text) (name : Text) (entries : List (Key × Value)) :
    lastUnder name (fieldKeys normalize entries) =
      (Entries.named? name entries).map (orderKey normalize) := by
  rw [fieldKeys_eq_map, Entries.named?, ← lastUnder_map, List.map_map]
  rfl

theorem mem_of_named? {name : Text} {v : Value} {entries : List (Key × Value)}
    (h : Entries.named? name entries = some v) : ∃ e ∈ entries, e.2 = v := by
  obtain ⟨e, he, heq⟩ := List.mem_map.mp (mem_of_lastUnder h)
  exact ⟨e, he, congrArg (·.2) heq⟩

/-- Links with one kind have one subpath if they have one when a missing one is empty. -/
theorem subpath?_eq_of_getD {l m : Link} (hkind : l.kind = m.kind)
    (h : l.subpath?.getD [] = m.subpath?.getD []) : l.subpath? = m.subpath? := by
  obtain ⟨_, target, _, _⟩ := l
  obtain ⟨_, target', _, _⟩ := m
  cases target <;> cases target' <;> first | (cases hkind; done) | rfl | exact congrArg some h

/-! ## Equal keys and likeness -/

/-- What the order sees of a value when paths are taken as they are. -/
abbrev literalKey (v : Value) : OrderKey := v.orderKey fun path => path

mutual
/-- Values with one key are alike. -/
theorem alike_of_literalKey : ∀ {a b : Value}, a.literalKey = b.literalKey → Alike a b
  | .null, b, h => by
      cases b with
      | null => exact .null
      | _ => cases h
  | .bool x, b, h => by
      cases b with
      | bool y => cases h; exact .bool x
      | _ => cases h
  | .number x, b, h => by
      cases b with
      | number y => exact .number (Number.quantity_eq_iff.mpr (OrderKey.number.inj h))
      | _ => cases h
  | .string s, b, h => by
      cases b with
      | string t => cases h; exact .string s
      | _ => cases h
  | .date m, b, h => by
      cases b with
      | date n =>
          obtain ⟨hinstant, hoffset⟩ := OrderKey.date.inj h
          exact .date hinstant hoffset
      | _ => cases h
  | .duration d, b, h => by
      cases b with
      | duration e => exact .duration (OrderKey.duration.inj h)
      | _ => cases h
  | .html s, b, h => by
      cases b with
      | html t => exact .html s t
      | _ => cases h
  | .array _ items, b, h => by
      cases b with
      | array _ items' =>
          obtain ⟨hlength, hitems⟩ := alike_of_orderKeys (OrderKey.array.inj h)
          exact .array hlength hitems
      | _ => cases h
  | .link l, b, h => by
      cases b with
      | link m =>
          obtain ⟨hpath, hkind, hsubpath⟩ := OrderKey.link.inj h
          exact .link hpath hkind (subpath?_eq_of_getD hkind hsubpath)
      | _ => cases h
  | .function, b, h | .callable _, b, h => by
      cases b <;> first | (cases h; done) | exact .function rfl rfl
  | .object entries, b, h => by
      cases b with
      | object entries' =>
          have hfields (name : Text) := sortFields_eq_iff.mp (OrderKey.object.inj h) name
          simp only [lastUnder_fieldKeys] at hfields
          refine .object (fun name => ?_) fun name v w hv hw => ?_
          · rw [← Option.isSome_map, hfields name, Option.isSome_map]
          · have hvw := hfields name
            rw [hv, hw] at hvw
            obtain ⟨e, he, rfl⟩ := mem_of_named? hv
            exact alike_of_entry entries e he (Option.some.inj hvw)
      | _ => cases h
  | .task _, b, h | .flat _, b, h | .grouped _, b, h | .untagged, b, h => by
      cases b <;> first | (cases h; done) | exact .untagged rfl rfl

theorem alike_of_orderKeys : ∀ {items items' : List Value},
    orderKeys (fun path => path) items = orderKeys (fun path => path) items' →
    items.length = items'.length ∧
      ∀ (i : Nat) (h : i < items.length) (h' : i < items'.length), Alike items[i] items'[i]
  | [], [], _ => ⟨rfl, nofun⟩
  | v :: rest, w :: rest', h => by
      obtain ⟨hhead, htail⟩ := List.cons.inj h
      obtain ⟨hlength, hitems⟩ := alike_of_orderKeys htail
      refine ⟨congrArg (· + 1) hlength, fun i hi hi' => ?_⟩
      cases i with
      | zero => exact alike_of_literalKey hhead
      | succ i => exact hitems i (Nat.lt_of_succ_lt_succ hi) (Nat.lt_of_succ_lt_succ hi')

theorem alike_of_entry : ∀ (entries : List (Key × Value)) (e : Key × Value), e ∈ entries →
    ∀ {w : Value}, e.2.literalKey = w.literalKey → Alike e.2 w
  | [], _, he, _, _ => absurd he List.not_mem_nil
  | (k, v) :: rest, e, he, w, h => by
      rcases List.mem_cons.mp he with rfl | he
      · exact alike_of_literalKey h
      · exact alike_of_entry rest e he h
end

theorem literalKey_of_untagged {a : Value} (h : a.tag? = none) : a.literalKey = .untagged := by
  cases a <;> first | (cases h; done) | rfl

theorem literalKey_of_function {a : Value} (h : a.tag? = some .function) :
    a.literalKey = .function := by
  cases a <;> first | (cases h; done) | rfl

/-- Values that are alike have one key. -/
theorem literalKey_of_alike {a b : Value} (h : Alike a b) : a.literalKey = b.literalKey := by
  induction h with
  | null => rfl
  | untagged ha hb => rw [literalKey_of_untagged ha, literalKey_of_untagged hb]
  | number h => exact congrArg OrderKey.number (Number.quantity_eq_iff.mp h)
  | bool b => rfl
  | string s => rfl
  | duration h => exact congrArg OrderKey.duration h
  | date hinstant hoffset =>
      rw [literalKey, literalKey, orderKey, orderKey, hinstant, hoffset]
  | html s t => rfl
  | function ha hb => rw [literalKey_of_function ha, literalKey_of_function hb]
  | link hpath hkind hsubpath =>
      rw [literalKey, literalKey, orderKey, orderKey, hpath, hkind, hsubpath]
  | array hlength _ ih =>
      refine congrArg OrderKey.array ?_
      rw [orderKeys_eq_map, orderKeys_eq_map]
      refine List.ext_getElem (by simpa using hlength) fun i hi hi' => ?_
      rw [List.getElem_map, List.getElem_map]
      exact ih i _ _
  | @object entries entries' hnames _ ih =>
      refine congrArg OrderKey.object (sortFields_eq_iff.mpr fun name => ?_)
      rw [lastUnder_fieldKeys, lastUnder_fieldKeys]
      have hname := hnames name
      cases hv : Entries.named? name entries with
      | none =>
          rw [hv, Option.isSome_none, eq_comm, Option.isSome_eq_false_iff,
            Option.isNone_iff_eq_none] at hname
          rw [hname]
      | some v =>
          rw [hv, Option.isSome_some, eq_comm, Option.isSome_iff_exists] at hname
          obtain ⟨w, hw⟩ := hname
          rw [hw]
          exact congrArg some (ih name v w hv hw)

/-- Values have one key exactly if they are alike. -/
theorem literalKey_eq_iff_alike {a b : Value} : a.literalKey = b.literalKey ↔ Alike a b :=
  ⟨alike_of_literalKey, literalKey_of_alike⟩

/-- Comparable values are equal exactly if the order of their keys finds no difference. -/
theorem equals_eq_true_iff {a b : Value} (ha : a.isComparable fun path => path)
    (hb : b.isComparable fun path => path) :
    a.equals b = .ok true ↔ a.literalKey.order b.literalKey = .eq := by
  rw [equals, compare, compareBy_eq_order ha hb]
  exact ⟨fun h => beq_iff_eq.mp (Except.ok.inj h), fun h => congrArg Except.ok (beq_iff_eq.mpr h)⟩

/-- **Comparable values are equal exactly if they are the same literal.** -/
theorem equals_iff_alike (a b : Value) (ha : a.isComparable fun path => path)
    (hb : b.isComparable fun path => path) :
    ∃ answer, a.equals b = .ok answer ∧ (answer = true ↔ Alike a b) := by
  refine ⟨a.literalKey.order b.literalKey == .eq, ?_, ?_⟩
  · rw [equals, compare, compareBy_eq_order ha hb]
    rfl
  · rw [beq_iff_eq, OrderKey.order_eq_iff, literalKey_eq_iff_alike]

/-- Two objects that list their entries in another order, one of them with two keys of one
text, are the same. -/
theorem alike_reordered :
    Alike
      (object [(.number (.int 1), null), (.string ['a'], list [int 2, bool true]),
        (.string ['1'], string ['x'])])
      (object [(.string ['1'], string ['x']),
        (.string ['a'], array .tuple [int 2, bool true])]) := by
  obtain ⟨answer, hanswer, halike⟩ := equals_iff_alike
    (object [(.number (.int 1), null), (.string ['a'], list [int 2, bool true]),
      (.string ['1'], string ['x'])])
    (object [(.string ['1'], string ['x']), (.string ['a'], array .tuple [int 2, bool true])])
    (by decide +kernel) (by decide +kernel)
  have htrue : (Except.ok answer : Except OrderError Bool).toOption = some true := by
    rw [← hanswer]
    decide +kernel
  exact halike.mp (Option.some.inj htrue)

end Value
end NoteVault
