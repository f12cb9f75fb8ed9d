import NoteVault.Proofs.Calendar.Fields
import NoteVault.Proofs.Number.Integers
import NoteVault.Proofs.Order.Equality
import NoteVault.Value.Display
import NoteVault.Value.Truth

/-!
# Equal values look the same

Values that are equal in the order can be made differently: an integer and a binary64 number, the
two zeros, a list and a tuple, a day and its midnight. A reader does not notice. They have one tag,
count as true together, and are shown in the same way, since what is shown of a number is what it
denotes and what is shown of a date are its fields.

Links, markup and objects are left out of the last. The order does not look at how a link is
displayed, at what is in markup, or at the order of entries, and all of these are shown.

## Main results

* `Number.headingText_eq_of_exact` — numbers that denote the same are shown in the same way.
* `Value.dateText_eq` — so are dates with one instant and one offset.
* `Value.equals_looksLike` — equal values look the same, and have one heading.
-/

namespace NoteVault

/-! ## Numbers -/

namespace Number

variable {x y : Number} {n : Int}

theorem isZero_iff : x.isZero = true ↔ x.exact = .finite 0 := by
  match x with
  | .int n =>
      have hpos : (unitsPerOne : Int) ≠ 0 := Int.natCast_ne_zero.mpr unitsPerOne_ne_zero
      rw [isZero, decide_eq_true_iff, exact, ExactNumber.finite.injEq, Int.mul_eq_zero,
        or_iff_left hpos]
  | .float .nan => simp [isZero, exact]
  | .float (.infinite negative) => cases negative <;> simp [isZero, exact]
  | .float (.finite negative m) => cases negative <;> simp [isZero, exact]

/-- A number that denotes an integer is shown as that integer. -/
theorem headingText_of_whole (h : x.exact = .finite (n * unitsPerOne)) :
    x.headingText = Text.ofInt n := by
  have hpos : (unitsPerOne : Int) ≠ 0 := Int.natCast_ne_zero.mpr unitsPerOne_ne_zero
  match x with
  | .int m => rw [headingText, Int.eq_of_mul_eq_mul_right hpos (ExactNumber.finite.inj h)]
  | .float .nan => cases h
  | .float (.infinite negative) => cases negative <;> cases h
  | .float (.finite negative m) =>
      have hsigned := ExactNumber.finite.inj h
      have hunits : m.units = n.natAbs * unitsPerOne := by
        have habs := congrArg Int.natAbs hsigned
        rw [Int.natAbs_mul, Int.natAbs_natCast] at habs
        rw [← habs]
        cases negative <;> simp
      have hwhole : m.isWhole = true := by
        rw [Magnitude.isWhole, hunits, Nat.mul_mod_left]
        rfl
      have hvalue : (if negative then -(m.whole : Int) else m.whole) = n := by
        refine Int.eq_of_mul_eq_mul_right hpos ?_
        rw [← hsigned, Magnitude.whole, hunits, Nat.mul_div_cancel _ unitsPerOne_pos,
          Int.natCast_mul]
        cases negative
        · rw [if_neg Bool.false_ne_true, if_neg Bool.false_ne_true]
        · rw [if_pos rfl, if_pos rfl, Int.neg_mul]
      rw [headingText, if_pos hwhole, hvalue]

/-- Numbers that denote the same but no integer are the same number: only the zeros, and integers,
are made differently. -/
theorem eq_of_exact (h : x.exact = y.exact) (hx : ∀ n : Int, x.exact ≠ .finite (n * unitsPerOne)) :
    x = y := by
  match x, y with
  | .int n, _ => exact absurd rfl (hx n)
  | .float x, .int n => exact absurd h (hx n)
  | .float .nan, .float .nan => rfl
  | .float .nan, .float (.infinite negative) => cases negative <;> cases h
  | .float .nan, .float (.finite _ _) => cases h
  | .float (.infinite negative), .float .nan => cases negative <;> cases h
  | .float (.infinite negative), .float (.infinite negative') =>
      cases negative <;> cases negative' <;> first | rfl | cases h
  | .float (.infinite negative), .float (.finite _ _) => cases negative <;> cases h
  | .float (.finite _ _), .float .nan => cases h
  | .float (.finite _ _), .float (.infinite negative) => cases negative <;> cases h
  | .float (.finite negative m), .float (.finite negative' m') =>
      have hunits := ExactNumber.finite.inj h
      have hpos : m.units ≠ 0 := by
        intro hzero
        apply hx 0
        show ExactNumber.finite (if negative then -(m.units : Int) else m.units) =
          .finite (0 * unitsPerOne)
        rw [hzero, Int.zero_mul, Int.natCast_zero, Int.neg_zero, ite_self]
      have hmagnitude : m = m' := by
        refine Magnitude.ext_units ?_
        cases negative <;> cases negative' <;> simp at hunits <;> omega
      have hsign : negative = negative' := by
        cases negative <;> cases negative' <;> simp at hunits <;> first | rfl | omega
      rw [hmagnitude, hsign]

/-- **Numbers that denote the same are shown in the same way.** -/
theorem headingText_eq_of_exact (h : x.exact = y.exact) : x.headingText = y.headingText := by
  by_cases hwhole : ∃ n : Int, x.exact = .finite (n * unitsPerOne)
  · obtain ⟨n, hx⟩ := hwhole
    rw [headingText_of_whole hx, headingText_of_whole (h ▸ hx)]
  · rw [eq_of_exact h (not_exists.mp hwhole)]

end Number

/-! ## Dates -/

namespace Value

theorem showsDayOnly_eq (m : Moment) : showsDayOnly m =
    (m.toDateTime.hour = 0 && m.toDateTime.minute = 0 && m.toDateTime.second = 0) := by
  cases m <;> rfl

/-- **Dates with one instant and one offset are shown in the same way**: they have one time of
day, and whether it is shown hangs on nothing else. -/
theorem dateText_eq (settings : Settings) {m n : Moment} (hinstant : m.instant = n.instant)
    (hoffset : m.offset = n.offset) : dateText settings m = dateText settings n := by
  have htime : m.toDateTime = n.toDateTime := DateTime.eq_of_instant hinstant hoffset
  unfold dateText Moment.format
  rw [showsDayOnly_eq, showsDayOnly_eq, htime]

/-! ## Values -/

mutual
/-- Whether a value has no link, markup or object in it, at any depth. -/
def isPlain : Value → Bool
  | .array _ items => arePlain items
  | .link _ | .html _ | .object _ => false
  | _ => true

/-- Whether some values have no link, markup or object in them. -/
def arePlain : List Value → Bool
  | [] => true
  | v :: rest => isPlain v && arePlain rest
end

theorem arePlain_iff {items : List Value} :
    arePlain items = true ↔ ∀ v ∈ items, v.isPlain = true := by
  induction items with
  | nil => simp [arePlain]
  | cons v rest ih => rw [arePlain, Bool.and_eq_true, ih, List.forall_mem_cons]

theorem displayItems_eq_map (settings : Settings) (items : List Value) :
    displayItems settings items = items.map (display settings true) := by
  induction items with
  | nil => rfl
  | cons v rest ih => rw [displayItems, ih, List.map_cons]

variable {a b : Value}

theorem Alike.tag?_eq (h : Alike a b) : a.tag? = b.tag? := by
  cases h with
  | untagged ha hb => rw [ha, hb]
  | function ha hb => rw [ha, hb]
  | _ => rfl

theorem truthy_of_untagged (h : a.tag? = none) : a.truthy = .ok false := by
  cases a <;> first | (cases h; done) | rfl

theorem truthy_of_function (h : a.tag? = some .function) : a.truthy = .ok true := by
  cases a <;> first | (cases h; done) | rfl

theorem isSome_named?_iff {name : Text} {entries : List (Key × Value)} :
    (Entries.named? name entries).isSome = true ↔ ∃ e ∈ entries, e.1.text = name := by
  constructor
  · intro h
    obtain ⟨v, hv⟩ := Option.isSome_iff_exists.mp h
    obtain ⟨e, he, heq⟩ := List.mem_map.mp (mem_of_lastUnder hv)
    exact ⟨e, he, congrArg Prod.fst heq⟩
  · rintro ⟨e, he, rfl⟩
    rw [Entries.named?, lastUnder, Option.isSome_map, List.getLast?_isSome]
    refine List.ne_nil_of_mem (List.mem_filter.mpr ⟨List.mem_map_of_mem he, ?_⟩)
    exact decide_eq_true rfl

/-- Objects with values under the same names are empty together. -/
theorem isEmpty_eq_of_named? {entries entries' : List (Key × Value)}
    (h : ∀ name, (Entries.named? name entries).isSome = (Entries.named? name entries').isSome) :
    entries.isEmpty = entries'.isEmpty := by
  have hsome (name : Text) := Bool.eq_iff_iff.mp (h name)
  simp only [isSome_named?_iff] at hsome
  match entries, entries' with
  | [], [] => rfl
  | [], e :: _ =>
      obtain ⟨_, hnil, _⟩ := (hsome e.1.text).mpr ⟨e, List.mem_cons_self, rfl⟩
      cases hnil
  | e :: _, [] =>
      obtain ⟨_, hnil, _⟩ := (hsome e.1.text).mp ⟨e, List.mem_cons_self, rfl⟩
      cases hnil
  | _ :: _, _ :: _ => rfl

/-- Values that are alike count as true together. -/
theorem Alike.truthy_eq (h : Alike a b) : a.truthy = b.truthy := by
  cases h with
  | untagged ha hb => rw [truthy_of_untagged ha, truthy_of_untagged hb]
  | function ha hb => rw [truthy_of_function ha, truthy_of_function hb]
  | @number x y h =>
      have hzero : x.isZero = y.isZero := by
        rw [Bool.eq_iff_iff, Number.isZero_iff, Number.isZero_iff, Number.quantity_eq_iff.mp h]
      rw [truthy, truthy, hzero]
  | duration h => rw [truthy, truthy, h]
  | date hinstant _ => rw [truthy, truthy, hinstant]
  | link hpath _ _ => rw [truthy, truthy, hpath]
  | @array _ _ items items' hlength _ =>
      have hempty : items.isEmpty = items'.isEmpty := by
        rw [Bool.eq_iff_iff, List.isEmpty_iff_length_eq_zero, List.isEmpty_iff_length_eq_zero,
          hlength]
      rw [truthy, truthy, hempty]
  | object hnames _ => rw [truthy, truthy, isEmpty_eq_of_named? hnames]
  | _ => rfl

/-- A comparable value counts as true or not. -/
theorem exists_truthy (h : a.isComparable fun path => path) : ∃ answer, a.truthy = .ok answer := by
  cases a with
  | date m =>
      have hinside : Moment.isInCalendar m.instant = true := isComparable_orderKey h
      rw [truthy, if_pos hinside]
      exact ⟨_, rfl⟩
  | _ => exact ⟨_, rfl⟩

theorem display_array (settings : Settings) (nested : Bool) (kind : ArrayKind)
    (items : List Value) : (array kind items).display settings nested =
      if nested then '[' :: Text.joinWith ", " (displayItems settings items) ++ [']']
      else Text.joinWith ", " (displayItems settings items) := rfl

theorem display_of_untagged (settings : Settings) (nested : Bool) (h : a.tag? = none) :
    a.display settings nested = "null" := by
  cases a <;> first | (cases h; done) | rfl

theorem display_of_function (settings : Settings) (nested : Bool) (h : a.tag? = some .function) :
    a.display settings nested = "<function>" := by
  cases a <;> first | (cases h; done) | rfl

/-- Values that are alike are shown in the same way, if they are plain. -/
theorem Alike.display_eq (settings : Settings) (h : Alike a b) :
    ∀ nested, a.isPlain = true → a.display settings nested = b.display settings nested := by
  induction h with
  | null => exact fun _ _ => rfl
  | untagged ha hb =>
      intro nested _
      rw [display_of_untagged settings nested ha, display_of_untagged settings nested hb]
  | function ha hb =>
      intro nested _
      rw [display_of_function settings nested ha, display_of_function settings nested hb]
  | number h =>
      exact fun _ _ => Number.headingText_eq_of_exact (Number.quantity_eq_iff.mp h)
  | bool b => exact fun _ _ => rfl
  | string s => exact fun _ _ => rfl
  | @duration d e h =>
      intro nested _
      show d.minimalText = e.minimalText
      rw [Duration.minimalText, Duration.minimalText, h]
  | date hinstant hoffset => exact fun _ _ => dateText_eq settings hinstant hoffset
  | html s t => exact fun _ hplain => nomatch hplain
  | link => exact fun _ hplain => nomatch hplain
  | object => exact fun _ hplain => nomatch hplain
  | @array kind kind' items items' hlength _ ih =>
      intro nested hplain
      have hitems : displayItems settings items = displayItems settings items' := by
        rw [displayItems_eq_map, displayItems_eq_map]
        refine List.ext_getElem (by simpa using hlength) fun i hi hi' => ?_
        rw [List.getElem_map, List.getElem_map]
        exact ih i _ _ true (arePlain_iff.mp hplain _ (List.getElem_mem _))
      rw [display_array, display_array, hitems]

theorem isShowable_of_fitsBinary64 {x : Number} (h : x.fitsBinary64) :
    (number x).isShowable = true := by
  cases x with
  | float x => rfl
  | int n =>
      rw [isShowable]
      exact Number.isWritable_of_fits h

mutual
/-- A comparable value can be shown: its integers have few digits. -/
theorem isShowable_of_isComparable : ∀ {v : Value}, v.isComparable (fun path => path) →
    v.isShowable = true
  | .number _, h => isShowable_of_fitsBinary64 h
  | .array _ _, h => areShowable_of_allComparable h
  | .object _, h => areEntriesShowable_of_entriesComparable h
  | .null, _ | .bool _, _ | .string _, _ | .date _, _ | .duration _, _ | .html _, _ => rfl
  | .link _, _ | .function, _ | .callable _, _ | .task _, _ | .flat _, _ | .grouped _, _ => rfl
  | .untagged, _ => rfl

theorem areShowable_of_allComparable : ∀ {items : List Value},
    allComparable (fun path => path) items → areShowable items = true
  | [], _ => rfl
  | v :: rest, h => by
      rw [allComparable, Bool.and_eq_true] at h
      rw [areShowable, isShowable_of_isComparable h.1, areShowable_of_allComparable h.2]
      rfl

theorem areEntriesShowable_of_entriesComparable : ∀ {entries : List (Key × Value)},
    entriesComparable (fun path => path) entries → areEntriesShowable entries = true
  | [], _ => rfl
  | (k, v) :: rest, h => by
      rw [entriesComparable, Bool.and_eq_true, Bool.and_eq_true] at h
      rw [areEntriesShowable, isShowable_of_isComparable h.1.2,
        areEntriesShowable_of_entriesComparable h.2]
      rfl
end

/-- Two values look the same to a reader with some settings. -/
structure LooksLike (settings : Settings) (a b : Value) : Prop where
  /-- They have one tag, or both have none. -/
  tag : a.tag? = b.tag?
  /-- They count as true together. -/
  truthy : ∃ answer, a.truthy = .ok answer ∧ b.truthy = .ok answer
  /-- Without links, markup and objects they are shown in the same way, inside another value and
  on their own. -/
  shown : a.isPlain = true → b.isPlain = true → a.isShowable = true ∧ b.isShowable = true ∧
    ∀ nested, a.display settings nested = b.display settings nested
  /-- They then have one heading. -/
  heading : a.isPlain = true → b.isPlain = true → a.headingText settings = b.headingText settings

theorem headingText_eq (settings : Settings) (v : Value) : v.headingText settings =
    if v.tag? = some .null then settings.nullText else v.display settings false := by
  cases v <;> rfl

theorem looksLike_of_equals (settings : Settings) (ha : a.isComparable fun path => path)
    (hb : b.isComparable fun path => path) (h : a.equals b = .ok true) :
    LooksLike settings a b := by
  have hkeys : a.literalKey = b.literalKey :=
    OrderKey.order_eq_iff.mp ((equals_eq_true_iff ha hb).mp h)
  have halike : Alike a b := literalKey_eq_iff_alike.mp hkeys
  constructor
  · exact halike.tag?_eq
  · obtain ⟨answer, hanswer⟩ := exists_truthy ha
    exact ⟨answer, hanswer, halike.truthy_eq ▸ hanswer⟩
  · intro hplain _
    exact ⟨isShowable_of_isComparable ha, isShowable_of_isComparable hb,
      fun nested => halike.display_eq settings nested hplain⟩
  · intro hplain _
    rw [headingText_eq, headingText_eq, halike.tag?_eq, halike.display_eq settings false hplain]

/-- **Equal values look the same.** In particular one heading serves all numbers that denote the
same, a list and the tuple of its items, and a day and its midnight. -/
theorem equals_looksLike (settings : Settings) :
    (∀ a b : Value, a.isComparable (fun path => path) → b.isComparable (fun path => path) →
      a.equals b = .ok true → LooksLike settings a b) ∧
      (∀ x y : Number, x.quantity = y.quantity →
        (number x).headingText settings = (number y).headingText settings) ∧
      (∀ items : List Value,
        (list items).headingText settings = (array .tuple items).headingText settings) ∧
      ∀ d : Date, (date (.day d)).headingText settings =
        (date (.time (.midnight d))).headingText settings := by
  refine ⟨fun a b => looksLike_of_equals settings, fun x y h => ?_, fun _ => rfl, fun d => ?_⟩
  · exact Number.headingText_eq_of_exact (Number.quantity_eq_iff.mp h)
  · exact dateText_eq settings rfl rfl

/-- An integer, a zero with a sign, and a day. -/
def dayList : Value :=
  list [int 2, number (.float (.finite true .zero)), date (.day ⟨2024, 1, 5, by decide⟩)]

/-- A binary64 number, a zero without a sign, and a midnight. -/
def midnightTuple : Value :=
  array .tuple [number (.float (.finite false ⟨2 * unitsPerOne, representable_of_lt (by decide)⟩)),
    int 0, date (.time (DateTime.midnight ⟨2024, 1, 5, by decide⟩))]

theorem equals_looksLike_mixed :
    dayList.equals midnightTuple = .ok true ∧ LooksLike .default dayList midnightTuple := by
  have hlist : dayList.isComparable fun path => path := by decide +kernel
  have htuple : midnightTuple.isComparable fun path => path := by decide +kernel
  have hequal : dayList.equals midnightTuple = .ok true :=
    (equals_eq_true_iff hlist htuple).mpr (by decide +kernel)
  exact ⟨hequal, (equals_looksLike .default).1 _ _ hlist htuple hequal⟩

end Value
end NoteVault
