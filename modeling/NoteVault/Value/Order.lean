import NoteVault.Value.Basic

/-!
# The order of values

One order serves sorting, grouping and equality. It looks at a value only
through its `OrderKey`, which forgets whatever does not count: the kind of an
array, the order of entries, how a link is displayed, whether a number is an
integer. Two values are equal in the order exactly when their keys agree.

Null is the last value of all, and values without a tag come before it. Between
different tags their names decide. Links are compared by path, which a
*normaliser* may change first, then by kind, then by subpath, an empty one coming
before all others. Objects are compared by their sorted keys first.

Texts are compared in the collation `C`, that is by code points, so that no two
different texts are equal in the order. Under the collation of a language texts, and
with them values, come in another order, and different texts may be equal.

A few values cannot be compared: texts with the character U+0000, integers too
large for binary64, and dates that UTC puts outside the calendar. They make a
comparison fail only if it gets to look at them.

## Main definitions

* `OrderKey`, `Value.orderKey` — what the order sees of a value.
* `OrderKey.compare`, `Value.compare` — the order.
* `Value.equals` — equality in the order.
-/

namespace NoteVault

/-- Why two values cannot be compared. -/
inductive OrderError where
  /-- A text holds the character U+0000. -/
  | embeddedNull
  /-- An integer is too large for binary64. -/
  | oversizedInteger
  /-- An instant lies outside the calendar. -/
  | outsideCalendar
  deriving DecidableEq

/-- The error as a message. -/
def OrderError.message : OrderError → Text
  | .embeddedNull => "embedded null character"
  | .oversizedInteger => "int too large to convert to float"
  | .outsideCalendar => "date value out of range"

/-- What the order sees of a value. -/
inductive OrderKey where
  | null
  | untagged
  | boolean (b : Bool)
  | number (x : ExactNumber)
  | string (s : Text)
  | date (instant : Int) (offset : Option Int)
  | duration (micros : Int)
  | html
  | function
  | link (path : Text) (kind : LinkKind) (subpath : Text)
  | array (items : List OrderKey)
  | object (fields : List (Text × OrderKey))

/-- The order of texts in the collation `C`, refused to those that hold U+0000. -/
def compareTexts (s t : Text) : Except OrderError Ordering :=
  if s.contains '\x00' || t.contains '\x00' then .error .embeddedNull else .ok (Text.order s t)

/-- The order of exact numbers, refused to oversized integers. -/
def compareNumbers (x y : ExactNumber) : Except OrderError Ordering :=
  if x.isOversized || y.isOversized then .error .oversizedInteger else .ok (x.order y)

/-- The order of dates: by instant, then by offset, a clock without one first. -/
def compareDates (instant : Int) (offset : Option Int) (instant' : Int) (offset' : Option Int) :
    Except OrderError Ordering :=
  if Moment.isInCalendar instant && Moment.isInCalendar instant' then
    .ok ((compare instant instant').then (compare offset offset'))
  else .error .outsideCalendar

/-- One comparison, and another one if it finds no difference. -/
def thenCompare (first second : Except OrderError Ordering) : Except OrderError Ordering :=
  match first with
  | .ok .eq => second
  | decided => decided

/-- The order of subpaths: none, or an empty one, comes first. -/
def compareSubpaths (s t : Text) : Except OrderError Ordering :=
  match s, t with
  | [], [] => .ok .eq
  | [], _ :: _ => .ok .lt
  | _ :: _, [] => .ok .gt
  | s, t => compareTexts s t

/-- The order of lists of texts: the first difference decides, then the length. -/
def compareTextLists : List Text → List Text → Except OrderError Ordering
  | [], [] => .ok .eq
  | [], _ :: _ => .ok .lt
  | _ :: _, [] => .ok .gt
  | s :: ss, t :: ts => thenCompare (compareTexts s t) (compareTextLists ss ts)

namespace OrderKey

/-- The tag of the values with a given key. -/
def tag? : OrderKey → Option Tag
  | .null => some .null
  | .untagged => none
  | .boolean _ => some .boolean
  | .number _ => some .number
  | .string _ => some .string
  | .date _ _ => some .date
  | .duration _ => some .duration
  | .html => some .html
  | .function => some .function
  | .link _ _ _ => some .link
  | .array _ => some .array
  | .object _ => some .object

/-- Tagged values come first, then those without a tag, null last. -/
def rank (k : OrderKey) : Nat :=
  match k.tag? with
  | none => 1
  | some .null => 2
  | some _ => 0

/-- The order of values of different tags: by rank, then by the names of the
tags. -/
def compareTags (a b : OrderKey) : Ordering :=
  (Ord.compare a.rank b.rank).then
    (Text.order ((a.tag?.map Tag.name).getD []) ((b.tag?.map Tag.name).getD []))

/-- The order of keys without keys in them. Markup and functions are all alike. -/
def compareLeaves : OrderKey → OrderKey → Except OrderError Ordering
  | .boolean a, .boolean b => .ok (Ord.compare a b)
  | .number x, .number y => compareNumbers x y
  | .string s, .string t => compareTexts s t
  | .date i o, .date i' o' => compareDates i o i' o'
  | .duration d, .duration d' => .ok (Ord.compare d d')
  | .link path kind sub, .link path' kind' sub' =>
    thenCompare (compareTexts path path')
      (thenCompare (compareTexts kind.name kind'.name) (compareSubpaths sub sub'))
  | a, b => .ok (compareTags a b)

mutual
/-- The order of keys. -/
def compare : OrderKey → OrderKey → Except OrderError Ordering
  | .array items, .array items' => compareItems items items'
  | .object fields, .object fields' =>
    thenCompare (compareTextLists (fields.map (·.1)) (fields'.map (·.1)))
      (compareFields fields fields')
  | a, b => compareLeaves a b

/-- The order of lists of keys: the first difference decides, then the length. -/
def compareItems : List OrderKey → List OrderKey → Except OrderError Ordering
  | [], [] => .ok .eq
  | [], _ :: _ => .ok .lt
  | _ :: _, [] => .ok .gt
  | a :: rest, b :: rest' => thenCompare (compare a b) (compareItems rest rest')

/-- The order of fields with the same names: the first difference decides. -/
def compareFields :
    List (Text × OrderKey) → List (Text × OrderKey) → Except OrderError Ordering
  | (_, a) :: rest, (_, b) :: rest' => thenCompare (compare a b) (compareFields rest rest')
  | _, _ => .ok .eq
end

end OrderKey

/-! ## What the order sees of a value -/

/-- Fields sorted by their names, with a value put under a name; a value that was
already there is replaced. -/
def putField {α : Type} (name : Text) (value : α) : List (Text × α) → List (Text × α)
  | [] => [(name, value)]
  | (n, v) :: rest =>
    match Text.order name n with
    | .lt => (name, value) :: (n, v) :: rest
    | .eq => (name, value) :: rest
    | .gt => (n, v) :: putField name value rest

/-- The fields that a list of names and values describes, sorted by name; of
several values under one name the last counts. -/
def sortFields {α : Type} (pairs : List (Text × α)) : List (Text × α) :=
  pairs.foldl (fun fields (name, value) => putField name value fields) []

namespace Value

mutual
/-- What the order sees of a value, paths of links being normalised. -/
def orderKey (normalize : Text → Text) : Value → OrderKey
  | .null => .null
  | .bool b => .boolean b
  | .number x => .number x.exact
  | .string s => .string s
  | .date m => .date m.instant m.offset
  | .duration d => .duration d.micros
  | .html _ => .html
  | .array _ items => .array (orderKeys normalize items)
  | .link l => .link (normalize l.path) l.kind (l.subpath?.getD [])
  | .function | .callable _ => .function
  | .object entries => .object (sortFields (fieldKeys normalize entries))
  | .task _ | .flat _ | .grouped _ | .untagged => .untagged

/-- What the order sees of some values. -/
def orderKeys (normalize : Text → Text) : List Value → List OrderKey
  | [] => []
  | v :: rest => orderKey normalize v :: orderKeys normalize rest

/-- What the order sees of some entries, their keys being taken by their text. -/
def fieldKeys (normalize : Text → Text) : List (Key × Value) → List (Text × OrderKey)
  | [] => []
  | (k, v) :: rest => (k.text, orderKey normalize v) :: fieldKeys normalize rest
end

/-- The order of values; `normalize` is applied to the paths of links first. -/
def compareBy (normalize : Text → Text) (a b : Value) : Except OrderError Ordering :=
  (a.orderKey normalize).compare (b.orderKey normalize)

/-- The order of values. -/
def compare (a b : Value) : Except OrderError Ordering := compareBy (fun path => path) a b

/-- Whether two values are equal in the order. -/
def equals (a b : Value) : Except OrderError Bool := do
  return (← compare a b) == .eq

end Value
end NoteVault
