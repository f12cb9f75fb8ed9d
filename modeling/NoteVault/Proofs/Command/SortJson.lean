import Mathlib.Data.List.Forall2
import NoteVault.Proofs.Command.Sort
import NoteVault.Proofs.Value.Lookup

/-!
# Sorted pages as JSON

Sorted pages are written as rows, each an object with two entries: the path of the page, and its
value of the field that orders the pages, under the name of that field. The first name is given,
the second is asked for, and an entry that is put under a name replaces the one that was there.
So a row tells which page it stands for unless the pages are sorted by a field named `path`, for
then it only has the value. All else holds whatever the field is named: there is one row for each
page, and the rows are in the order that is asked for.

Nothing stands in the way of writing, since integers that can be compared have few digits.

## Main results

* `get?_ofFields_concat` — an entry replaces an earlier one with its name.
* `isWritable_ofValue` — comparable values can be written.
* `runSort_json` — the rows that are written.
-/

namespace NoteVault

open Value

/-! ## Entries and items of JSON -/

namespace Json

/-- The items of an array. -/
def items : Json → List Json
  | .array items => items
  | _ => []

/-- The value of an entry of an object. -/
def get? (name : Text) : Json → Option Json
  | .object entries => entries.lookup name
  | _ => none

theorem put_eq (key : Text) (value : Json) (entries : List (Text × Json)) :
    put key value entries = putUnder key value entries := by
  refine eq_putUnder (put key value) rfl (fun n v rest => ?_) entries
  show (if n = key then (n, value) :: rest else (n, v) :: put key value rest) = _
  split
  · next heq => rw [heq]
  · rfl

/-- **An entry replaces an earlier one with its name.** -/
theorem get?_ofFields_concat (name key : Text) (value : Json) (fields : List (Text × Json)) :
    (ofFields (fields ++ [(key, value)])).get? name =
      if name = key then some value else (ofFields fields).get? name := by
  unfold ofFields
  rw [List.foldl_append]
  show (put key value _).lookup name = _
  rw [put_eq]
  exact lookup_putUnder key value _ name

theorem get?_ofFields_pair (name first second : Text) (v w : Json) :
    (ofFields [(first, v), (second, w)]).get? name =
      if name = second then some w else if name = first then some v else none := by
  have hfirst := get?_ofFields_concat name first v []
  have hsecond := get?_ofFields_concat name second w [(first, v)]
  rw [List.nil_append] at hfirst
  rw [List.singleton_append, hfirst] at hsecond
  exact hsecond

/-! ## What can be written -/

theorem areWritable_iff {items : List Json} : areWritable items ↔ ∀ j ∈ items, j.isWritable := by
  induction items with
  | nil => simp [areWritable]
  | cons j rest ih => simp only [areWritable, Bool.and_eq_true, ih, List.forall_mem_cons]

theorem areEntriesWritable_put {key : Text} {value : Json} {entries : List (Text × Json)}
    (hvalue : value.isWritable) (h : areEntriesWritable entries) :
    areEntriesWritable (put key value entries) := by
  induction entries with
  | nil => simp [put, areEntriesWritable, hvalue]
  | cons first rest ih =>
      obtain ⟨name, v⟩ := first
      simp only [areEntriesWritable, Bool.and_eq_true] at h
      unfold put
      split
      · simp only [areEntriesWritable, hvalue, h.2, Bool.and_self]
      · simp only [areEntriesWritable, h.1, ih h.2, Bool.and_self]

theorem isWritable_ofFields {fields : List (Text × Json)} (h : ∀ f ∈ fields, f.2.isWritable) :
    (ofFields fields).isWritable := by
  refine List.foldlRecOn (motive := fun entries => areEntriesWritable entries) fields _ rfl ?_
  exact fun entries hentries f hf => areEntriesWritable_put (h f hf) hentries

theorem isWritable_of_fitsBinary64 {x : Number} (h : x.fitsBinary64) : (number x).isWritable := by
  cases x with
  | float x => rfl
  | int n => exact Number.isWritable_of_fits h

variable {normalize : Text → Text} (write : Value → Text)

mutual
/-- **Comparable values can be written.** -/
theorem isWritable_ofValue : ∀ {v : Value}, v.isComparable normalize →
    (ofValue write v).isWritable
  | .number _, h => isWritable_of_fitsBinary64 h
  | .array _ _, h => areWritable_ofValues h
  | .object _, h => areEntriesWritable_ofEntries h
  | .null, _ | .bool _, _ | .string _, _ | .date _, _ | .duration _, _ | .html _, _ => rfl
  | .link _, _ | .function, _ | .callable _, _ | .task _, _ | .flat _, _ | .grouped _, _ => rfl
  | .untagged, _ => rfl

theorem areWritable_ofValues : ∀ {values : List Value}, allComparable normalize values →
    areWritable (ofValues write values)
  | [], _ => rfl
  | v :: rest, h => by
      rw [allComparable, Bool.and_eq_true] at h
      rw [ofValues, areWritable, isWritable_ofValue h.1, areWritable_ofValues h.2]
      rfl

theorem areEntriesWritable_ofEntries : ∀ {entries : List (Key × Value)},
    entriesComparable normalize entries → areEntriesWritable (ofEntries write entries)
  | [], _ => rfl
  | (k, v) :: rest, h => by
      rw [entriesComparable, Bool.and_eq_true, Bool.and_eq_true] at h
      rw [ofEntries, areEntriesWritable, isWritable_ofValue h.1.2, areEntriesWritable_ofEntries h.2]
      rfl
end

end Json

/-! ## Rows -/

/-- What a row tells of its page. -/
structure TellsOf (settings : Settings) (field : Text) (p : Page) (row : Json) : Prop where
  /-- Under the name of the field it has the value of the page. -/
  value : row.get? field = some (valueJson settings (p.get field))
  /-- It has the path of the page, unless the field has that name and another value. -/
  path : row.get? "path" = some (.string p.path) ↔
    field ≠ "path" ∨ valueJson settings (p.get field) = .string p.path

theorem tellsOf_pageJson (settings : Settings) (field : Text) (p : Page) :
    TellsOf settings field p (pageJson settings field p) := by
  unfold pageJson
  constructor
  · rw [Json.get?_ofFields_pair, if_pos rfl]
  · rw [Json.get?_ofFields_pair]
    by_cases hfield : field = "path"
    · rw [if_pos hfield.symm, Option.some.injEq]
      exact (or_iff_right (not_not_intro hfield)).symm
    · rw [if_neg (Ne.symm hfield), if_pos rfl]
      exact iff_of_true rfl (Or.inl hfield)

theorem isWritable_pageJson {settings : Settings} {field : Text} {p : Page}
    (h : (p.get field).isComparable fun path => path) :
    (pageJson settings field p).isWritable := by
  refine Json.isWritable_ofFields fun f hf => ?_
  simp only [List.mem_cons, List.not_mem_nil, or_false] at hf
  rcases hf with rfl | rfl
  · rfl
  · exact Json.isWritable_ofValue _ h

/-- Pages with comparable values can be written. -/
theorem isWritable_pages {settings : Settings} {field : Text} {pages : List Page}
    (h : ∀ p ∈ pages, (p.get field).isComparable fun path => path) :
    (Json.array (pages.map (pageJson settings field))).isWritable :=
  Json.areWritable_iff.mpr (List.forall_mem_map.mpr fun p hp => isWritable_pageJson (h p hp))

/-! ## Groups -/

/-- A group of pages in JSON. -/
def groupJson (settings : Settings) (field : Text) (g : Value × List Page) : Json :=
  Json.ofFields
    [("key", valueJson settings g.1), ("rows", .array (g.2.map (pageJson settings field)))]

theorem groupsJson_eq_map (settings : Settings) (field : Text) (groups : List (Value × List Page)) :
    groupsJson settings field (groups.map fun g => (g.1, .flat g.2)) =
      groups.map (groupJson settings field) := by
  induction groups with
  | nil => rfl
  | cons g rest ih =>
      rw [List.map_cons, groupsJson, ih]
      rfl

theorem get?_key_groupJson (settings : Settings) (field : Text) (g : Value × List Page) :
    (groupJson settings field g).get? "key" = some (valueJson settings g.1) := by
  unfold groupJson
  rw [Json.get?_ofFields_pair, if_neg (by decide), if_pos rfl]

theorem get?_rows_groupJson (settings : Settings) (field : Text) (g : Value × List Page) :
    (groupJson settings field g).get? "rows" =
      some (.array (g.2.map (pageJson settings field))) := by
  unfold groupJson
  rw [Json.get?_ofFields_pair, if_pos rfl]

theorem isWritable_groupJson {settings : Settings} {field : Text} {g : Value × List Page}
    (hkey : g.1.isComparable fun path => path)
    (hrows : ∀ p ∈ g.2, (p.get field).isComparable fun path => path) :
    (groupJson settings field g).isWritable := by
  refine Json.isWritable_ofFields fun f hf => ?_
  simp only [List.mem_cons, List.not_mem_nil, or_false] at hf
  rcases hf with rfl | rfl
  · exact Json.isWritable_ofValue _ hkey
  · exact isWritable_pages hrows

/-- Groups of pages with comparable values can be written, since the key of a group is the value
of one of its pages. -/
theorem Partitions.isWritable (settings : Settings) {field name : Text} {pages : List Page}
    {groups : List (Value × List Page)} (h : Partitions (fun p => p.get name) pages groups)
    (hfield : ∀ p ∈ pages, (p.get field).isComparable fun path => path)
    (hname : ∀ p ∈ pages, (p.get name).isComparable fun path => path) :
    (Json.array (groups.map (groupJson settings field))).isWritable := by
  refine Json.areWritable_iff.mpr (List.forall_mem_map.mpr fun g hg => ?_)
  obtain ⟨p, hp, hkey⟩ := Option.map_eq_some_iff.mp (h.first g hg)
  have hrows := (h.sublist g hg).subset
  exact isWritable_groupJson (hkey ▸ hname p (hrows (List.mem_of_mem_head? hp)))
    fun q hq => hfield q (hrows hq)

/-! ## The command -/

/-- The rows of a result, those of groups one after the other. -/
def SortRequest.rows (r : SortRequest) (j : Json) : List Json :=
  if r.groupField.getD [] = [] then j.items
  else j.items.flatMap fun group => ((group.get? "rows").getD .null).items

/-- What a result in JSON tells of the pages of a vault, `ordered` having them in the order of
the field, and `shown` as they are shown. -/
structure JsonResult (settings : Settings) (r : SortRequest) (pages ordered shown : List Page)
    (j : Json) : Prop where
  /-- The order is that of the field. -/
  arranges : Arranges r.field pages ordered
  /-- If no field is named for groups, the pages are shown in this order or the reverse one. -/
  flat : r.groupField.getD [] = [] → shown = r.directed ordered
  /-- If one is named, they are shown group by group, and each group has its key. -/
  grouped : ∀ name, r.groupField = some name → name ≠ [] → ∃ groups : List (Value × List Page),
    Partitions (fun p => p.get name) (r.directed ordered) groups ∧
      shown = groups.flatMap (·.2) ∧
      j.items.map (·.get? "key") = groups.map fun g => some (valueJson settings g.1)
  /-- Each page is shown once. -/
  perm : shown.Perm pages
  /-- There is one row for each page that is shown, in the same order. -/
  rows : List.Forall₂ (TellsOf settings r.field) shown (r.rows j)

theorem forall₂_tellsOf (settings : Settings) (field : Text) (pages : List Page) :
    List.Forall₂ (TellsOf settings field) pages (pages.map (pageJson settings field)) :=
  List.forall₂_map_right_iff.mpr (List.forall₂_same.mpr fun p _ => tellsOf_pageJson _ _ p)

section

variable (settings : Settings) {r : SortRequest} {pages ordered : List Page}

theorem Arranges.jsonResult_flat (h : Arranges r.field pages ordered)
    (hname : r.groupField.getD [] = []) :
    JsonResult settings r pages ordered (r.directed ordered)
      (.array ((r.directed ordered).map (pageJson settings r.field))) where
  arranges := h
  flat _ := rfl
  grouped name hsome hne := by
    rw [hsome] at hname
    exact absurd hname hne
  perm := h.perm_directed
  rows := by
    rw [SortRequest.rows, if_pos hname]
    exact forall₂_tellsOf settings r.field _

theorem Arranges.jsonResult_grouped {name : Text} {groups : List (Value × List Page)}
    (h : Arranges r.field pages ordered) (hsome : r.groupField = some name) (hne : name ≠ [])
    (hgroups : Partitions (fun p => p.get name) (r.directed ordered) groups) :
    JsonResult settings r pages ordered (groups.flatMap (·.2))
      (.array (groups.map (groupJson settings r.field))) where
  arranges := h
  flat hname := by
    rw [hsome] at hname
    exact absurd hname hne
  grouped other hother _ := by
    obtain rfl : name = other := Option.some.inj (hsome.symm.trans hother)
    refine ⟨groups, hgroups, rfl, ?_⟩
    rw [Json.items, List.map_map]
    exact List.map_congr_left fun g _ => get?_key_groupJson settings r.field g
  perm := hgroups.perm.trans h.perm_directed
  rows := by
    have hrows : (groups.map (groupJson settings r.field)).flatMap
        (fun group => ((group.get? "rows").getD .null).items) =
          (groups.flatMap (·.2)).map (pageJson settings r.field) := by
      rw [List.flatMap_map, List.map_flatMap]
      refine List.flatMap_congr fun g _ => ?_
      rw [get?_rows_groupJson]
      rfl
    have hname : r.groupField.getD [] ≠ [] := by rwa [hsome]
    rw [SortRequest.rows, if_neg hname, Json.items, hrows]
    exact forall₂_tellsOf settings r.field _

end

section

variable {r : SortRequest} {tree : FileTree} {root : Location} {settings : Settings}

theorem reportPieces_singleton (output : Text) : reportPieces [some output] = .ok { output } := by
  simp [reportPieces]

theorem runSort_eq_json {arranged : Grouping Page} (hpages : loadPages tree root ≠ [])
    (hsettings : Settings.load tree root = .ok settings)
    (harranged : arrangePages r (loadPages tree root) = .ok arranged) (hjson : r.asJson)
    (hwritable : (groupingJson settings r.field arranged).isWritable) :
    runSort tree root r =
      .ok { output := (groupingJson settings r.field arranged).text ++ ['\n'] } := by
  rw [runSort_eq hpages hsettings harranged, showPages, if_pos hjson]
  dsimp only
  rw [if_pos hwritable]
  exact reportPieces_singleton _

/-- **The rows that are written.** -/
theorem runSort_json (r : SortRequest) (hjson : r.asJson) (hpages : loadPages tree root ≠ [])
    (hsettings : Settings.load tree root = .ok settings)
    (hfield : ∀ p ∈ loadPages tree root, (p.get r.field).isComparable fun path => path)
    (hgroup : ∀ name, r.groupField = some name → name ≠ [] →
      ∀ p ∈ loadPages tree root, (p.get name).isComparable fun path => path) :
    ∃ ordered shown j, runSort tree root r = .ok { output := j.text ++ ['\n'] } ∧
      JsonResult settings r (loadPages tree root) ordered shown j := by
  obtain ⟨ordered, harranges, hsort⟩ := sortPages_eq hfield
  have hdirected : sortPages r.field r.descending (loadPages tree root) =
      .ok (r.directed ordered) := hsort r.descending
  have hshown : ∀ p ∈ r.directed ordered, (p.get r.field).isComparable fun path => path :=
    fun p hp => hfield p (harranges.perm_directed.mem_iff.mp hp)
  by_cases hname : r.groupField.getD [] = []
  · have harranged := arrangePages_flat hdirected hname
    exact ⟨ordered, _, _,
      runSort_eq_json hpages hsettings harranged hjson (isWritable_pages hshown),
      harranges.jsonResult_flat settings hname⟩
  · obtain ⟨name, hsome⟩ : ∃ name, r.groupField = some name := by
      cases hgroupField : r.groupField with
      | none => exact absurd (by rw [hgroupField]; rfl) hname
      | some name => exact ⟨name, rfl⟩
    have hne : name ≠ [] := by rwa [hsome] at hname
    have hkeys : ∀ p ∈ r.directed ordered, (p.get name).isComparable fun path => path :=
      fun p hp => hgroup name hsome hne p (harranges.perm_directed.mem_iff.mp hp)
    obtain ⟨sorted, groups, hgroups, hsorted, hruns⟩ := groupBy_eq hkeys
    have hpartitions := hsorted.partitions hkeys hruns
    have harranged := (arrangePages_grouped hdirected hsome hne).trans hgroups
    have hresult := harranges.jsonResult_grouped settings hsome hne hpartitions
    have hwritable := hpartitions.isWritable settings hshown hkeys
    rw [← groupsJson_eq_map] at hwritable hresult
    exact ⟨ordered, _, _, runSort_eq_json hpages hsettings harranged hjson hwritable, hresult⟩

end

/-! ## Two vaults -/

/-- A vault of some notes, without settings. -/
def vaultOf (notes : List (Text × Text)) : FileTree where
  entries := ([['v']], .directory) :: notes.map fun note =>
    ([['v'], note.1], .file (String.ofList note.2).toUTF8 0)

/-- Pages whose names are listed in order are loaded in that order. -/
theorem loadPages_vaultOf (notes : List (Text × Text)) {places : List Location}
    (hplaces : ((vaultOf notes).entries.filterMap fun (place, _) =>
      if [['v']].isPrefixOf place then some (place.drop 1) else none).filter isPagePlace = places)
    (hsorted : places.Pairwise fun a b => (Ord.compare a b).isLE) :
    loadPages (vaultOf notes) [['v']] =
      places.filterMap fun names => (loadPage (vaultOf notes) [['v']] names).toOption := by
  have hsame : pagePlaces (vaultOf notes) [['v']] = places := by
    rw [← hplaces] at hsorted ⊢
    exact List.mergeSort_of_pairwise hsorted
  rw [loadPages, hsame]

/-- Three notes, of which two have a rank and two a status. -/
def rankedNotes : List (Text × Text) :=
  [("a.md", "---\nrank: 2\nstatus: open\n---\n"), ("b.md", "---\nstatus: open\n---\n"),
    ("c.md", "---\nrank: 10\n---\n")]

/-- The notes by rank and by status, as JSON. -/
def rankJsonRequest : SortRequest := { rankRequest with asJson := true }

theorem runSort_json_ranked :
    loadPages (vaultOf rankedNotes) [['v']] ≠ [] ∧
      Settings.load (vaultOf rankedNotes) [['v']] = .ok .default ∧
      ∃ ordered shown j,
        runSort (vaultOf rankedNotes) [['v']] rankJsonRequest = .ok { output := j.text ++ ['\n'] } ∧
          JsonResult .default rankJsonRequest (loadPages (vaultOf rankedNotes) [['v']])
            ordered shown j := by
  have hload := loadPages_vaultOf rankedNotes rfl (by decide +kernel)
  have hpages : loadPages (vaultOf rankedNotes) [['v']] ≠ [] := by
    rw [hload]
    decide +kernel
  have hsettings : Settings.load (vaultOf rankedNotes) [['v']] = .ok .default := rfl
  refine ⟨hpages, hsettings, runSort_json _ rfl hpages hsettings ?_ ?_⟩
  · rw [hload]
    decide +kernel
  · intro name hname _
    cases hname
    rw [hload]
    decide +kernel

/-- Two notes without frontmatter. -/
def plainNotes : List (Text × Text) := [("a.md", "A"), ("b.md", "B")]

/-- The notes by a field that has the name of the entry for paths, as JSON. -/
def pathJsonRequest : SortRequest := { field := "path", asJson := true }

/-- **Sorted by a field named `path`, rows do not tell their pages.** The two notes have no such
field, and neither row has a path. -/
theorem runSort_json_loses_paths :
    (loadPages (vaultOf plainNotes) [['v']]).map (·.path) = [("a.md" : Text), ("b.md" : Text)] ∧
      (∀ p ∈ loadPages (vaultOf plainNotes) [['v']],
        (p.get pathJsonRequest.field).isComparable fun path => path) ∧
      ∃ j, (runSort (vaultOf plainNotes) [['v']] pathJsonRequest).toOption.map (·.output) =
          some (j.text ++ ['\n']) ∧
        (pathJsonRequest.rows j).map (·.get? "path") = [some .null, some .null] ∧
        ¬ List.Forall₂ (fun (p : Page) row => row.get? "path" = some (.string p.path))
          (loadPages (vaultOf plainNotes) [['v']]) (pathJsonRequest.rows j) := by
  have hload := loadPages_vaultOf plainNotes rfl (by decide +kernel)
  have hpaths : (loadPages (vaultOf plainNotes) [['v']]).map (·.path) =
      [("a.md" : Text), ("b.md" : Text)] := by
    rw [hload]
    decide +kernel
  refine ⟨hpaths, ?_, .array [.object [("path", .null)], .object [("path", .null)]], ?_, rfl, ?_⟩
  · rw [hload]
    decide +kernel
  · unfold runSort
    rw [hload]
    decide +kernel
  · generalize loadPages (vaultOf plainNotes) [['v']] = pages
    intro htells
    cases htells with
    | cons hfirst _ => exact Json.noConfusion (Option.some.inj hfirst)

end NoteVault
