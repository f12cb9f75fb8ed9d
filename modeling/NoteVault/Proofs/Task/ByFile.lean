import NoteVault.Proofs.Order.Grouping
import NoteVault.Proofs.Task.Markdown

/-!
# Tasks under the headings of their files

Grouping a list of items by file shows the items of each file on their own, so nested copies are
looked for in each group and not in the whole list. That makes no difference if what is below an
item is in the file of the item: then an item and a copy of it are in one group, and a group
keeps those of its items that the whole list keeps.

The rest is about blank lines. One stands behind every group, and those at the very end are cut
off. No line of an item is empty, so only one is cut off, provided the last group has a line: in
one snapshot a group keeps at least one of its items.

## Main results

* `nestItems_itemsIn` — the items that stay in a group.
* `exists_paths` — the groups of some items, one for each file.
* `dropEmptyEnd_flatMap` — which blank lines are left between blocks of lines.
* `taskList_byFile` — what grouping by file changes.
-/

namespace NoteVault

open Text TaskNode

/-! ## No line of an item is empty -/

theorem ownLines_ne_nil (depth : Nat) (status : Option Text) (text : Text) :
    ownLines depth status text ≠ [] := by
  obtain ⟨first, rest, hsplit⟩ := List.exists_cons_of_ne_nil (splitWhere_ne_nil (· = '\n') text)
  unfold ownLines splitOn
  rw [hsplit]
  exact List.cons_ne_nil _ _

theorem ne_nil_of_mem_ownLines {depth : Nat} {status : Option Text} {text line : Text}
    (h : line ∈ ownLines depth status text) : line ≠ [] := by
  unfold ownLines at h
  split at h
  · cases h
  · rcases List.mem_cons.mp h with rfl | h
    · cases status <;> simp [itemMarker]
    · obtain ⟨rest, _, rfl⟩ := List.mem_map.mp h
      simp

theorem itemLines_ne_nil (depth : Nat) (n : TaskNode) : itemLines depth n ≠ [] := by
  rw [itemLines_eq]
  exact List.append_ne_nil_of_left_ne_nil (ownLines_ne_nil _ _ _) _

/-- **No line of an item is empty**, at any depth. -/
theorem ne_nil_of_mem_itemLines {items : List TaskNode} {depth : Nat} {line : Text}
    (h : line ∈ items.flatMap (itemLines depth)) : line ≠ [] := by
  induction items using forestInduction generalizing depth with
  | nil => cases h
  | cons n rest ihBelow ihRest =>
      rw [List.flatMap_cons, itemLines_eq, List.append_assoc, List.mem_append,
        List.mem_append] at h
      rcases h with hown | hbelow | hrest
      · exact ne_nil_of_mem_ownLines hown
      · obtain ⟨c, hc, hline⟩ := List.mem_flatMap.mp hbelow
        have hc : c ∈ n.children := (nestItems_sublist n.children).subset hc
        exact ihBelow (List.mem_flatMap.mpr ⟨c, hc, hline⟩)
      · exact ihRest hrest

/-! ## Blank lines -/

theorem EndsFull.append {lines : List Text} (h : EndsFull lines) (front : List Text) :
    EndsFull (front ++ lines) := by
  obtain ⟨before, line, rfl, hline⟩ := h
  exact ⟨front ++ before, line, (List.append_assoc _ _ _).symm, hline⟩

theorem dropEmptyEnd_concat_nil (lines : List Text) :
    dropEmptyEnd (lines ++ [[]]) = dropEmptyEnd lines := by
  induction lines with
  | nil => rfl
  | cons line rest ih => rw [List.cons_append, dropEmptyEnd, ih, dropEmptyEnd]

/-- Blocks with a blank line behind each are blocks with blank lines between them, and one
behind. -/
theorem flatMap_append_nil {blocks : List (List Text)} (hne : blocks ≠ []) :
    (blocks.flatMap fun block => block ++ [[]]) = [[]].intercalate blocks ++ [[]] := by
  induction blocks with
  | nil => exact absurd rfl hne
  | cons block rest ih =>
      cases rest with
      | nil => simp
      | cons next rest =>
          rw [List.flatMap_cons, ih (List.cons_ne_nil _ _), List.intercalate_cons_cons]
          simp only [List.append_assoc]

theorem endsFull_intercalate {blocks : List (List Text)} (hne : blocks ≠ [])
    (h : ∀ block ∈ blocks, EndsFull block) : EndsFull ([[]].intercalate blocks) := by
  induction blocks with
  | nil => exact absurd rfl hne
  | cons block rest ih =>
      cases rest with
      | nil =>
          rw [List.intercalate_singleton]
          exact h block List.mem_cons_self
      | cons next rest =>
          rw [List.intercalate_cons_cons]
          exact (ih (List.cons_ne_nil _ _) fun b hb => h b (List.mem_cons_of_mem _ hb)).append _

/-- **Which blank lines are left**: of those behind some blocks, the last one is cut off. -/
theorem dropEmptyEnd_flatMap {blocks : List (List Text)} (hne : blocks ≠ [])
    (h : ∀ block ∈ blocks, EndsFull block) :
    dropEmptyEnd (blocks.flatMap fun block => block ++ [[]]) = [[]].intercalate blocks := by
  rw [flatMap_append_nil hne, dropEmptyEnd_concat_nil, (endsFull_intercalate hne h).dropEmptyEnd_eq]

/-! ## The items of a file -/

/-- The items of a file. -/
def itemsIn (items : List TaskNode) (path : Text) : List TaskNode := items.filter (·.path = path)

/-- What is below an item is in the file of the item. -/
def StayInFile (items : List TaskNode) : Prop := ∀ n ∈ items, ∀ d ∈ n.walk, d.path = n.path

/-- The lines that are shown of a file: those of its items that stay in the whole list. -/
def fileBlock (items : List TaskNode) (path : Text) : List Text :=
  (itemsIn (nestItems items) path).flatMap (itemLines 0)

/-- The lines of a file under a heading. -/
def fileSection (items : List TaskNode) (path : Text) : List Text :=
  ("#### " ++ (Link.toFileAt path).markdown) :: [] :: fileBlock items path

section

variable {items : List TaskNode} {n : TaskNode} {path : Text} {paths : List Text}

theorem mem_itemsIn : n ∈ itemsIn items path ↔ n ∈ items ∧ n.path = path := by
  unfold itemsIn
  rw [List.mem_filter, decide_eq_true_iff]

/-- **The files together have the items**, each as often as the list has it. The induction takes
one file off the list. -/
theorem perm_itemsIn (hnodup : paths.Nodup) (hmem : ∀ n ∈ items, n.path ∈ paths) :
    (paths.flatMap (itemsIn items)).Perm items := by
  induction paths generalizing items with
  | nil =>
      rw [List.eq_nil_iff_forall_not_mem.mpr fun n hn => List.not_mem_nil (hmem n hn)]
      exact .nil
  | cons p rest ih =>
      obtain ⟨hnot, hrest⟩ := List.nodup_cons.mp hnodup
      let others := items.filter fun n => !decide (n.path = p)
      have hothers : ∀ n ∈ others, n.path ∈ rest := by
        intro n hn
        obtain ⟨hn, hne⟩ := List.mem_filter.mp hn
        exact (List.mem_cons.mp (hmem n hn)).resolve_left (by simpa using hne)
      have hfiles : rest.flatMap (itemsIn items) = rest.flatMap (itemsIn others) := by
        refine List.flatMap_congr fun q hq => ?_
        have hqp : q ≠ p := ne_of_mem_of_not_mem hq hnot
        show items.filter _ = (items.filter _).filter _
        rw [List.filter_filter]
        refine List.filter_congr fun n _ => ?_
        by_cases hn : n.path = q
        · simp [hn, hqp]
        · simp [hn]
      rw [List.flatMap_cons, hfiles]
      exact ((ih hrest hothers).append_left _).trans (List.filter_append_perm _ items)

/-- **The items that stay in a group** are those of the group that stay in the whole list. -/
theorem nestItems_itemsIn (h : StayInFile items) (path : Text) :
    nestItems (itemsIn items path) = itemsIn (nestItems items) path := by
  have hnested : ∀ n ∈ itemsIn items path,
      (nestedIds (itemsIn items path)).contains n.id = (nestedIds items).contains n.id := by
    intro n hn
    obtain ⟨_, hpath⟩ := mem_itemsIn.mp hn
    rw [Bool.eq_iff_iff, List.contains_iff_mem, List.contains_iff_mem, nestedIds_eq, nestedIds_eq]
    simp only [List.mem_map, mem_nodesBelow]
    constructor
    · rintro ⟨d, ⟨r, hr, hd⟩, hid⟩
      exact ⟨d, ⟨r, (mem_itemsIn.mp hr).1, hd⟩, hid⟩
    · rintro ⟨d, ⟨r, hr, hd⟩, hid⟩
      -- a node with the identifier of an item is in its file, and so is the item it is below
      have hrpath : r.path = path := by
        rw [← h r hr d hd, (id_eq_iff.mp hid).1, hpath]
      exact ⟨d, ⟨r, mem_itemsIn.mpr ⟨hr, hrpath⟩, hd⟩, hid⟩
  calc nestItems (itemsIn items path)
      = (itemsIn items path).filter fun n => !(nestedIds (itemsIn items path)).contains n.id :=
        nestItems_eq_filter _
    _ = (itemsIn items path).filter fun n => !(nestedIds items).contains n.id :=
        List.filter_congr fun n hn => congrArg (!·) (hnested n hn)
    _ = itemsIn (items.filter fun n => !(nestedIds items).contains n.id) path :=
        List.filter_comm _ _ _
    _ = itemsIn (nestItems items) path := by rw [← nestItems_eq_filter]

/-- In one snapshot a file that has an item keeps one. -/
theorem itemsIn_nestItems_ne_nil (hfile : StayInFile items) (hsnapshot : OneSnapshot items)
    (hn : n ∈ items) : itemsIn (nestItems items) n.path ≠ [] := by
  have hsubset : walkAll (itemsIn items n.path) ⊆ walkAll items := walkAll_subset fun m hm =>
    mem_walkAll_self (mem_itemsIn.mp hm).1
  have hgroup : OneSnapshot (itemsIn items n.path) := fun m hm k hk =>
    hsnapshot m (hsubset hm) k (hsubset hk)
  obtain ⟨r, hr, _⟩ := hgroup.exists_kept_above (mem_itemsIn.mpr ⟨hn, rfl⟩)
  rw [nestItems_itemsIn hfile] at hr
  exact List.ne_nil_of_mem hr

theorem fileSection_endsFull (hfile : StayInFile items) (hsnapshot : OneSnapshot items)
    (hn : n ∈ items) : EndsFull (fileSection items n.path) := by
  have hblock : EndsFull (fileBlock items n.path) := by
    refine endsFull_of_forall ?_ fun line hline => ne_nil_of_mem_itemLines hline
    obtain ⟨r, rest, hkept⟩ :=
      List.exists_cons_of_ne_nil (itemsIn_nestItems_ne_nil hfile hsnapshot hn)
    unfold fileBlock
    rw [hkept, List.flatMap_cons]
    exact List.append_ne_nil_of_left_ne_nil (itemLines_ne_nil 0 r) _
  exact hblock.append ["#### " ++ (Link.toFileAt n.path).markdown, []]

end

/-! ## Groups by file -/

/-- The path of the file that a row, or the key of a group, stands for. -/
def filePath (row : Value) : Text := (rowPath row).toOption.getD []

/-- The link to the file of a row. -/
def fileKey (row : Value) : Value := .link (Link.toFileAt (filePath row))

section

variable {items : List TaskNode} {groups : List (Value × List Value)}

theorem isComparable_toFileAt {path : Text} (h : path.isComparable) :
    (Value.link (Link.toFileAt path)).isComparable fun path => path := by
  show (path.isComparable && Text.isComparable []) = true
  rw [h]
  rfl

/-- **Links to files are in the order of the paths.** -/
theorem compare_toFileAt {p q : Text} (hp : p.isComparable) (hq : q.isComparable) :
    (Value.link (Link.toFileAt p)).compare (.link (Link.toFileAt q)) = .ok (Text.order p q) := by
  show thenCompare (compareTexts p q) (.ok .eq) = _
  rw [compareTexts_eq_order hp hq, thenCompare_ok]
  cases Text.order p q <;> rfl

theorem groupByFile_eq (items : List TaskNode) :
    groupByFile (items.map .task) = liftOrder (groupBy fileKey (items.map .task)) := by
  have hpairs : ∀ rows : List TaskNode,
      ((rows.map Value.task).mapM fun row => do
        return (Value.link (Link.toFileAt (← rowPath row)), row)) =
        .ok ((rows.map Value.task).map fun row => (fileKey row, row)) := by
    intro rows
    induction rows with
    | nil => rfl
    | cons n rest ih =>
        rw [List.map_cons, List.mapM_cons, ih]
        rfl
  unfold groupByFile
  rw [hpairs]
  rfl

/-- The key of a group is the link to the file of an item. -/
theorem exists_item_of_group (h : Partitions fileKey (items.map .task) groups)
    {g : Value × List Value} (hg : g ∈ groups) :
    ∃ n ∈ items, g.1 = .link (Link.toFileAt n.path) := by
  obtain ⟨row, hrow, hfirst⟩ := Option.map_eq_some_iff.mp (h.first g hg)
  obtain ⟨n, hn, rfl⟩ := List.mem_map.mp ((h.sublist g hg).subset (List.mem_of_mem_head? hrow))
  exact ⟨n, hn, hfirst.symm⟩

/-- A group has the items of its file. -/
theorem rows_eq_itemsIn (h : Partitions fileKey (items.map .task) groups)
    (hpaths : ∀ n ∈ items, n.path.isComparable) {g : Value × List Value} (hg : g ∈ groups)
    {path : Text} (hpath : path.isComparable) (hkey : g.1 = .link (Link.toFileAt path)) :
    g.2 = (itemsIn items path).map .task := by
  rw [h.rows_eq g hg, hkey, List.filter_map]
  refine congrArg (List.map Value.task) (List.filter_congr fun n hn => ?_)
  show (((Value.link (Link.toFileAt n.path)).compare _).toOption == some .eq) = _
  rw [compare_toFileAt (hpaths n hn) hpath, Bool.eq_iff_iff, decide_eq_true_iff,
    ← Text.order_eq_iff]
  exact beq_iff_eq.trans Option.some_inj

/-- Every item has a group for its file. -/
theorem exists_group_of_item (h : Partitions fileKey (items.map .task) groups)
    (hpaths : ∀ n ∈ items, n.path.isComparable) {n : TaskNode} (hn : n ∈ items) :
    ∃ g ∈ groups, g.1 = .link (Link.toFileAt n.path) := by
  have hrow := h.perm.mem_iff.mpr (List.mem_map_of_mem (f := Value.task) hn)
  obtain ⟨g, hg, hmem⟩ := List.mem_flatMap.mp hrow
  obtain ⟨m, hm, hkey⟩ := exists_item_of_group h hg
  rw [rows_eq_itemsIn h hpaths hg (hpaths m hm) hkey] at hmem
  obtain ⟨k, hk, heq⟩ := List.mem_map.mp hmem
  cases heq
  exact ⟨g, hg, by rw [hkey, (mem_itemsIn.mp hk).2]⟩

/-- **The groups of some items**, one for each file, in the order of the paths. -/
theorem exists_paths (h : Partitions fileKey (items.map .task) groups)
    (hpaths : ∀ n ∈ items, n.path.isComparable) :
    ∃ paths : List Text, paths.Pairwise (fun p q => Text.order p q = .lt) ∧
      (∀ p, p ∈ paths ↔ ∃ n ∈ items, n.path = p) ∧
      groups = paths.map fun p => (.link (Link.toFileAt p), (itemsIn items p).map .task) := by
  have hlink : ∀ path, filePath (.link (Link.toFileAt path)) = path := fun _ => rfl
  refine ⟨groups.map fun g => filePath g.1, ?_, fun p => ?_, ?_⟩
  · refine List.pairwise_map.mpr (h.increasing.imp_of_mem fun {g k} hg hk hlt => ?_)
    obtain ⟨n, hn, hgn⟩ := exists_item_of_group h hg
    obtain ⟨m, hm, hkm⟩ := exists_item_of_group h hk
    rw [hgn, hkm, compare_toFileAt (hpaths n hn) (hpaths m hm)] at hlt
    rw [hgn, hkm, hlink, hlink]
    exact Except.ok.inj hlt
  · rw [List.mem_map]
    constructor
    · rintro ⟨g, hg, rfl⟩
      obtain ⟨n, hn, hgn⟩ := exists_item_of_group h hg
      exact ⟨n, hn, by rw [hgn, hlink]⟩
    · rintro ⟨n, hn, rfl⟩
      obtain ⟨g, hg, hgn⟩ := exists_group_of_item h hpaths hn
      exact ⟨g, hg, by rw [hgn, hlink]⟩
  · rw [List.map_map]
    refine (List.map_id groups).symm.trans (List.map_congr_left fun g hg => ?_)
    obtain ⟨n, hn, hgn⟩ := exists_item_of_group h hg
    show (g.1, g.2) =
      (.link (Link.toFileAt (filePath g.1)), (itemsIn items (filePath g.1)).map .task)
    rw [rows_eq_itemsIn h hpaths hg (hpaths n hn) hgn, hgn, hlink]

theorem mapGroupsM_asTask (files : List (Value × List TaskNode)) :
    Grouping.mapGroupsM asTask (files.map fun g => (g.1, .flat (g.2.map .task))) =
      .ok (files.map fun g => (g.1, .flat g.2)) := by
  induction files with
  | nil => rfl
  | cons g rest ih =>
      rw [List.map_cons, Grouping.mapGroupsM, ih, Grouping.mapM, mapM_asTask]
      rfl

end

/-! ## What is shown -/

section

variable {items : List TaskNode} {n : TaskNode} {paths : List Text}

/-- A group of the items of a file shows those that stay in the whole list. -/
theorem groupingLines_itemsIn (settings : Settings) (hfile : StayInFile items)
    (hn : n ∈ items) : groupingLines settings (.flat (itemsIn items n.path)) =
      fileBlock items n.path := by
  have hne : itemsIn items n.path ≠ [] := List.ne_nil_of_mem (mem_itemsIn.mpr ⟨hn, rfl⟩)
  have hshown : groupingLines settings (.flat (itemsIn items n.path)) =
      taskLines (itemsIn items n.path) := by
    rw [groupingLines]
    exact hne
  unfold fileBlock
  rw [hshown, ← nestItems_itemsIn hfile, ← keptLines_nestedIds]
  rfl

/-- Each group is a file with its heading, and a blank line behind it. -/
theorem groupLines_eq (settings : Settings) (hfile : StayInFile items)
    (hpaths : ∀ p ∈ paths, ∃ n ∈ items, n.path = p) :
    groupLines settings (paths.map fun p => (.link (Link.toFileAt p), .flat (itemsIn items p))) =
      (paths.map (fileSection items)).flatMap fun block => block ++ [[]] := by
  induction paths with
  | nil => rw [List.map_nil, groupLines, List.map_nil, List.flatMap_nil]
  | cons p rest ih =>
      obtain ⟨n, hn, rfl⟩ := hpaths p List.mem_cons_self
      have hheading : (Value.link (Link.toFileAt n.path)).headingText settings =
          (Link.toFileAt n.path).markdown := rfl
      rw [List.map_cons, groupLines, hheading, groupingLines_itemsIn settings hfile hn,
        ih fun q hq => hpaths q (List.mem_cons_of_mem _ hq), List.map_cons, List.flatMap_cons]
      unfold fileSection
      simp only [List.cons_append, List.append_assoc, List.nil_append]

/-- Groups with rows that are tasks are shown under their headings. -/
theorem rowsMarkdown_grouped (settings : Settings) {groups : List (Value × Grouping Value)}
    {files : List (Value × Grouping TaskNode)}
    (h : Grouping.mapGroupsM asTask groups = .ok files) :
    rowsMarkdown settings (.grouped groups) =
      .ok (joinLines ['\n'] (dropEmptyEnd (groupLines settings files))) := by
  have hrows : (Grouping.grouped groups).mapM asTask = .ok (.grouped files) := by
    rw [Grouping.mapM, h]
    rfl
  have hlines : groupingLines settings (.grouped files) = groupLines settings files := by
    rw [groupingLines]
  unfold rowsMarkdown
  rw [hrows, ← hlines]
  rfl

/-- **Without grouping**, the lines are those of the items that stay. -/
theorem taskList_ungrouped (settings : Settings) (hne : items ≠ []) :
    taskList settings false (.list (items.map .task)) =
      .ok (joinLines ['\n'] ((nestItems items).flatMap (itemLines 0))) := by
  have hfull : dropEmptyEnd ((nestItems items).flatMap (itemLines 0)) =
      (nestItems items).flatMap (itemLines 0) :=
    dropEmptyEnd_eq_self fun line hline => ne_nil_of_mem_itemLines hline
  rw [← hfull, ← renderTasks_list settings hne]
  obtain ⟨n, rest, rfl⟩ := List.exists_cons_of_ne_nil hne
  rfl

/-- **With grouping**, the lines are those of the files, one blank line between two of them. -/
theorem taskList_grouped (settings : Settings) (hne : items ≠ []) (hfile : StayInFile items)
    (hsnapshot : OneSnapshot items) (hmem : ∀ p, p ∈ paths ↔ ∃ n ∈ items, n.path = p)
    (hgroup : groupBy fileKey (items.map .task) = .ok (.grouped (paths.map fun p =>
      (.link (Link.toFileAt p), .flat ((itemsIn items p).map .task))))) :
    taskList settings true (.list (items.map .task)) =
      .ok (joinLines ['\n'] ([[]].intercalate (paths.map (fileSection items)))) := by
  have hpaths : ∀ p ∈ paths, ∃ n ∈ items, n.path = p := fun p => (hmem p).mp
  have hblocks : ∀ block ∈ paths.map (fileSection items), EndsFull block := by
    intro block hblock
    obtain ⟨p, hp, rfl⟩ := List.mem_map.mp hblock
    obtain ⟨n, hn, rfl⟩ := hpaths p hp
    exact fileSection_endsFull hfile hsnapshot hn
  have hblocksNe : paths.map (fileSection items) ≠ [] := by
    obtain ⟨n, hn⟩ := List.exists_mem_of_ne_nil _ hne
    exact List.ne_nil_of_mem (List.mem_map_of_mem ((hmem n.path).mpr ⟨n, hn, rfl⟩))
  have hfiles := mapGroupsM_asTask (paths.map fun p => (.link (Link.toFileAt p), itemsIn items p))
  rw [List.map_map, List.map_map] at hfiles
  have hresult : taskList settings true (.list (items.map .task)) =
      (groupByFile (items.map .task)).bind (rowsMarkdown settings) := by
    obtain ⟨n, rest, rfl⟩ := List.exists_cons_of_ne_nil hne
    rfl
  rw [hresult, groupByFile_eq, hgroup, ← dropEmptyEnd_flatMap hblocksNe hblocks,
    ← groupLines_eq settings hfile hpaths]
  exact rowsMarkdown_grouped settings hfiles

/-- What grouping by file changes in the list of some items. -/
structure ByFile (settings : Settings) (items : List TaskNode) (paths : List Text) : Prop where
  /-- The paths are in their order, each once. -/
  increasing : paths.Pairwise fun p q => Text.order p q = .lt
  /-- They are those of the items. -/
  mem_iff : ∀ p, p ∈ paths ↔ ∃ n ∈ items, n.path = p
  /-- Without grouping, the lines are those of the items that stay. -/
  ungrouped : taskList settings false (.list (items.map .task)) =
    .ok (joinLines ['\n'] ((nestItems items).flatMap (itemLines 0)))
  /-- With it, each file has a heading, a blank line, and the lines of those of its items that
  stay; and there is one blank line between two files. -/
  grouped : taskList settings true (.list (items.map .task)) =
    .ok (joinLines ['\n'] ([[]].intercalate (paths.map (fileSection items))))
  /-- The same items stay in a file on its own. -/
  kept : ∀ p, nestItems (itemsIn items p) = itemsIn (nestItems items) p
  /-- So the files together have the items that stay. -/
  kept_perm : (paths.flatMap fun p => nestItems (itemsIn items p)).Perm (nestItems items)
  /-- And the lines under all headings are those without grouping. -/
  lines_perm : (paths.flatMap (fileBlock items)).Perm ((nestItems items).flatMap (itemLines 0))

/-- **What grouping by file changes**: only that there are headings. -/
theorem taskList_byFile (settings : Settings) (hne : items ≠ [])
    (hpaths : ∀ n ∈ items, n.path.isComparable) (hfile : StayInFile items)
    (hsnapshot : OneSnapshot items) : ∃ paths, ByFile settings items paths := by
  have hkeys : ∀ row ∈ items.map Value.task, (fileKey row).isComparable fun path => path := by
    intro row hrow
    obtain ⟨n, hn, rfl⟩ := List.mem_map.mp hrow
    exact isComparable_toFileAt (hpaths n hn)
  obtain ⟨sorted, groups, hgroup, hsorted, hruns⟩ := groupBy_eq hkeys
  obtain ⟨paths, hincreasing, hmem, rfl⟩ := exists_paths (hsorted.partitions hkeys hruns) hpaths
  rw [List.map_map] at hgroup
  have hnodup : paths.Nodup := hincreasing.imp Text.ne_of_order_lt
  have hperm : (paths.flatMap (itemsIn (nestItems items))).Perm (nestItems items) :=
    perm_itemsIn hnodup fun n hn => (hmem n.path).mpr ⟨n, (nestItems_sublist items).subset hn, rfl⟩
  refine ⟨paths, hincreasing, hmem, taskList_ungrouped settings hne,
    taskList_grouped settings hne hfile hsnapshot hmem hgroup, nestItems_itemsIn hfile, ?_, ?_⟩
  · rw [funext (nestItems_itemsIn hfile)]
    exact hperm
  · have hlines := hperm.flatMap_right (itemLines 0)
    rwa [List.flatMap_assoc] at hlines

end

/-- An item of one file that is also nested below another one of its list, and an item of a file
that comes first in the order of the paths. -/
def filedItems : List TaskNode :=
  let inner := { plainItem "b" 1 [] with text := "one\ntwo" }
  [inner, plainItem "a" 3 [], { plainItem "b" 0 [inner] with text := "three", status := some "x" }]

/-- The item and its copy are in one group, so the copy is not shown there either. -/
theorem taskList_byFile_nested :
    StayInFile filedItems ∧ OneSnapshot filedItems ∧
      (taskList {} true (.list (filedItems.map .task))).toOption =
        some "#### [[a|a]]\n\n- \n\n#### [[b|b]]\n\n- [x] three\n\t- one\n\t\ttwo".toList ∧
      ∃ paths, ByFile {} filedItems paths := by
  have hfile : StayInFile filedItems := by
    unfold StayInFile
    decide +kernel
  have hsnapshot : OneSnapshot filedItems := by
    unfold OneSnapshot
    decide +kernel
  have hpaths : ∀ n ∈ filedItems, n.path.isComparable := by decide +kernel
  exact ⟨hfile, hsnapshot, by decide +kernel,
    taskList_byFile {} (List.cons_ne_nil _ _) hpaths hfile hsnapshot⟩

end NoteVault
