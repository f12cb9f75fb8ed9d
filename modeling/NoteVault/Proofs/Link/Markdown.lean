import NoteVault.Frontmatter.Literal
import NoteVault.Proofs.Link.Header
import NoteVault.Proofs.Link.WikiLink
import NoteVault.Proofs.Text.Strip

/-!
# Links that are written and read again

The links of a text are not all links there are. Their parts have no blanks at the ends and no
characters that end a part, and the words of their headers are words with single blanks between
them; `Link.IsRead` collects this. A link that is read, and of which no part is empty, is written
as a mark that is read as the same link again.

A link without a text shown is written with the one that stands for it, the title of its file and
the subpath. That text has only characters of the path and the subpath, so it can be read again,
but it can be blank, and then the link that is read has no text shown either.

## Main results

* `WikiLink.IsMark.isRead_toLink` — the links of marks are of this kind.
* `Link.IsRead.toLink_mark` — what a link of this kind is read as, once it is written.
* `Link.extractLinks_markdown` — the links of a text are written and read again.
-/

namespace NoteVault

open Text

/-! ## Titles -/

theorem Text.eq_append_of_splitLast? {c : Char} {s front back : Text}
    (h : splitLast? c s = some (front, back)) : s = front ++ c :: back := by
  fun_induction splitLast? c s generalizing front with
  | case1 => cases h
  | case2 d rest front' back' hrest ih =>
      cases h
      exact congrArg (d :: ·) (ih hrest)
  | case3 rest hrest ih =>
      cases h
      rfl
  | case4 => cases h

/-- A title is a piece of its path. -/
theorem mem_of_mem_fileTitle {path : Text} {c : Char} (h : c ∈ fileTitle path) : c ∈ path := by
  have hname : c ∈ baseName path := by
    unfold fileTitle withoutExtension at h
    split at h
    · next stem _ hsplit =>
        split at h
        · exact h
        · rw [eq_append_of_splitLast? hsplit]
          exact List.mem_append_left _ h
    · exact h
  unfold baseName at hname
  cases hlast : (splitWhere (fun c => c = '/' || c = '\\') path).getLast? with
  | none =>
      rw [hlast] at hname
      cases hname
  | some piece =>
      rw [hlast] at hname
      exact (mem_of_mem_splitWhere (List.mem_of_getLast? hlast) hname).1

/-! ## The link of a mark -/

/-- A text shown as it is read: without blanks at its ends, and only if it has more than blanks. -/
def filled (shown : Text) : Option Text :=
  match strip shown with
  | [] => none
  | shown => some shown

theorem filled_eq_some_iff {s shown : Text} : filled s = some shown ↔ strip s = shown ∧ shown ≠ [] := by
  unfold filled
  split
  · next hnil => exact iff_of_false nofun fun ⟨hs, hne⟩ => hne (hs.symm.trans hnil)
  · next hne =>
      rw [Option.some.injEq]
      exact ⟨fun h => ⟨h, h ▸ hne⟩, And.left⟩

/-- The place that a subpath means. -/
def placeOf : Option (Bool × Text) → LinkTarget
  | none => .file
  | some (true, id) => .block (strip id)
  | some (false, header) =>
    if (normalizeHeader header).isEmpty then .file else .header (normalizeHeader header)

/-- A header without words means the file. -/
theorem headerOrFile_eq (path header : Text) (embed : Bool) (shown : Option Text) :
    (if (normalizeHeader header).isEmpty then Link.toFileAt path embed shown
      else Link.toHeaderAt path header embed shown) =
      ⟨path, placeOf (some (false, header)), shown, embed⟩ := by
  simp only [placeOf]
  split <;> rfl

theorem WikiLink.toLink_eq (w : WikiLink) :
    w.toLink = ⟨strip w.target, placeOf w.subpath, w.display.bind filled, w.embed⟩ := by
  obtain ⟨embed, target, subpath, display⟩ := w
  unfold toLink filled
  cases display with
  | none =>
      rcases subpath with _ | ⟨_ | _, sub⟩
      · rfl
      · exact headerOrFile_eq _ _ _ _
      · rfl
  | some shown =>
      simp only [Option.map_some, Option.bind_some]
      cases strip shown <;> rcases subpath with _ | ⟨_ | _, sub⟩ <;>
        first | rfl | exact headerOrFile_eq _ _ _ _

namespace Link

/-- A link as it is found in a text. -/
structure IsRead (l : Link) : Prop where
  /-- The path has no blanks at its ends. -/
  path : strip l.path = l.path
  /-- It has only characters of paths. -/
  inside : ∀ c ∈ l.path, WikiLink.inTarget c = true
  /-- A header is made of words, and has some. -/
  header : ∀ words, l.target = .header words → words ≠ [] ∧ normalizeHeader words = words
  /-- A block has no blanks at its ends and only characters of subpaths. -/
  block : ∀ id, l.target = .block id → strip id = id ∧ ∀ c ∈ id, WikiLink.inSubpath c = true
  /-- The text shown can be written and has no blanks at its ends. -/
  display : ∀ shown, l.display = some shown → strip shown = shown ∧ WikiLink.IsDisplay shown

end Link

/-- **The links of marks** are of this kind. -/
theorem WikiLink.IsMark.isRead_toLink {w : WikiLink} (h : w.IsMark) : w.toLink.IsRead := by
  rw [w.toLink_eq]
  constructor
  case path => exact strip_strip _
  case inside => exact fun c hc => h.inside c (mem_of_mem_strip hc)
  case header =>
    intro words hwords
    change placeOf w.subpath = _ at hwords
    unfold placeOf at hwords
    split at hwords
    · cases hwords
    · cases hwords
    · split at hwords
      · cases hwords
      · next hne =>
          cases hwords
          exact ⟨by simpa using hne, normalizeHeader_normalizeHeader _⟩
  case block =>
    intro id hid
    change placeOf w.subpath = _ at hid
    unfold placeOf at hid
    split at hid
    · cases hid
    · next hsub =>
        cases hid
        exact ⟨strip_strip _, fun c hc => (h.subpath _ _ hsub).inside c (mem_of_mem_strip hc)⟩
    · split at hid <;> cases hid
  case display =>
    intro shown hshown
    obtain ⟨own, hown, hfilled⟩ := Option.bind_eq_some_iff.mp hshown
    obtain ⟨rfl, hne⟩ := filled_eq_some_iff.mp hfilled
    exact ⟨strip_strip _, hne, fun c hc => (h.display own hown).inside c (mem_of_mem_strip hc)⟩

/-! ## The mark of a link -/

namespace Link

/-- The subpath as it is written. -/
def markedSubpath : LinkTarget → Option (Bool × Text)
  | .file => none
  | .header words => some (false, words)
  | .block id => some (true, id)

/-- The mark that is written for a link. It always has a text shown. -/
def mark (l : Link) : WikiLink := ⟨l.embed, l.path, markedSubpath l.target, some l.shownText⟩

theorem markdown_eq (l : Link) : l.markdown = l.mark.written := by
  obtain ⟨path, target, display, embed⟩ := l
  cases embed <;> cases target <;>
    simp [markdown, anchor, mark, markedSubpath, WikiLink.written, WikiLink.inner,
      WikiLink.writtenSubpath, WikiLink.writtenDisplay]

/-- The text shown of the link that is read where `l` is written. -/
def readDisplay (l : Link) : Option Text :=
  match l.display with
  | none => filled l.defaultDisplay
  | some shown => some shown

/-- Nothing of the link is written as an empty part. -/
structure IsFilled (l : Link) : Prop where
  /-- The path is not empty. -/
  path : l.path ≠ []
  /-- Nor is the subpath, if there is one. -/
  subpath : l.subpath? ≠ some []
  /-- Nor is what stands for the text shown, if there is none. -/
  shown : l.display ≠ none ∨ l.kind ≠ .file ∨ l.fileName ≠ []

variable {l : Link}

theorem isWord_eq_false : isWord ']' = false ∧ isWord '|' = false ∧ isWord '^' = false := by
  decide +kernel

theorem inSubpath_of_isWord {c : Char} (h : isWord c = true ∨ c = ' ') :
    WikiLink.inSubpath c = true := by
  unfold WikiLink.inSubpath
  rw [Bool.and_eq_true, bne_iff_ne, bne_iff_ne]
  constructor <;> rintro rfl <;> rcases h with h | h
  · exact Bool.false_ne_true (isWord_eq_false.1.symm.trans h)
  · cases h
  · exact Bool.false_ne_true (isWord_eq_false.2.1.symm.trans h)
  · cases h

theorem IsRead.inSubpath_of_mem_subpath (h : l.IsRead) {sub : Text} (hsub : l.subpath? = some sub)
    {c : Char} (hc : c ∈ sub) : WikiLink.inSubpath c = true := by
  unfold subpath? at hsub
  cases htarget : l.target with
  | file =>
      rw [htarget] at hsub
      cases hsub
  | header words =>
      rw [htarget] at hsub
      cases hsub
      rw [← (h.header _ htarget).2] at hc
      exact inSubpath_of_isWord (isWord_or_of_mem_normalizeHeader hc)
  | block id =>
      rw [htarget] at hsub
      cases hsub
      exact (h.block _ htarget).2 c hc

theorem subpath?_of_markedSubpath {block : Bool} {sub : Text}
    (h : markedSubpath l.target = some (block, sub)) : l.subpath? = some sub := by
  unfold subpath?
  cases htarget : l.target <;> rw [htarget] at h <;> cases h <;> rfl

theorem IsRead.isSubpath (h : l.IsRead) (hfilled : l.IsFilled) {block : Bool} {sub : Text}
    (hsub : markedSubpath l.target = some (block, sub)) : WikiLink.IsSubpath block sub where
  nonempty hnil := hfilled.subpath (hnil ▸ subpath?_of_markedSubpath hsub)
  inside _ hc := h.inSubpath_of_mem_subpath (subpath?_of_markedSubpath hsub) hc
  caret hblock hhead := by
    -- the words of a header do not begin with the sign of a block
    cases htarget : l.target with
    | file =>
        rw [htarget] at hsub
        cases hsub
    | header words =>
        rw [htarget] at hsub
        cases hsub
        rw [← (h.header _ htarget).2] at hhead
        have hcaret := isWord_of_head?_normalizeHeader hhead
        exact absurd (isWord_eq_false.2.2.symm.trans hcaret) Bool.false_ne_true
    | block id =>
        rw [htarget] at hsub
        cases hsub
        cases hblock

theorem IsRead.inSubpath_of_mem_defaultDisplay (h : l.IsRead) {c : Char}
    (hc : c ∈ l.defaultDisplay) : WikiLink.inSubpath c = true := by
  rcases List.mem_append.mp hc with htitle | hbehind
  · exact ((Bool.and_eq_true _ _).mp (h.inside c (mem_of_mem_fileTitle htitle))).1
  · cases hsub : l.subpath? with
    | none =>
        rw [hsub] at hbehind
        cases hbehind
    | some sub =>
        rw [hsub] at hbehind
        rcases List.mem_append.mp hbehind with hc | hc
        · have hsign : (" > " : Text).all WikiLink.inSubpath = true := by decide
          exact List.all_eq_true.mp hsign c hc
        · exact h.inSubpath_of_mem_subpath hsub hc

/-- The text that stands for a link can be written. -/
theorem IsRead.isDisplay_defaultDisplay (h : l.IsRead) (hfilled : l.IsFilled)
    (hnone : l.display = none) : WikiLink.IsDisplay l.defaultDisplay := by
  constructor
  case nonempty =>
    have hshown := hfilled.shown.resolve_left (absurd hnone)
    intro hnil
    obtain ⟨htitle, hsub⟩ := List.append_eq_nil_iff.mp hnil
    cases htarget : l.target with
    | file =>
        have hkind : l.kind = .file := congrArg LinkTarget.kind htarget
        exact hshown.resolve_left (absurd hkind) htitle
    | header words => simp [subpath?, htarget, LinkTarget.subpath?] at hsub
    | block id => simp [subpath?, htarget, LinkTarget.subpath?] at hsub
  case inside =>
    intro c hc
    exact ((Bool.and_eq_true _ _).mp (h.inSubpath_of_mem_defaultDisplay hc)).1

theorem IsRead.shownText_eq (h : l.IsRead) : l.shownText = l.display.getD l.defaultDisplay := by
  unfold shownText
  split
  · next hnone => rw [hnone]; rfl
  · next hnil => exact absurd rfl (h.display [] hnil).2.nonempty
  · next hshown => rw [hshown]; rfl

theorem IsRead.isMark_mark (h : l.IsRead) (hfilled : l.IsFilled) : l.mark.IsMark where
  nonempty := hfilled.path
  inside := h.inside
  subpath _ _ hsub := h.isSubpath hfilled hsub
  display := by
    rintro _ ⟨rfl⟩
    rw [h.shownText_eq]
    cases hdisplay : l.display with
    | none => exact h.isDisplay_defaultDisplay hfilled hdisplay
    | some shown => exact (h.display shown hdisplay).2

theorem IsRead.placeOf_markedSubpath (h : l.IsRead) : placeOf (markedSubpath l.target) = l.target := by
  cases htarget : l.target with
  | file => rfl
  | header words =>
      obtain ⟨hne, hwords⟩ := h.header words htarget
      simp [markedSubpath, placeOf, hwords, hne]
  | block id =>
      simp [markedSubpath, placeOf, (h.block id htarget).1]

/-- **What a link is read as**, once it is written. -/
theorem IsRead.toLink_mark (h : l.IsRead) : l.mark.toLink = l.withDisplay l.readDisplay := by
  have hdisplay : filled l.shownText = l.readDisplay := by
    rw [h.shownText_eq, readDisplay]
    cases hown : l.display with
    | none => rfl
    | some shown =>
        obtain ⟨hstrip, hshown⟩ := h.display shown hown
        exact filled_eq_some_iff.mpr ⟨hstrip, hshown.nonempty⟩
  rw [WikiLink.toLink_eq]
  show Link.mk (strip l.path) (placeOf (markedSubpath l.target)) (filled l.shownText) l.embed = _
  rw [h.path, h.placeOf_markedSubpath, hdisplay]
  rfl

end Link

/-! ## Writing and reading -/

/-- A mark has no blanks at its ends. -/
theorem WikiLink.strip_written (w : WikiLink) : strip w.written = w.written := by
  have hhead : ∀ c, w.written.head? = some c → isBlank c = false := by
    intro c hc
    obtain ⟨d, rest, hwritten, hd⟩ := w.exists_written_cons
    rw [hwritten] at hc
    cases hc
    rcases hd with rfl | rfl <;> decide
  have hlast : ∀ c, w.written.getLast? = some c → isBlank c = false := by
    intro c hc
    have hend : w.written = ((if w.embed then ['!'] else []) ++ '[' :: '[' :: (w.target ++
        (writtenSubpath w.subpath ++ (writtenDisplay w.display ++ [']'])))) ++ [']'] := by
      simp [written, inner]
    rw [hend, List.getLast?_concat] at hc
    exact Option.some.inj hc ▸ by decide
  exact strip_eq_self hhead hlast

/-- **The links of a text are written and read again.** -/
theorem Link.extractLinks_markdown {s : Text} {l : Link} (hl : l ∈ extractLinks s)
    (hfilled : l.IsFilled) :
    extractLinks l.markdown = [l.withDisplay l.readDisplay] ∧
      Value.ofFrontmatter (.string l.markdown) = .ok (.link (l.withDisplay l.readDisplay)) := by
  obtain ⟨w, hw, rfl⟩ := exists_mark_of_mem hl
  have hread := hw.isRead_toLink
  have hmark := hread.isMark_mark hfilled
  rw [markdown_eq, ← hread.toLink_mark]
  refine ⟨extractLinks_written hmark, ?_⟩
  show Value.ofText _ = _
  unfold Value.ofText
  rw [WikiLink.strip_written]
  simp only [onlyLink?_eq, WikiLink.ofText?_eq_some_iff.mpr ⟨hmark, rfl⟩, Option.map_some]

/-- A link to a block whose parts hold signs of other parts. -/
def signedLink : Link := ⟨"dir/a[b.md", .block "x# ^y", none, true⟩

theorem Link.extractLinks_markdown_signed :
    signedLink ∈ extractLinks "see ![[ dir/a[b.md #^ x# ^y ]]]]" ∧ signedLink.IsFilled ∧
      extractLinks "![[dir/a[b.md#^x# ^y|a[b > x# ^y]]" =
        [signedLink.withDisplay (some "a[b > x# ^y")] ∧
      Value.ofFrontmatter (.string "![[dir/a[b.md#^x# ^y|a[b > x# ^y]]") =
        .ok (.link (signedLink.withDisplay (some "a[b > x# ^y"))) := by
  have hl : signedLink ∈ extractLinks "see ![[ dir/a[b.md #^ x# ^y ]]]]" := by decide +kernel
  have hfilled : signedLink.IsFilled := ⟨by decide, by decide, by decide⟩
  have hmarkdown : signedLink.markdown = "![[dir/a[b.md#^x# ^y|a[b > x# ^y]]" := by decide +kernel
  have hdisplay : signedLink.readDisplay = some "a[b > x# ^y" := by decide +kernel
  have hread := extractLinks_markdown hl hfilled
  rw [hmarkdown, hdisplay] at hread
  exact ⟨hl, hfilled, hread⟩

/-- A blank title is written, but not read. -/
example : extractLinks (Link.toFileAt "dir/ .md").markdown = [Link.toFileAt "dir/ .md"] := by
  decide +kernel

end NoteVault
