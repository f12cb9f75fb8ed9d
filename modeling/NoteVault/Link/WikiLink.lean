import NoteVault.Text.Blank
import NoteVault.Text.Scan
import NoteVault.Link.Basic

/-!
# Links in running text

A link stands between `[[` and `]]`, with `!` in front if it embeds its target.
Inside comes the path; behind a `#` a header, or a block if `^` follows the `#`;
and behind a `|` the text to be shown. None of the three may be empty or hold a
`]`; the path holds no `|` or `#` and the subpath no `|`. A lone `^` is a header.

`WikiLink.recognise` takes such a mark apart, `WikiLink.toLink` is the link that
it means, and `extractLinks` finds the links of a text. Of several links that
point at the same place it keeps the first. A text that is nothing but one mark has
one link, `onlyLink?`.
-/

namespace NoteVault

/-- The parts of a link mark, as they are written. -/
structure WikiLink where
  /-- Whether `!` stands in front. -/
  embed : Bool
  /-- What stands for the path. -/
  target : Text
  /-- What stands behind `#`, and whether it is a block. -/
  subpath : Option (Bool × Text)
  /-- What stands behind `|`. -/
  display : Option Text
  deriving DecidableEq

namespace WikiLink

/-- A character that can stand in a subpath. -/
def inSubpath (c : Char) : Bool := c != ']' && c != '|'

/-- A character that can stand in a path. -/
def inTarget (c : Char) : Bool := inSubpath c && c != '#'

/-- The subpath behind a `#`, and what follows it. -/
def subpathOf? (s : Text) : Option ((Bool × Text) × Text) :=
  let plain (s : Text) : Option (Text × Text) :=
    match s.takeWhile inSubpath with
    | [] => none
    | sub => some (sub, s.dropWhile inSubpath)
  match s with
  | '^' :: rest =>
    match plain rest with
    | some (sub, rest) => some ((true, sub), rest)
    | none => (plain s).map fun (sub, rest) => ((false, sub), rest)
  | _ => (plain s).map fun (sub, rest) => ((false, sub), rest)

/-- The optional subpath, and what follows it. -/
def takeSubpath (s : Text) : Option (Bool × Text) × Text :=
  match s with
  | '#' :: rest =>
    match subpathOf? rest with
    | some (sub, rest) => (some sub, rest)
    | none => (none, s)
  | _ => (none, s)

/-- The optional text to be shown, and what follows it. -/
def takeDisplay (s : Text) : Option Text × Text :=
  match s with
  | '|' :: rest =>
    match rest.takeWhile (· != ']') with
    | [] => (none, s)
    | shown => (some shown, rest.dropWhile (· != ']'))
  | _ => (none, s)

/-- The mark behind `[[`, and what follows it. -/
def inside? (embed : Bool) (s : Text) : Option (WikiLink × Text) :=
  match s.takeWhile inTarget with
  | [] => none
  | target =>
    let (subpath, s) := takeSubpath (s.dropWhile inTarget)
    let (display, s) := takeDisplay s
    match s with
    | ']' :: ']' :: rest => some (⟨embed, target, subpath, display⟩, rest)
    | _ => none

/-- The link mark at the beginning of a text, and what follows it. -/
def recognise : Text → Option (WikiLink × Text)
  | '!' :: '[' :: '[' :: rest => inside? true rest
  | '[' :: '[' :: rest => inside? false rest
  | _ => none

/-- The link that a mark means. Blanks around its parts do not count. A header
without words means the file. -/
def toLink (w : WikiLink) : Link :=
  let path := Text.strip w.target
  let display := match w.display.map Text.strip with
    | none | some [] => none
    | some shown => some shown
  match w.subpath with
  | some (true, id) => Link.toBlockAt path (Text.strip id) w.embed display
  | some (false, header) =>
    if (normalizeHeader header).isEmpty then Link.toFileAt path w.embed display
    else Link.toHeaderAt path header w.embed display
  | none => Link.toFileAt path w.embed display

/-- The link mark that a text consists of. -/
def ofText? (s : Text) : Option WikiLink :=
  match recognise s with
  | some (w, []) => some w
  | _ => none

end WikiLink

/-- Links without those that point where an earlier one points. -/
def distinctLinks (links : List Link) : List Link :=
  links.foldl
    (fun kept l => if kept.any l.pointsLike then kept else kept ++ [l]) []

/-- The links of a text in the order of their first appearance. -/
def extractLinks (s : Text) : List Link :=
  distinctLinks ((Text.scan WikiLink.recognise s).map fun found => found.value.toLink)

/-! ## Texts that are one mark -/

/-- A text that is one mark is recognised as a whole. -/
theorem WikiLink.ofText?_eq_some_iff_recognise {s : Text} {w : WikiLink} :
    ofText? s = some w ↔ recognise s = some (w, []) := by
  unfold ofText?
  split
  · next found hfound => simp [hfound]
  · next hnot => exact iff_of_false nofun (hnot w)

/-- **A text that is one mark** has one link, which the mark means. -/
theorem extractLinks_of_ofText? {s : Text} {w : WikiLink} (h : WikiLink.ofText? s = some w) :
    extractLinks s = [w.toLink] := by
  have hmark := WikiLink.ofText?_eq_some_iff_recognise.mp h
  have hne : s ≠ [] := by
    rintro rfl
    cases hmark
  unfold extractLinks
  rw [Text.scan_of_whole hne hmark]
  rfl

theorem extractLinks_ne_nil {s : Text} {w : WikiLink} (h : WikiLink.ofText? s = some w) :
    extractLinks s ≠ [] := by
  rw [extractLinks_of_ofText? h]
  exact List.cons_ne_nil _ _

/-- The link of a text that is one mark: the first link in it. -/
def onlyLink? (s : Text) : Option Link :=
  match h : WikiLink.ofText? s with
  | some _ => some ((extractLinks s).head (extractLinks_ne_nil h))
  | none => none

/-- **The link of a text that is one mark** is the one that the mark means. -/
theorem onlyLink?_eq (s : Text) : onlyLink? s = (WikiLink.ofText? s).map WikiLink.toLink := by
  unfold onlyLink?
  split
  · next mark hmark => simp [hmark, extractLinks_of_ofText? hmark]
  · next hnone => rw [hnone, Option.map_none]

end NoteVault
