import Mathlib.Data.List.Basic
import NoteVault.Proofs.Order.Equality
import NoteVault.Record.Link

/-!
# Links and what is derived from them

A link that travels as a record, or that is put together by hand, is five fields, and not all
fields make a link: there are three types, and a subpath belongs to two of them. A change of a
link could end in fields that make none. So every change is looked at twice: as the link that
`Link.withPath` and its like give, and as new fields that have to pass the check that is passed
when a link is made. `LinkStep.link?_fields` says that they always pass it and make the same link.
So the check could be left out after a change, and each part of a link is the last one that was
given to it, by its making or by a change.

That a link has a subpath exactly if it does not point at a whole file is what makes comparing
links right. The comparison takes a missing subpath for an empty one, and a header without any
word has an empty one; but the types are compared first, and within one type there are only
subpaths or only none.

## Main results

* `LinkFields.link?_eq_ok` — which fields make a link.
* `LinkStep.link?_fields` — a change is never refused, and its fields make the changed link.
* `LinkOrigin.run_eq` — a run with a check after every change leads to the changed link.
* `Link.ofRecord_toRecord` — the record of a link gives it back.
* `Link.compare_eq_ok` — the outcome of comparing two links.
* `LinkOrigin.run_laws` — what holds of all links.
-/

namespace NoteVault

/-! ## Fields -/

/-- The five fields of a link. -/
structure LinkFields where
  /-- The path of the file. -/
  path : Text
  /-- The name of the type. -/
  type : Text
  /-- The part below the file, if there is one. -/
  subpath : Option Text
  /-- The text shown, if there is one. -/
  display : Option Text
  /-- Whether the target is shown in place of the link. -/
  embed : Bool

/-- The link that fields make, if they make one. -/
def LinkFields.link? (f : LinkFields) : Except LinkError Link :=
  match LinkKind.ofName? f.type with
  | some kind => Link.ofParts f.path kind f.subpath f.display f.embed
  | none => .error (.unknownKind (Text.quoted f.type))

/-- The fields of a link. -/
def Link.fields (l : Link) : LinkFields := ⟨l.path, l.kind.name, l.subpath?, l.display, l.embed⟩

theorem LinkKind.ofName?_name (kind : LinkKind) : LinkKind.ofName? kind.name = some kind := by
  cases kind <;> decide

theorem LinkKind.name_of_ofName? {s : Text} {kind : LinkKind}
    (h : LinkKind.ofName? s = some kind) : kind.name = s := by
  simpa using List.find?_some h

/-- A link points at a place in a file exactly if it has a subpath. -/
theorem Link.subpath?_eq_none_iff (l : Link) : l.subpath? = none ↔ l.kind = .file := by
  obtain ⟨_, target, _, _⟩ := l
  cases target <;> simp [subpath?, kind, LinkTarget.subpath?, LinkTarget.kind]

/-- The fields of a link make it again. -/
theorem Link.ofParts_eq (l : Link) :
    Link.ofParts l.path l.kind l.subpath? l.display l.embed = .ok l := by
  obtain ⟨_, target, _, _⟩ := l
  cases target <;> rfl

theorem Link.link?_fields (l : Link) : l.fields.link? = .ok l := by
  rw [LinkFields.link?, fields, LinkKind.ofName?_name]
  exact l.ofParts_eq

/-- **Which fields make a link**: those of it. -/
theorem LinkFields.link?_eq_ok {f : LinkFields} {l : Link} : f.link? = .ok l ↔ f = l.fields := by
  constructor
  · intro h
    obtain ⟨path, type, subpath, display, embed⟩ := f
    unfold link? at h
    split at h
    · next kind hkind =>
        have hname : kind.name = type := LinkKind.name_of_ofName? hkind
        cases kind <;> cases subpath <;> cases h <;> cases hname <;> rfl
    · cases h
  · rintro rfl
    exact l.link?_fields

/-! ## Changes -/

/-- A change of a link. -/
inductive LinkStep where
  /-- To another file. -/
  | withPath (path : Text)
  /-- To another text shown, or to none. -/
  | withDisplay (display : Option Text)
  /-- To a header of the file. -/
  | withHeader (header : Text)
  /-- To the file as a whole. -/
  | toFile
  /-- To an embedding link. -/
  | toEmbed
  deriving DecidableEq

namespace LinkStep

/-- The link after a change. -/
def apply (l : Link) : LinkStep → Link
  | .withPath path => l.withPath path
  | .withDisplay display => l.withDisplay display
  | .withHeader header => l.withHeader header
  | .toFile => l.toFile
  | .toEmbed => l.toEmbed

/-- The fields that are put together for a change. -/
def fields (f : LinkFields) : LinkStep → LinkFields
  | .withPath path => { f with path }
  | .withDisplay display => { f with display }
  | .withHeader header =>
    { f with type := LinkKind.header.name, subpath := some (normalizeHeader header) }
  | .toFile => { f with type := LinkKind.file.name, subpath := none }
  | .toEmbed => { f with embed := true }

/-- The path that a change gives. -/
def path? : LinkStep → Option Text
  | .withPath path => some path
  | _ => none

/-- The text shown that a change gives. -/
def display? : LinkStep → Option (Option Text)
  | .withDisplay display => some display
  | _ => none

/-- The place in the file that a change gives. -/
def target? : LinkStep → Option LinkTarget
  | .withHeader header => some (.header (normalizeHeader header))
  | .toFile => some .file
  | _ => none

/-- **A change is never refused**: the new fields make the changed link. -/
theorem link?_fields (s : LinkStep) (l : Link) : (s.fields l.fields).link? = .ok (s.apply l) := by
  rw [LinkFields.link?_eq_ok]
  cases s <;> rfl

end LinkStep

/-- The link after some changes. -/
def Link.derive (l : Link) (steps : List LinkStep) : Link := steps.foldl LinkStep.apply l

/-- A part of a state that each step gives anew or leaves is the last one given. -/
theorem view_foldl_eq {σ ι α : Type} {apply : σ → ι → σ} {view : σ → α} {given? : ι → Option α}
    (h : ∀ x step, view (apply x step) = (given? step).getD (view x)) (start : σ)
    (steps : List ι) :
    view (steps.foldl apply start) = (steps.filterMap given?).getLastD (view start) := by
  induction steps generalizing start with
  | nil => rfl
  | cons step rest ih =>
      rw [List.foldl_cons, ih, h, List.filterMap_cons]
      cases given? step with
      | none => rfl
      | some a => rw [List.getLastD_cons, Option.getD_some]

/-- A link embeds its target if it did so before or was made to. -/
theorem Link.embed_derive (start : Link) (steps : List LinkStep) :
    (start.derive steps).embed ↔ start.embed ∨ .toEmbed ∈ steps := by
  unfold derive
  induction steps generalizing start with
  | nil => simp
  | cons step rest ih =>
      rw [List.foldl_cons, ih, List.mem_cons, ← or_assoc]
      refine or_congr_left ?_
      cases step with
      | toEmbed => exact iff_of_true rfl (Or.inr rfl)
      | _ => exact ⟨Or.inl, fun h => h.resolve_right nofun⟩

/-! ## Making a link -/

/-- How a link is made. -/
inductive LinkOrigin where
  /-- As a link to a file. -/
  | file (path : Text) (embed : Bool) (display : Option Text)
  /-- As a link to a header. -/
  | header (path words : Text) (embed : Bool) (display : Option Text)
  /-- As a link to a block. -/
  | block (path id : Text) (embed : Bool) (display : Option Text)
  /-- From its fields. -/
  | fields (f : LinkFields)
  /-- From a record. -/
  | record (entries : List (Key × Value))

namespace LinkOrigin

/-- The link that is made, if its parts fit together. -/
def make : LinkOrigin → Except RecordError Link
  | .file path embed display => .ok (Link.toFileAt path embed display)
  | .header path words embed display => .ok (Link.toHeaderAt path words embed display)
  | .block path id embed display => .ok (Link.toBlockAt path id embed display)
  | .fields f => f.link?.mapError .link
  | .record entries => Link.ofRecord entries

/-- A link is made and changed; after every change the fields are checked again. -/
def run (origin : LinkOrigin) (steps : List LinkStep) : Except RecordError Link := do
  steps.foldlM (fun l step => (step.fields l.fields).link?.mapError .link) (← origin.make)

/-- **The link that a run of changes leads to.** Nothing can be refused but the making. -/
theorem run_eq (origin : LinkOrigin) (steps : List LinkStep) :
    origin.run steps = origin.make.map fun start => start.derive steps := by
  have hstep : (fun (l : Link) step => (LinkStep.fields l.fields step).link?.mapError
      RecordError.link) = fun l step => pure (LinkStep.apply l step) := by
    funext l step
    rw [LinkStep.link?_fields]
    rfl
  unfold run
  rw [hstep]
  cases origin.make with
  | error e => rfl
  | ok start => exact List.foldlM_pure

theorem run_eq_ok {origin : LinkOrigin} {start : Link} (h : origin.make = .ok start)
    (steps : List LinkStep) : origin.run steps = .ok (start.derive steps) := by
  rw [run_eq, h]
  rfl

end LinkOrigin

/-! ## Records -/

theorem Entries.get?_string_cons {α : Type} (name key : Text) (v : α) (rest : List (Key × α)) :
    Entries.get? name ((.string key, v) :: rest) =
      if key = name then some v else Entries.get? name rest := by
  simp [get?, Key.same, Key.numeric?]

theorem Link.kindOf_name (kind : LinkKind) :
    Link.kindOf (some (.string kind.name)) = .ok kind := by
  unfold kindOf
  dsimp only
  rw [LinkKind.ofName?_name]

/-- A text that may be missing, as a record has it. -/
def textOrNull : Option Text → Value
  | none => .null
  | some s => .string s

theorem asText?_textOrNull (s : Option Text) : (textOrNull s).asText? = .ok s := by
  cases s <;> rfl

theorem Link.toRecord_eq (l : Link) : l.toRecord =
    [(.string "path", .string l.path), (.string "type", .string l.kind.name),
      (.string "subpath", textOrNull l.subpath?), (.string "display", textOrNull l.display),
      (.string "embed", .bool l.embed)] := rfl

/-- **The record of a link gives it back.** -/
theorem Link.ofRecord_toRecord (l : Link) : Link.ofRecord l.toRecord = .ok l := by
  have hpath : Entries.get? "path" l.toRecord = some (.string l.path) := by
    simp [toRecord_eq, Entries.get?_string_cons]
  have htype : Entries.get? "type" l.toRecord = some (.string l.kind.name) := by
    simp [toRecord_eq, Entries.get?_string_cons]
  have hsubpath : Entries.get? "subpath" l.toRecord = some (textOrNull l.subpath?) := by
    simp [toRecord_eq, Entries.get?_string_cons]
  have hdisplay : Entries.get? "display" l.toRecord = some (textOrNull l.display) := by
    simp [toRecord_eq, Entries.get?_string_cons]
  have hembed : Entries.get? "embed" l.toRecord = some (.bool l.embed) := by
    simp [toRecord_eq, Entries.get?_string_cons]
  unfold ofRecord
  rw [hpath, htype, kindOf_name]
  dsimp only [Bind.bind, Except.bind, Pure.pure, Except.pure]
  rw [hsubpath, hdisplay, hembed, Option.getD_some, Option.getD_some, Option.getD_some,
    asText?_textOrNull, asText?_textOrNull]
  dsimp only [Value.plainText, Value.isSet]
  rw [l.ofParts_eq]

/-! ## Comparing -/

theorem LinkTarget.eq_iff {t u : LinkTarget} : t = u ↔ t.kind = u.kind ∧ t.subpath? = u.subpath? := by
  cases t <;> cases u <;> simp [kind, subpath?]

/-- Links point at the same place exactly if they have one path, one type and one subpath. -/
theorem Link.pointsLike_iff {l m : Link} :
    l.pointsLike m ↔ l.path = m.path ∧ l.kind = m.kind ∧ l.subpath? = m.subpath? := by
  simp only [pointsLike, Bool.and_eq_true, decide_eq_true_eq, LinkTarget.eq_iff, kind, subpath?]

/-- **The outcome of comparing two links** without U+0000: no difference is found exactly if
they point at the same place. -/
theorem Link.compare_eq_ok {l m : Link} (hl : (Value.link l).isComparable fun path => path)
    (hm : (Value.link m).isComparable fun path => path) :
    ∃ o, (Value.link l).compare (.link m) = .ok o ∧ (o = .eq ↔ l.pointsLike m) := by
  refine ⟨_, Value.compareBy_eq_order hl hm, ?_⟩
  rw [OrderKey.order_eq_iff, pointsLike_iff]
  constructor
  · intro hkey
    obtain ⟨hpath, hkind, hsubpath⟩ := OrderKey.link.inj hkey
    -- a missing subpath and an empty one are told apart by the kinds
    exact ⟨hpath, hkind, Value.subpath?_eq_of_getD hkind hsubpath⟩
  · rintro ⟨hpath, hkind, hsubpath⟩
    exact Value.literalKey_of_alike (.link hpath hkind hsubpath)

/-! ## All links -/

/-- What holds of the link that some changes make of another one. -/
structure LinkLaws (start : Link) (steps : List LinkStep) (l : Link) : Prop where
  /-- It has one of three types. -/
  type : l.fields.type ∈ [LinkKind.file.name, LinkKind.header.name, LinkKind.block.name]
  /-- It has no subpath exactly if it points at a file. -/
  subpath : l.subpath? = none ↔ l.fields.type = LinkKind.file.name
  /-- Its path is the last one given. -/
  path : l.path = (steps.filterMap LinkStep.path?).getLastD start.path
  /-- The text shown is the last one given. -/
  display : l.display = (steps.filterMap LinkStep.display?).getLastD start.display
  /-- So is the place in the file. -/
  target : l.target = (steps.filterMap LinkStep.target?).getLastD start.target
  /-- It embeds its target if it was ever made to. -/
  embed : l.embed ↔ start.embed ∨ .toEmbed ∈ steps
  /-- Its record gives it back. -/
  record : Link.ofRecord l.toRecord = .ok l
  /-- It is compared with any other link, if both are without U+0000, and no difference is found
  exactly if both point at the same place. -/
  compare : ∀ m : Link, ((Value.link l).isComparable fun path => path) →
    ((Value.link m).isComparable fun path => path) →
    ∃ o, (Value.link l).compare (.link m) = .ok o ∧ (o = .eq ↔ l.pointsLike m)
  /-- That is, if they have one path, one type and one subpath. -/
  pointsLike : ∀ m : Link,
    l.pointsLike m ↔ l.path = m.path ∧ l.kind = m.kind ∧ l.subpath? = m.subpath?

theorem Link.laws_derive (start : Link) (steps : List LinkStep) :
    LinkLaws start steps (start.derive steps) where
  type := by
    show (start.derive steps).kind.name ∈ _
    cases (start.derive steps).kind <;> simp
  subpath := by
    rw [subpath?_eq_none_iff]
    show _ ↔ (start.derive steps).kind.name = _
    cases (start.derive steps).kind <;> decide
  path := view_foldl_eq (fun l step => by cases step <;> rfl) start steps
  display := view_foldl_eq (fun l step => by cases step <;> rfl) start steps
  target := view_foldl_eq (fun l step => by cases step <;> rfl) start steps
  embed := embed_derive start steps
  record := ofRecord_toRecord _
  compare _ := compare_eq_ok
  pointsLike _ := pointsLike_iff

/-- **What holds of all links**, however they were made and changed. A link that could be made
can be changed in any way: the check after every change is passed, and the run leads to the link
that the changes themselves give one after the other. -/
theorem LinkOrigin.run_laws (origin : LinkOrigin) (steps : List LinkStep) {start : Link}
    (hmake : origin.make = .ok start) :
    origin.run steps = .ok (start.derive steps) ∧ LinkLaws start steps (start.derive steps) :=
  ⟨run_eq_ok hmake steps, start.laws_derive steps⟩

/-- A link to a header that has no word in it. -/
def wordlessOrigin : LinkOrigin := .header "a.md" "???" false (some "A")

/-- It is made to embed its target, to point at its file, then at a header without any word, and
then at another file. -/
def wordlessSteps : List LinkStep := [.toEmbed, .toFile, .withHeader "!!", .withPath "b.md"]

theorem LinkOrigin.run_laws_wordless :
    wordlessOrigin.make = .ok ⟨"a.md", .header [], some "A", false⟩ ∧
      wordlessOrigin.run wordlessSteps =
        .ok (Link.derive ⟨"a.md", .header [], some "A", false⟩ wordlessSteps) ∧
      LinkLaws ⟨"a.md", .header [], some "A", false⟩ wordlessSteps
        (Link.derive ⟨"a.md", .header [], some "A", false⟩ wordlessSteps) := by
  have hmake : wordlessOrigin.make = .ok ⟨"a.md", .header [], some "A", false⟩ := by decide +kernel
  exact ⟨hmake, wordlessOrigin.run_laws wordlessSteps hmake⟩

end NoteVault
