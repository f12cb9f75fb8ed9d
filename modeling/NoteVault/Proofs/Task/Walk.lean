import NoteVault.Proofs.Text.Numeral
import NoteVault.Task.Node

/-!
# Nodes below nodes

Walking down from a node meets every node below it once, each directly in front of the nodes
below it. So the walk of a node that is met lies in one piece in the walk in which it is met.
That is all that is used of walks: what is below a node below is below, and its walk is shorter.

A node is known by its identifier, in which the line is written behind the last colon. As a line
is written without colons, no two places share an identifier, whatever the paths are.

## Main results

* `TaskNode.exists_append_of_mem_walkAll` — a walk lies in one piece in the walk around it.
* `TaskNode.id_eq_iff` — identifiers are equal exactly if path and line are.
-/

namespace NoteVault

namespace TaskNode

/-! ## Walks -/

@[simp]
theorem walk_eq (n : TaskNode) : n.walk = walkAll n.children := by
  cases n
  rfl

@[simp]
theorem walkAll_nil : walkAll [] = [] := rfl

theorem walkAll_cons (n : TaskNode) (rest : List TaskNode) :
    walkAll (n :: rest) = n :: walkAll n.children ++ walkAll rest := by
  rw [walkAll, walk_eq]

theorem walkAll_cons_eq_append (n : TaskNode) (rest : List TaskNode) :
    walkAll (n :: rest) = walkAll [n] ++ walkAll rest := by
  rw [walkAll_cons, walkAll_cons, walkAll_nil, List.append_nil]

theorem walkAll_eq_flatMap (ns : List TaskNode) :
    walkAll ns = ns.flatMap fun n => walkAll [n] := by
  induction ns with
  | nil => rfl
  | cons n rest ih => rw [walkAll_cons_eq_append, ih, List.flatMap_cons]

theorem mem_walkAll_singleton {n d : TaskNode} :
    d ∈ walkAll [n] ↔ d = n ∨ d ∈ walkAll n.children := by
  rw [walkAll_cons, walkAll_nil, List.append_nil, List.mem_cons]

theorem mem_walkAll {d : TaskNode} {ns : List TaskNode} :
    d ∈ walkAll ns ↔ ∃ n ∈ ns, d = n ∨ d ∈ walkAll n.children := by
  rw [walkAll_eq_flatMap]
  simp only [List.mem_flatMap, mem_walkAll_singleton]

theorem mem_walkAll_self {n : TaskNode} {ns : List TaskNode} (h : n ∈ ns) : n ∈ walkAll ns :=
  mem_walkAll.mpr ⟨n, h, Or.inl rfl⟩

mutual
/-- **Induction on lists of nodes**: what is claimed of a list is known of the nodes below its
first node and of the rest. -/
@[elab_as_elim]
theorem forestInduction {P : List TaskNode → Prop} (nil : P [])
    (cons : ∀ n rest, P n.children → P rest → P (n :: rest)) : ∀ ns, P ns
  | [] => nil
  | n :: rest => cons n rest (childrenInduction nil cons n) (forestInduction nil cons rest)

theorem childrenInduction {P : List TaskNode → Prop} (nil : P [])
    (cons : ∀ n rest, P n.children → P rest → P (n :: rest)) : ∀ n : TaskNode, P n.children
  | ⟨_, _, _, _, _, _, children, _, _, _, _⟩ => forestInduction nil cons children
end

theorem fullyCompleted_eq (n : TaskNode) :
    n.fullyCompleted = (n.completed && tasksFullyCompleted n.children) := by
  cases n
  rfl

/-- **A walk lies in one piece in the walk around it**, behind its own node. -/
theorem exists_append_of_mem_walkAll {ns : List TaskNode} {d : TaskNode} (h : d ∈ walkAll ns) :
    ∃ before after, walkAll ns = before ++ (d :: walkAll d.children ++ after) := by
  induction ns using forestInduction with
  | nil => cases h
  | cons n rest ihBelow ihRest =>
      rw [walkAll_cons, List.cons_append, List.mem_cons, List.mem_append] at h
      rw [walkAll_cons]
      rcases h with rfl | h | h
      · exact ⟨[], walkAll rest, rfl⟩
      · obtain ⟨before, after, heq⟩ := ihBelow h
        exact ⟨n :: before, after ++ walkAll rest, by rw [heq]; simp⟩
      · obtain ⟨before, after, heq⟩ := ihRest h
        exact ⟨n :: walkAll n.children ++ before, after, by rw [heq]; simp⟩

/-- What is below a node that is met is met. -/
theorem walkAll_children_subset {ns : List TaskNode} {d : TaskNode} (h : d ∈ walkAll ns) :
    walkAll d.children ⊆ walkAll ns := by
  obtain ⟨before, after, heq⟩ := exists_append_of_mem_walkAll h
  intro k hk
  rw [heq]
  simp [hk]

theorem mem_walkAll_trans {ns : List TaskNode} {n d : TaskNode} (hn : n ∈ walkAll ns)
    (hd : d ∈ walkAll [n]) : d ∈ walkAll ns := by
  rcases mem_walkAll_singleton.mp hd with rfl | hd
  · exact hn
  · exact walkAll_children_subset hn hd

/-- What is met from nodes that are met is met. -/
theorem walkAll_subset {ns items : List TaskNode} (h : items ⊆ walkAll ns) :
    walkAll items ⊆ walkAll ns := by
  intro d hd
  obtain ⟨n, hn, hd⟩ := mem_walkAll.mp hd
  exact mem_walkAll_trans (h hn) (mem_walkAll_singleton.mpr hd)

/-- The walk of a node that is met is shorter. -/
theorem length_walkAll_children_lt {ns : List TaskNode} {d : TaskNode} (h : d ∈ walkAll ns) :
    (walkAll d.children).length < (walkAll ns).length := by
  obtain ⟨before, after, heq⟩ := exists_append_of_mem_walkAll h
  rw [heq]
  simp only [List.length_append, List.length_cons]
  omega

end TaskNode

/-! ## Identifiers -/

/-- Two texts are cut alike at the last of some separator. -/
theorem append_cons_inj {sep : Char} {front back front' back' : Text} (hback : sep ∉ back)
    (hback' : sep ∉ back') (h : front ++ sep :: back = front' ++ sep :: back') :
    front = front' ∧ back = back' := by
  rcases List.append_eq_append_iff.mp h with ⟨mid, rfl, hmid⟩ | ⟨mid, rfl, hmid⟩
  · cases mid with
    | nil => exact ⟨(List.append_nil _).symm, (List.cons.inj hmid).2⟩
    | cons c mid =>
        refine absurd ?_ hback
        rw [(List.cons.inj hmid).2]
        simp
  · cases mid with
    | nil => exact ⟨List.append_nil _, (List.cons.inj hmid).2.symm⟩
    | cons c mid =>
        refine absurd ?_ hback'
        rw [(List.cons.inj hmid).2]
        simp

/-- **No two places share an identifier**, even when there are colons in the paths. -/
theorem TaskNode.id_eq_iff {n m : TaskNode} :
    n.id = m.id ↔ n.path = m.path ∧ n.line = m.line := by
  constructor
  · intro h
    have hcolon : ∀ i : Int, ':' ∉ Text.ofInt i := by
      intro i hmem
      rcases Text.isDigit_or_of_mem_ofInt hmem with hdigit | hsign
      · exact absurd hdigit (by decide)
      · exact absurd hsign (by decide)
    obtain ⟨hpath, hline⟩ := append_cons_inj (hcolon n.line) (hcolon m.line) h
    exact ⟨hpath, Text.ofInt_injective hline⟩
  · rintro ⟨hpath, hline⟩
    unfold TaskNode.id
    rw [hpath, hline]

end NoteVault
