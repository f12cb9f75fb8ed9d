import NoteVault.Proofs.Task.Nest

/-!
# Which tasks must be completed

A node counts as fully completed if it is completed and so are the tasks among its children, each
fully. The recursion goes down through tasks only: it stops at an item without a checkbox, so a
task below such an item is never asked. Walking down meets it all the same.

So a fully completed node is one from which only completed tasks are reached through tasks. That
all tasks met below it are completed is more, by what is below the items without a checkbox.

## Main results

* `TaskNode.fullyCompleted_iff_reaches` — the tasks that the recursion asks.
* `TaskNode.reaches_or_below_plain` — the tasks that it does not ask.
* `TaskNode.fullyCompleted_scope` — both, and when the difference does not matter.
-/

namespace NoteVault

namespace TaskNode

/-- The second node is a task below the first one, and so is every node in between. -/
inductive Reaches : TaskNode → TaskNode → Prop
  /-- A task is one step down. -/
  | child {n d : TaskNode} (hd : d ∈ n.children) (htask : d.isTask = true) : Reaches n d
  /-- A task is further down, behind a task one step down. -/
  | deeper {n c d : TaskNode} (hc : c ∈ n.children) (htask : c.isTask = true) (hd : Reaches c d) :
    Reaches n d

/-- Everything there is to do about a node is done: it is completed, and so is every task met
below it. -/
def AllCompleted (n : TaskNode) : Prop :=
  n.completed = true ∧ ∀ d ∈ n.walk, d.isTask = true → d.completed = true

instance (n : TaskNode) : Decidable n.AllCompleted :=
  inferInstanceAs (Decidable (_ ∧ _))

variable {n d : TaskNode}

theorem reaches_iff :
    Reaches n d ↔ ∃ c ∈ n.children, c.isTask = true ∧ (d = c ∨ Reaches c d) := by
  constructor
  · intro h
    cases h with
    | child hd htask => exact ⟨d, hd, htask, .inl rfl⟩
    | deeper hc htask hd => exact ⟨_, hc, htask, .inr hd⟩
  · rintro ⟨c, hc, htask, rfl | hd⟩
    · exact .child hc htask
    · exact .deeper hc htask hd

/-! ## The tasks that are asked -/

theorem tasksFullyCompleted_iff (ns : List TaskNode) :
    tasksFullyCompleted ns = true ↔ ∀ c ∈ ns, c.isTask = true → c.fullyCompleted = true := by
  induction ns with
  | nil => simp [tasksFullyCompleted]
  | cons n rest ih =>
      rw [tasksFullyCompleted, Bool.and_eq_true, ih, List.forall_mem_cons]
      cases n.isTask <;> simp

theorem fullyCompleted_iff (n : TaskNode) : n.fullyCompleted = true ↔
    n.completed = true ∧ ∀ c ∈ n.children, c.isTask = true → c.fullyCompleted = true := by
  rw [fullyCompleted_eq, Bool.and_eq_true, tasksFullyCompleted_iff]

/-- The same for each of some nodes, by induction on the nodes. -/
theorem fullyCompleted_iff_reaches_of_mem (ns : List TaskNode) : ∀ n ∈ ns,
    n.fullyCompleted = true ↔
      n.completed = true ∧ ∀ d, Reaches n d → d.completed = true := by
  induction ns using forestInduction with
  | nil => nofun
  | cons n rest ihBelow ihRest =>
      refine List.forall_mem_cons.mpr ⟨?_, ihRest⟩
      rw [fullyCompleted_iff]
      apply and_congr_right
      intro _
      constructor
      · intro h d hd
        obtain ⟨c, hc, htask, hd⟩ := reaches_iff.mp hd
        obtain ⟨hcompleted, hbelow⟩ := (ihBelow c hc).mp (h c hc htask)
        rcases hd with rfl | hd
        · exact hcompleted
        · exact hbelow d hd
      · intro h c hc htask
        have hbelow : ∀ d, Reaches c d → d.completed = true := fun d hd =>
          h d (.deeper hc htask hd)
        exact (ihBelow c hc).mpr ⟨h c (.child hc htask), hbelow⟩

/-- **The tasks that the recursion asks** are those reached through tasks. -/
theorem fullyCompleted_iff_reaches (n : TaskNode) : n.fullyCompleted = true ↔
    n.completed = true ∧ ∀ d, Reaches n d → d.completed = true :=
  fullyCompleted_iff_reaches_of_mem [n] n List.mem_cons_self

/-! ## The tasks that are met -/

/-- A task that is reached is met. -/
theorem Reaches.mem_walk (h : Reaches n d) : d ∈ n.walk ∧ d.isTask = true := by
  induction h with
  | child hd htask =>
      rw [walk_eq]
      exact ⟨mem_walkAll_self hd, htask⟩
  | deeper hc _ _ ih =>
      obtain ⟨hwalk, htask⟩ := ih
      rw [walk_eq] at hwalk ⊢
      exact ⟨mem_walkAll.mpr ⟨_, hc, .inr hwalk⟩, htask⟩

/-- A task that is met from some nodes is reached from one of them, or is one, or it stands below
an item without a checkbox. -/
theorem reached_or_below_plain {ns : List TaskNode} (hd : d ∈ walkAll ns) (htask : d.isTask = true) :
    (∃ c ∈ ns, c.isTask = true ∧ (d = c ∨ Reaches c d)) ∨
      ∃ p ∈ walkAll ns, p.isTask = false ∧ d ∈ p.walk := by
  induction ns using forestInduction with
  | nil => cases hd
  | cons c rest ihBelow ihRest =>
      have hself : c ∈ walkAll (c :: rest) := mem_walkAll_self List.mem_cons_self
      rw [walkAll_cons, List.cons_append, List.mem_cons, List.mem_append] at hd
      rcases hd with rfl | hbelow | hrest
      · exact .inl ⟨d, List.mem_cons_self, htask, .inl rfl⟩
      · by_cases hc : c.isTask = true
        · rcases ihBelow hbelow with hreached | ⟨p, hp, hplain⟩
          · exact .inl ⟨c, List.mem_cons_self, hc, .inr (reaches_iff.mpr hreached)⟩
          · exact .inr ⟨p, walkAll_children_subset hself hp, hplain⟩
        · -- the item has no checkbox itself
          have hwalk : d ∈ c.walk := by rwa [walk_eq]
          exact .inr ⟨c, hself, eq_false_of_ne_true hc, hwalk⟩
      · rcases ihRest hrest with ⟨b, hb, hreached⟩ | ⟨p, hp, hplain⟩
        · exact .inl ⟨b, List.mem_cons_of_mem c hb, hreached⟩
        · refine .inr ⟨p, ?_, hplain⟩
          rw [walkAll_cons_eq_append]
          exact List.mem_append_right _ hp

/-- **The tasks that it does not ask**: a task that is met is reached, or it stands below an item
without a checkbox. -/
theorem reaches_or_below_plain (hd : d ∈ n.walk) (htask : d.isTask = true) :
    Reaches n d ∨ ∃ p ∈ n.walk, p.isTask = false ∧ d ∈ p.walk := by
  rw [reaches_iff, walk_eq]
  rw [walk_eq] at hd
  exact reached_or_below_plain hd htask

/-- If everything is done, the node is fully completed. -/
theorem AllCompleted.fullyCompleted (h : n.AllCompleted) : n.fullyCompleted = true := by
  refine (fullyCompleted_iff_reaches n).mpr ⟨h.1, fun d hd => ?_⟩
  obtain ⟨hwalk, htask⟩ := hd.mem_walk
  exact h.2 d hwalk htask

/-- What is done about a fully completed node, but for what is below items without a checkbox. -/
theorem allCompleted_iff_of_fullyCompleted (h : n.fullyCompleted = true) : n.AllCompleted ↔
    ∀ p ∈ n.walk, p.isTask = false → ∀ d ∈ p.walk, d.isTask = true → d.completed = true := by
  constructor
  · intro hall p hp _ d hd htask
    rw [walk_eq] at hp hd
    refine hall.2 d ?_ htask
    rw [walk_eq]
    exact walkAll_children_subset hp hd
  · intro hplain
    obtain ⟨hcompleted, hreached⟩ := (fullyCompleted_iff_reaches n).mp h
    refine ⟨hcompleted, fun d hd htask => ?_⟩
    rcases reaches_or_below_plain hd htask with hd | ⟨p, hp, hp', hd⟩
    · exact hreached d hd
    · exact hplain p hp hp' d hd htask

/-- **What full completion says.** It says that all tasks reached through tasks are completed, and
that everything is done exactly if nothing is left to do below an item without a checkbox. -/
theorem fullyCompleted_scope (n : TaskNode) :
    (n.fullyCompleted = true ↔ n.completed = true ∧ ∀ d, Reaches n d → d.completed = true) ∧
      ((n.fullyCompleted = true ↔ n.AllCompleted) ↔
        (n.fullyCompleted = true → ∀ p ∈ n.walk, p.isTask = false →
          ∀ d ∈ p.walk, d.isTask = true → d.completed = true)) := by
  refine ⟨fullyCompleted_iff_reaches n, fun h hfull => ?_, fun h => ⟨fun hfull => ?_, ?_⟩⟩
  · exact (allCompleted_iff_of_fullyCompleted hfull).mp (h.mp hfull)
  · exact (allCompleted_iff_of_fullyCompleted hfull).mpr (h hfull)
  · exact AllCompleted.fullyCompleted

/-- An open task below an item without a checkbox, which is below a completed task. -/
def shieldedTask : TaskNode :=
  let openTask := { plainItem "n" 2 [] with status := some [' '] }
  { plainItem "n" 0 [plainItem "n" 1 [openTask]] with status := some ['x'] }

/-- **An open task is passed over**, because the item above it has no checkbox. -/
theorem fullyCompleted_passes_over :
    shieldedTask.fullyCompleted = true ∧ shieldedTask.completed = true ∧
      (∃ d ∈ shieldedTask.walk, d.isTask = true ∧ d.completed = false) ∧
      ¬ (shieldedTask.fullyCompleted = true ↔ shieldedTask.AllCompleted) := by
  have hopen : ∃ d ∈ shieldedTask.walk, d.isTask = true ∧ d.completed = false := by
    decide +kernel
  refine ⟨by decide +kernel, by decide +kernel, hopen, ?_⟩
  decide +kernel

end TaskNode
end NoteVault
