import ScpiConsole.Disk
/-!
# What was written is read

A path leads to its place through directories alone. A file that is written stands at no such place, so
the path still leads there and the bytes are found.

* `follow_put` : a file does not come in the way of a path to it
* `read_of_write` : after a write the same path gives what was written
* `read_withFault` : a disk that takes no changes can be read all the same
-/

namespace ScpiConsole.Disk

variable {d d' : Disk} {place : List String} {node : FileNode}

@[simp] theorem node?_nil (d : Disk) : d.node? [] = some .directory := rfl

theorem node?_put_self (h : place ≠ []) (d : Disk) (node : FileNode) :
    (d.put place node).node? place = some node := by
  have hplace : ¬ place.isEmpty = true := by simpa using h
  rw [node?, if_neg hplace, put, List.lookup_cons_self]

theorem lookup_filter_of_ne {other : List String} (h : other ≠ place)
    (nodes : List (List String × FileNode)) :
    (nodes.filter fun n => n.1 ≠ place).lookup other = nodes.lookup other := by
  induction nodes with
  | nil => rfl
  | cons n nodes ih =>
    obtain ⟨k, node⟩ := n
    by_cases hk : k = place
    · subst hk
      rw [List.filter_cons_of_neg (by simp), ih, List.lookup_cons, beq_false_of_ne h]
    · rw [List.filter_cons_of_pos (by simpa using hk), List.lookup_cons, List.lookup_cons, ih]

theorem node?_put_of_ne {other : List String} (h : other ≠ place) (d : Disk) (node : FileNode) :
    (d.put place node).node? other = d.node? other := by
  by_cases hother : other.isEmpty = true
  · rw [node?, node?, if_pos hother, if_pos hother]
  · rw [node?, node?, if_neg hother, if_neg hother, put, List.lookup_cons, beq_false_of_ne h]
    exact lookup_filter_of_ne h d.nodes

/-! ## Paths -/

/-- Parts are followed through directories only. -/
theorem follow_put (h : d.node? place ≠ some .directory) (node : FileNode) (start : List String)
    {parts : List String} {goal : List String} (hgoal : d.follow start parts = .ok goal) :
    (d.put place node).follow start parts = .ok goal := by
  induction parts generalizing start with
  | nil => exact hgoal
  | cons part parts ih =>
    rw [follow] at hgoal ⊢
    cases hstart : d.node? start with
    | none => rw [hstart] at hgoal; cases hgoal
    | some found =>
      cases found with
      | file content => rw [hstart] at hgoal; cases hgoal
      | directory =>
        -- Where the path goes on there is a directory, and so it is not the place of the node.
        have hne : start ≠ place := by
          rintro rfl
          exact h hstart
        rw [hstart] at hgoal
        rw [node?_put_of_ne hne, hstart]
        dsimp only at hgoal ⊢
        split at hgoal
        · next hdot => rw [if_pos hdot]; exact ih start hgoal
        next hdot =>
        rw [if_neg hdot]
        split at hgoal
        · next hup => rw [if_pos hup]; exact ih start.dropLast hgoal
        next hup =>
        rw [if_neg hup]
        split at hgoal
        · cases hgoal
        · next hlong => rw [if_neg hlong]; exact ih (start ++ [part]) hgoal

/-- The directory in which a path starts. -/
def start (d : Disk) (path : List Char) : List String :=
  if Path.isAbsolute path then [] else d.working

variable {path : List Char} {found : Option FileNode}

theorem locate_eq_ok_iff : d.locate path = .ok (place, found) ↔
    (path.contains '\x00' = false ∧ path.isEmpty = false ∧
      (String.ofList path).utf8ByteSize ≤ maxPathSize) ∧
    d.follow (d.start path) (Path.parts path) = .ok place ∧ d.node? place = found ∧
    ∀ content, found = some (.file content) → path.getLast? ≠ some '/' := by
  rw [locate]
  by_cases hnul : path.contains '\x00' = true
  · rw [if_pos hnul]
    refine iff_of_false (fun h => ?_) fun h => absurd hnul (by rw [h.1.1]; decide)
    cases h
  by_cases hempty : path.isEmpty = true
  · rw [if_neg hnul, if_pos hempty]
    refine iff_of_false (fun h => ?_) fun h => absurd hempty (by rw [h.1.2.1]; decide)
    cases h
  by_cases hlong : maxPathSize < (String.ofList path).utf8ByteSize
  · rw [if_neg hnul, if_neg hempty, if_pos hlong]
    refine iff_of_false (fun h => ?_) fun h => absurd hlong (Nat.not_lt.2 h.1.2.2)
    cases h
  rw [if_neg hnul, if_neg hempty, if_neg hlong, ← start]
  rw [Bool.not_eq_true] at hnul hempty
  simp only [hnul, hempty, Nat.not_lt.1 hlong, true_and]
  cases d.follow (d.start path) (Path.parts path) with
  | error e =>
    refine iff_of_false (fun h => ?_) fun h => ?_
    · cases h
    · cases h.1
  | ok goal =>
    dsimp only [bind, Except.bind]
    rw [Except.ok.injEq]
    split
    · next content hnode =>
      by_cases hslash : path.getLast? = some '/'
      · rw [if_pos hslash]
        refine iff_of_false (fun h => ?_) ?_
        · cases h
        · rintro ⟨rfl, rfl, h⟩
          exact h content hnode hslash
      · rw [if_neg hslash]
        simp only [pure, Except.pure, Except.ok.injEq, Prod.mk.injEq]
        constructor
        · rintro ⟨rfl, rfl⟩
          exact ⟨rfl, hnode, fun _ _ => hslash⟩
        · rintro ⟨rfl, rfl, -⟩
          exact ⟨rfl, hnode.symm⟩
    · next hfile =>
      simp only [pure, Except.pure, Except.ok.injEq, Prod.mk.injEq]
      constructor
      · rintro ⟨rfl, rfl⟩
        exact ⟨rfl, rfl, fun content h => (hfile content h).elim⟩
      · rintro ⟨rfl, rfl, -⟩
        exact ⟨rfl, rfl⟩

/-! ## Reading after writing -/

theorem change_eq_ok (h : d.change place node = .ok d') : d' = d.put place node := by
  unfold change at h
  split at h
  · cases h
  · exact (Except.ok.inj h).symm

theorem read_eq_ok_iff {content : List UInt8} : d.read path = .ok content ↔
    ∃ place, d.locate path = .ok (place, some (.file content)) := by
  rw [read]
  cases hlocate : d.locate path with
  | error e =>
    refine iff_of_false (fun h => ?_) ?_
    · cases h
    · rintro ⟨place, h⟩
      cases h
  | ok p =>
    obtain ⟨place, found⟩ := p
    dsimp only [bind, Except.bind]
    simp only [Except.ok.injEq, Prod.mk.injEq, exists_eq_left']
    cases found with
    | none => exact iff_of_false (fun h => by cases h) fun h => by cases h
    | some stands =>
      cases stands with
      | directory => exact iff_of_false (fun h => by cases h) fun h => by cases h
      | file written =>
        simp only [pure, Except.pure, Except.ok.injEq, Option.some.injEq, FileNode.file.injEq]

/-- A write puts the bytes where the path leads, and there is no directory. -/
theorem exists_of_write {content : List UInt8} (h : d.write path content = .ok d') :
    ∃ place found, d.locate path = .ok (place, found) ∧ found ≠ some .directory ∧
      path.getLast? ≠ some '/' ∧ d' = d.put place (.file content) := by
  rw [write] at h
  cases hlocate : d.locate path with
  | error e => rw [hlocate] at h; cases h
  | ok p =>
    obtain ⟨place, found⟩ := p
    rw [hlocate] at h
    dsimp only [bind, Except.bind] at h
    split at h
    · cases h
    · split at h
      · cases h
      · next hslash => exact ⟨place, none, rfl, nofun, hslash, change_eq_ok h⟩
    · next before =>
      have hslash := (locate_eq_ok_iff.1 hlocate).2.2.2 before rfl
      exact ⟨place, some (.file before), rfl, nofun, hslash, change_eq_ok h⟩

/-- What was written at a path is what the path gives. -/
theorem read_of_write {content : List UInt8} (h : d.write path content = .ok d') :
    d'.read path = .ok content := by
  obtain ⟨place, found, hlocate, hfound, hslash, rfl⟩ := exists_of_write h
  obtain ⟨hlegal, hfollow, hnode, -⟩ := locate_eq_ok_iff.1 hlocate
  have hplace : d.node? place ≠ some .directory := hnode ▸ hfound
  -- The root is a directory, and no file can be put there.
  have hne : place ≠ [] := by
    rintro rfl
    exact hplace rfl
  refine read_eq_ok_iff.2 ⟨place, locate_eq_ok_iff.2 ⟨hlegal, ?_, ?_, fun _ _ => hslash⟩⟩
  · exact follow_put hplace (.file content) _ hfollow
  · exact node?_put_self hne d (.file content)

/-! ## Faults -/

/-- The disk as it is, with a fault or without one. -/
def withFault (d : Disk) (fault : Option IoError) : Disk := { d with fault }

variable {fault : Option IoError}

theorem follow_withFault (fault : Option IoError) (start parts : List String) :
    (d.withFault fault).follow start parts = d.follow start parts := by
  induction parts generalizing start with
  | nil => rfl
  | cons part parts ih =>
    have hnode : (d.withFault fault).node? start = d.node? start := rfl
    rw [follow, follow, hnode, ih, ih, ih]

/-- A fault does not keep a disk from being read. -/
@[simp] theorem read_withFault (fault : Option IoError) (path : List Char) :
    (d.withFault fault).read path = d.read path := by
  have hlocate : (d.withFault fault).locate path = d.locate path := by
    rw [locate, locate, follow_withFault]
    rfl
  rw [read, read, hlocate]

end ScpiConsole.Disk
