import HitLog.FileSystem

/-!
# Files after an append

An append puts a file at one place and leaves every other place alone. That the path still leads to
that place needs an argument, because a path is walked through nodes: the walk to the log's
directory passes directories only, and where the log is there was no directory, so the walk never
came by.

## Main results

* `FileSystem.node?_set` — only one place changes
* `FileSystem.locate_set` — a path still leads to a file that was put there
* `FileSystem.openForAppend_set`, `FileSystem.read_set`, `FileSystem.content?_set` — what is found
  there afterwards
-/

namespace HitLog

namespace FileSystem

variable {fs : FileSystem} {path : Text} {place : Place} {n : FileNode}

/-! ### Putting a node at a place -/

theorem lookup_cons_eq (p q : Place) (n : FileNode) (nodes : List (Place × FileNode)) :
    ((p, n) :: nodes).lookup q = if q = p then some n else nodes.lookup q := by
  by_cases h : q = p
  · simp [h]
  · have hb : (q == p) = false := beq_eq_false_iff_ne.mpr h
    simp [List.lookup_cons, hb, h]

theorem lookup_setNode (p q : Place) (n : FileNode) (nodes : List (Place × FileNode)) :
    (setNode p n nodes).lookup q = if q = p then some n else nodes.lookup q := by
  induction nodes with
  | nil => rw [setNode, lookup_cons_eq]
  | cons entry rest ih =>
    obtain ⟨r, old⟩ := entry
    rw [setNode]
    by_cases hr : r = p
    · subst hr
      rw [if_pos rfl, lookup_cons_eq, lookup_cons_eq]
      by_cases h : q = r <;> simp [h]
    · rw [if_neg hr, lookup_cons_eq, lookup_cons_eq, ih]
      by_cases h : q = r
      · subst h
        simp [hr]
      · simp [h]

theorem node?_set (hp : place ≠ []) (q : Place) :
    (fs.set place n).node? q = if q = place then some n else fs.node? q := by
  rw [node?, node?, set]
  by_cases hq : q = []
  · subst hq
    simp [Ne.symm hp]
  · rw [if_neg hq, if_neg hq, lookup_setNode]

theorem setNode_setNode (p : Place) (n m : FileNode) (nodes : List (Place × FileNode)) :
    setNode p m (setNode p n nodes) = setNode p m nodes := by
  induction nodes with
  | nil => simp [setNode]
  | cons entry rest ih =>
    obtain ⟨r, old⟩ := entry
    by_cases hr : r = p <;> simp [setNode, hr, ih]

/-- The later of two nodes at one place stays. -/
theorem set_set (fs : FileSystem) (p : Place) (n m : FileNode) :
    (fs.set p n).set p m = fs.set p m := by
  rw [set, set, set, setNode_setNode]

/-! ### Walking to it -/

theorem walk_set {here there : Place} {names : List Text} (hp : place ≠ [])
    (hplace : fs.node? place ≠ some .directory) (h : fs.walk here names = .ok there) :
    (fs.set place n).walk here names = .ok there := by
  induction names generalizing here with
  | nil => exact h
  | cons name names ih =>
    rw [walk] at h ⊢
    split at h
    · rename_i hhere
      rw [if_pos hhere]
      exact ih h
    rename_i hhere
    rw [if_neg hhere]
    split at h
    · rename_i hup
      rw [if_pos hup]
      exact ih h
    rename_i hup
    rw [if_neg hup]
    split at h
    · cases h
    rename_i hlen
    rw [if_neg hlen]
    split at h
    · cases h
    · rename_i hdir
      -- the walk is at a directory, so it is not at `place`
      have hne : here ++ [name] ≠ place := fun hc => hplace (hc ▸ hdir)
      rw [node?_set hp, if_neg hne, hdir]
      exact ih h
    · cases h

theorem parent_set {here : Place} (hp : place ≠ [])
    (hplace : fs.node? place ≠ some .directory) (h : fs.parent path = .ok here) :
    (fs.set place n).parent path = .ok here := by
  rw [parent] at h ⊢
  split at h
  · cases h
  rename_i hzero
  rw [if_neg hzero]
  split at h
  · cases h
  rename_i hempty
  rw [if_neg hempty]
  split at h
  · cases h
  rename_i hlen
  rw [if_neg hlen]
  exact walk_set hp hplace h

/-- What a path leads to, if that is no directory, stands under a name in its own directory. -/
theorem locate_eq_ok {node : Option FileNode} {slash : Bool}
    (h : fs.locate path = .ok ⟨place, node, slash⟩) (hnode : node ≠ some .directory) :
    ∃ here name, fs.parent path = .ok here ∧ (pathNames path).getLast?.getD [] = name ∧
      isHere name = false ∧ isUp name = false ∧ name.length ≤ maxName ∧ place = here ++ [name] ∧
      node = fs.node? place ∧ slash = endsInSlash path := by
  rw [locate] at h
  split at h
  · cases h
  rename_i here hparent
  rw [lastStep] at h
  split at h
  · cases h
    exact absurd rfl hnode
  rename_i hhere
  split at h
  · cases h
    exact absurd rfl hnode
  rename_i hup
  split at h
  · cases h
  rename_i hlen
  cases h
  exact ⟨here, _, hparent, rfl, by simpa using hhere, by simpa using hup, by omega, rfl, rfl, rfl⟩

/-- **The path still leads there.** -/
theorem locate_set {node : Option FileNode} {slash : Bool}
    (h : fs.locate path = .ok ⟨place, node, slash⟩) (hnode : node ≠ some .directory)
    (n : FileNode) : (fs.set place n).locate path = .ok ⟨place, some n, slash⟩ := by
  obtain ⟨here, name, hparent, hname, hhere, hup, hlen, rfl, rfl, rfl⟩ := locate_eq_ok h hnode
  have hp : here ++ [name] ≠ [] := by simp
  rw [locate, parent_set hp hnode hparent]
  simp only
  rw [hname, lastStep, if_neg (by simp [hhere]), if_neg (by simp [hup]), if_neg (by omega),
    node?_set hp, if_pos rfl]

/-! ### Opening, appending and reading -/

/-- Opening for appending is following the path, except that a slash at its end is an error of its
own. -/
theorem openForAppend_eq (hslash : endsInSlash path = false) :
    fs.openForAppend path =
      match fs.locate path with
      | .error cause => .error cause
      | .ok target =>
        match target.node with
        | none => .ok (.file target.place [])
        | some .directory => .error .isDirectory
        | some (.file content) => .ok (.file target.place content)
        | some .fullDevice => .ok (.fullDevice target.place) := by
  rw [openForAppend, locate]
  cases fs.parent path with
  | error cause => rfl
  | ok here =>
    simp only [bind, Except.bind, hslash]
    cases fs.lastStep here ((pathNames path).getLast?.getD []) false with
    | error cause => rfl
    | ok target =>
      obtain ⟨place, node, slash⟩ := target
      cases node with
      | none => rfl
      | some node => cases node <;> rfl

theorem endsInSlash_of_openForAppend {target : AppendTarget}
    (h : fs.openForAppend path = .ok target) : endsInSlash path = false := by
  rw [← Bool.not_eq_true]
  intro hslash
  rw [openForAppend] at h
  cases hparent : fs.parent path with
  | error cause => simp [hparent, bind, Except.bind] at h
  | ok here => simp [hparent, hslash, bind, Except.bind, throw, throwThe, MonadExceptOf.throw] at h

theorem locate_of_openForAppend {content : Text}
    (h : fs.openForAppend path = .ok (.file place content)) :
    ∃ node, fs.locate path = .ok ⟨place, node, false⟩ ∧ node ≠ some .directory := by
  have hslash : endsInSlash path = false := endsInSlash_of_openForAppend h
  rw [openForAppend_eq hslash] at h
  split at h
  · cases h
  rename_i target hlocate
  obtain ⟨there, node, slash⟩ := target
  have hdir : node ≠ some .directory := by
    rintro rfl
    simp at h
  have hthere : there = place := by
    split at h <;> simp_all
  obtain ⟨-, -, -, -, -, -, -, -, -, hs⟩ := locate_eq_ok hlocate hdir
  exact ⟨node, by rw [hlocate, hthere, hs, hslash], hdir⟩

/-- A second append finds the file that the first one left. -/
theorem openForAppend_set {content : Text} (h : fs.openForAppend path = .ok (.file place content))
    (data : Text) : (fs.set place (.file data)).openForAppend path = .ok (.file place data) := by
  obtain ⟨node, hlocate, hdir⟩ := locate_of_openForAppend h
  rw [openForAppend_eq (endsInSlash_of_openForAppend h), locate_set hlocate hdir]

theorem content?_set {content : Text} (h : fs.openForAppend path = .ok (.file place content))
    (data : Text) : (fs.set place (.file data)).content? path = some data := by
  obtain ⟨node, hlocate, hdir⟩ := locate_of_openForAppend h
  rw [content?, locate_set hlocate hdir]

theorem read_set {content : Text} (h : fs.openForAppend path = .ok (.file place content))
    (data : Text) : (fs.set place (.file data)).read path = .ok data := by
  obtain ⟨node, hlocate, hdir⟩ := locate_of_openForAppend h
  rw [read, locate_set hlocate hdir]
  rfl

theorem isEndless_set {content : Text} (h : fs.openForAppend path = .ok (.file place content))
    (data : Text) : (fs.set place (.file data)).isEndless path = false := by
  obtain ⟨node, hlocate, hdir⟩ := locate_of_openForAppend h
  rw [isEndless, locate_set hlocate hdir]

end FileSystem

end HitLog
