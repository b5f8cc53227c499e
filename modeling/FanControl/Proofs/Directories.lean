import FanControl.CommandPipe

/-!
# What directories hold

Where a path leads depends on the directories alone (`FileTree.directory?`): a tree whose
directories hold at least what those of another one hold leads wherever the other one does
(`FileTree.Within.locate`). Writing to a file or to a pipe changes no directory at all
(`FileTree.replace_directories`).

A pipe that was just made is where its path says (`FileTree.makePipe_spec`), and so both of its ends
can be opened (`FileTree.openEnd_of_pipe`). What a path leads to can be removed unless it is a
directory, and then the path leads nowhere (`FileTree.unlink_spec`).
-/

namespace FanControl.FileTree

variable {t t' : FileTree} {start id dir node : NodeId} {steps : List PathStep}
  {entries : List (String × NodeId)} {name path : String}

/-! ### Directories -/

/-- The parent and the entries of a directory. -/
def directory? (t : FileTree) (id : NodeId) : Option (NodeId × List (String × NodeId)) :=
  match t.nodes[id]? with
  | some (.directory parent entries) => some (parent, entries)
  | _ => none

theorem directory?_eq_some_iff {parent : NodeId} :
    t.directory? id = some (parent, entries) ↔
      t.nodes[id]? = some (.directory parent entries) := by
  unfold directory?
  split
  · next hnode => rw [hnode]; simp
  · next hnone =>
    constructor
    · rintro ⟨⟩
    · exact fun h => absurd h (hnone parent entries)

theorem isDirectory_eq (t : FileTree) (id : NodeId) :
    t.isDirectory id = (t.directory? id).isSome := by
  unfold isDirectory directory?
  rcases t.nodes[id]? with _ | _ | _ | _ | _ <;> rfl

theorem entriesOf_eq (t : FileTree) (dir : NodeId) :
    t.entriesOf dir = ((t.directory? dir).map Prod.snd).getD [] := by
  unfold entriesOf directory?
  rcases t.nodes[dir]? with _ | _ | _ | _ | _ <;> rfl

/-- A step needs a directory to start from. -/
theorem walk_cons (t : FileTree) (start : NodeId) (step : PathStep) (steps : List PathStep) :
    t.walk start (step :: steps) =
      match t.directory? start with
      | none => .error .notDirectory
      | some (parent, entries) =>
        match step with
        | .stay => t.walk start steps
        | .up => t.walk parent steps
        | .enter name =>
          if name.utf8ByteSize > Path.maxName then .error .nameTooLong
          else
            match entries.lookup name with
            | some id => t.walk id steps
            | none => .error .noEntry := by
  rw [walk, directory?]
  rcases t.nodes[start]? with _ | _ | _ | _ | _ <;> rfl

/-- One walk after another. -/
theorem walk_append (t : FileTree) (start : NodeId) (steps more : List PathStep) :
    t.walk start (steps ++ more) = (t.walk start steps).bind fun id => t.walk id more := by
  -- on the first walk, from any start; a step that fails ends both walks in the same way
  induction steps generalizing start with
  | nil => rfl
  | cons step steps ih =>
    rw [List.cons_append, walk_cons, walk_cons]
    rcases t.directory? start with _ | ⟨parent, entries⟩
    · rfl
    · cases step with
      | stay => exact ih start
      | up => exact ih parent
      | enter name =>
        dsimp only
        split
        · rfl
        · rcases entries.lookup name with _ | id
          · rfl
          · exact ih id

/-- Entering a name takes a directory that has it. -/
theorem walk_enter_eq_ok_iff :
    t.walk start [.enter name] = .ok id ↔
      ∃ parent entries, t.directory? start = some (parent, entries) ∧
        name.utf8ByteSize ≤ Path.maxName ∧ entries.lookup name = some id := by
  rw [walk_cons]
  rcases t.directory? start with _ | ⟨parent, entries⟩
  · constructor
    · rintro ⟨⟩
    · rintro ⟨_, _, ⟨⟩, _⟩
  · constructor
    · -- a step that succeeds has passed the test of its length and has found an entry
      intro h
      dsimp only at h
      split at h
      · cases h
      · next hsize =>
        refine ⟨parent, entries, rfl, Nat.le_of_not_gt hsize, ?_⟩
        split at h
        · next found hfound =>
          cases h
          exact hfound
        · cases h
    · rintro ⟨_, _, ⟨⟩, hsize, hfound⟩
      dsimp only
      rw [if_neg (Nat.not_lt.mpr hsize), hfound]
      rfl

/-- The last step of a way that ends in a name. -/
theorem walk_concat_eq_ok_iff {lead : List PathStep} :
    t.walk start (lead ++ [.enter name]) = .ok id ↔
      ∃ dir parent entries, t.walk start lead = .ok dir ∧
        t.directory? dir = some (parent, entries) ∧ name.utf8ByteSize ≤ Path.maxName ∧
        entries.lookup name = some id := by
  rw [walk_append]
  constructor
  · intro h
    rcases hlead : t.walk start lead with e | dir
    · rw [hlead] at h
      cases h
    · rw [hlead] at h
      obtain ⟨parent, entries, hdir⟩ := walk_enter_eq_ok_iff.mp h
      exact ⟨dir, parent, entries, rfl, hdir⟩
  · rintro ⟨dir, parent, entries, hlead, hdir⟩
    rw [hlead]
    exact walk_enter_eq_ok_iff.mpr ⟨parent, entries, hdir⟩

theorem startOf_of_here (h : t'.here = t.here) (r : Route) : t'.startOf r = t.startOf r := by
  rw [startOf, startOf, h]

/-! ### Comparing trees -/

/-- Whatever is found in the one tree is found in the other one, too. -/
structure Within (t t' : FileTree) : Prop where
  here : t'.here = t.here
  directory : ∀ {id parent entries}, t.directory? id = some (parent, entries) →
    ∃ entries', t'.directory? id = some (parent, entries') ∧
      ∀ {name node}, entries.lookup name = some node → entries'.lookup name = some node

theorem Within.walk (h : t.Within t') (hwalk : t.walk start steps = .ok id) :
    t'.walk start steps = .ok id := by
  -- on the steps: each of them finds a directory of the larger tree with the same parent
  induction steps generalizing start with
  | nil => exact hwalk
  | cons step steps ih =>
    rw [walk_cons] at hwalk ⊢
    rcases hdirectory : t.directory? start with _ | ⟨parent, entries⟩
    · rw [hdirectory] at hwalk
      cases hwalk
    · obtain ⟨entries', hdirectory', hentries⟩ := h.directory hdirectory
      rw [hdirectory] at hwalk
      rw [hdirectory']
      cases step with
      | stay => exact ih hwalk
      | up => exact ih hwalk
      | enter name =>
        dsimp only at hwalk ⊢
        split at hwalk
        · cases hwalk
        · next hsize =>
          rw [if_neg hsize]
          rcases hfound : entries.lookup name with _ | node
          · rw [hfound] at hwalk
            cases hwalk
          · rw [hfound] at hwalk
            rw [hentries hfound]
            exact ih hwalk

theorem Within.isDirectory (h : t.Within t') (hdir : t.isDirectory id = true) :
    t'.isDirectory id = true := by
  rw [isDirectory_eq, Option.isSome_iff_exists] at hdir ⊢
  obtain ⟨⟨parent, entries⟩, hdirectory⟩ := hdir
  obtain ⟨entries', hdirectory', -⟩ := h.directory hdirectory
  exact ⟨_, hdirectory'⟩

/-- What a path leads to. -/
theorem locate_eq_ok_iff :
    t.locate path = .ok id ↔
      Path.fault? path = none ∧
        t.walk (t.startOf (Path.route path)) (Path.route path).steps = .ok id ∧
        ((Path.route path).wantsDirectory = true → t.isDirectory id = true) := by
  rw [locate]
  split
  · next hfault =>
    rw [hfault]
    constructor
    · rintro ⟨⟩
    · rintro ⟨⟨⟩, _⟩
  · next hfault =>
    simp only [hfault, true_and]
    rcases t.walk (t.startOf (Path.route path)) (Path.route path).steps with e | found
    · constructor
      · rintro ⟨⟩
      · rintro ⟨⟨⟩, _⟩
    · dsimp only
      split
      · -- what is found is no directory, although the path asks for one
        next hwants =>
        rw [Bool.and_eq_true, Bool.not_eq_true'] at hwants
        constructor
        · rintro ⟨⟩
        · rintro ⟨⟨⟩, hdir⟩
          rw [hdir hwants.1] at hwants
          cases hwants.2
      · -- any node will do, or the node is the directory that the path asks for
        next hwants =>
        rw [Bool.and_eq_true, Bool.not_eq_true', not_and, Bool.not_eq_false] at hwants
        constructor
        · rintro ⟨⟩
          exact ⟨rfl, hwants⟩
        · rintro ⟨⟨⟩, -⟩
          rfl

theorem Within.locate (h : t.Within t') (hlocate : t.locate path = .ok id) :
    t'.locate path = .ok id := by
  obtain ⟨hfault, hwalk, hwants⟩ := locate_eq_ok_iff.mp hlocate
  rw [locate_eq_ok_iff, startOf_of_here h.here]
  exact ⟨hfault, h.walk hwalk, fun hdir => h.isDirectory (hwants hdir)⟩

/-- Two trees with the same directories. -/
structure SameDirectories (t t' : FileTree) : Prop where
  here : t'.here = t.here
  directory : ∀ id, t'.directory? id = t.directory? id

namespace SameDirectories

theorem refl (t : FileTree) : t.SameDirectories t := ⟨rfl, fun _ => rfl⟩

theorem symm (h : t.SameDirectories t') : t'.SameDirectories t :=
  ⟨h.here.symm, fun id => (h.directory id).symm⟩

theorem trans {t'' : FileTree} (h : t.SameDirectories t') (h' : t'.SameDirectories t'') :
    t.SameDirectories t'' :=
  ⟨h'.here.trans h.here, fun id => (h'.directory id).trans (h.directory id)⟩

theorem within (h : t.SameDirectories t') : t.Within t' :=
  ⟨h.here, fun hdirectory => ⟨_, (h.directory _).trans hdirectory, id⟩⟩

theorem isDirectory (h : t.SameDirectories t') (id : NodeId) :
    t'.isDirectory id = t.isDirectory id := by
  rw [isDirectory_eq, isDirectory_eq, h.directory]

/-- Walks end alike, also those that fail. -/
theorem walk_eq (h : t.SameDirectories t') (start : NodeId)
    (steps : List PathStep) : t'.walk start steps = t.walk start steps := by
  induction steps generalizing start with
  | nil => rfl
  | cons step steps ih => simp only [walk_cons, h.directory, ih]

/-- **The directories say where a path leads**, and whether it leads anywhere. -/
theorem locate_eq (h : t.SameDirectories t') (path : String) :
    t'.locate path = t.locate path := by
  simp only [locate, startOf_of_here h.here, h.walk_eq, h.isDirectory]

theorem contains_eq_false (h : t.SameDirectories t') (hgone : t.contains path = false) :
    t'.contains path = false := by
  rw [contains, h.locate_eq]
  exact hgone

/-- Another state of what is no directory. -/
theorem setNode {n : Node} (hold : t.directory? id = none)
    (hnew : ∀ parent entries, n ≠ .directory parent entries) :
    t.SameDirectories (t.setNode id n) := by
  refine ⟨rfl, fun id' => ?_⟩
  -- only the changed node could make a difference, and it is no directory before or after
  by_cases hid : id = id'
  · subst hid
    rw [hold, FileTree.directory?, FileTree.setNode, Array.getElem?_setIfInBounds, if_pos rfl]
    split
    · next parent entries hnode =>
      split at hnode
      · exact absurd (Option.some.inj hnode) (hnew parent entries)
      · cases hnode
    · rfl
  · rw [FileTree.directory?, FileTree.setNode, Array.getElem?_setIfInBounds, if_neg hid,
      FileTree.directory?]

end SameDirectories

/-- The node that was given another state. -/
theorem nodes_setNode_self {m n : Node} (h : t.nodes[id]? = some m) :
    (t.setNode id n).nodes[id]? = some n := by
  obtain ⟨hlt, -⟩ := Array.getElem?_eq_some_iff.mp h
  rw [setNode, Array.getElem?_setIfInBounds, if_pos rfl, if_pos hlt]

/-- The later state counts. -/
theorem setNode_setNode (t : FileTree) (id : NodeId) (m n : Node) :
    (t.setNode id m).setNode id n = t.setNode id n := by
  rw [setNode, setNode, setNode, Array.setIfInBounds_setIfInBounds]

/-- The other nodes. -/
theorem nodes_setNode_of_ne {n : Node} (hne : id ≠ node) :
    (t.setNode id n).nodes[node]? = t.nodes[node]? := by
  rw [setNode, Array.getElem?_setIfInBounds, if_neg hne]

theorem directory?_eq_none_of_file {content : List UInt8}
    (h : t.nodes[id]? = some (.file content)) : t.directory? id = none := by
  rw [directory?, h]

theorem directory?_eq_none_of_pipe {p : Pipe} (h : t.nodes[id]? = some (.pipe p)) :
    t.directory? id = none := by
  rw [directory?, h]

/-- What goes on in a pipe changes no directory. -/
theorem setNode_pipe_directories {p : Pipe} (h : t.nodes[id]? = some (.pipe p)) (q : Pipe) :
    t.SameDirectories (t.setNode id (.pipe q)) :=
  .setNode (directory?_eq_none_of_pipe h) nofun

/-- Writing to a file or to a pipe changes no directory. -/
theorem replace_directories {bytes : List UInt8} (h : t.replace path bytes = .ok t') :
    t.SameDirectories t' := by
  rw [replace] at h
  rcases hlocate : t.locate path with e | id
  · rw [hlocate] at h
    cases h
  · rw [hlocate] at h
    dsimp only [bind, Except.bind] at h
    split at h
    · -- a file gets another content
      next hnode =>
      cases h
      exact .setNode (directory?_eq_none_of_file hnode) nofun
    · cases h
    · split at h
      · cases h
        exact .refl t
      · cases h
    · -- a pipe takes the bytes, if it is read and has room for all of them
      next p hnode =>
      split at h
      · cases h
      · split at h
        · split at h
          · cases h
            exact setNode_pipe_directories hnode _
          · cases h
        · cases h
    · cases h

theorem updatePipe_directories (t : FileTree) (id : NodeId) (f : Pipe → Pipe) :
    t.SameDirectories (t.updatePipe id f) := by
  rw [updatePipe, pipe?]
  rcases hnode : t.nodes[id]? with _ | _ | _ | _ | p
  · exact .refl t
  · exact .refl t
  · exact .refl t
  · exact .refl t
  · exact setNode_pipe_directories hnode _

theorem drainPipe_directories (t : FileTree) (id : NodeId) :
    t.SameDirectories (t.drainPipe id).2 := by
  rw [drainPipe, pipe?]
  rcases hnode : t.nodes[id]? with _ | _ | _ | _ | p
  · exact .refl t
  · exact .refl t
  · exact .refl t
  · exact .refl t
  · exact setNode_pipe_directories hnode _

/-! ### Making and removing -/

/-- A path that ends in a name. -/
structure NamesEntry (path : String) (lead : List PathStep) (name : String) : Prop where
  steps : (Path.route path).steps = lead ++ [.enter name]
  plain : (Path.route path).wantsDirectory = false

theorem parentOf_eq_ok_iff {otherwise : Errno} :
    t.parentOf path otherwise = .ok (dir, name) ↔
      Path.fault? path = none ∧ ∃ lead, (Path.route path).steps = lead ++ [.enter name] ∧
        t.walk (t.startOf (Path.route path)) lead = .ok dir ∧ t.isDirectory dir = true ∧
        name.utf8ByteSize ≤ Path.maxName := by
  constructor
  · -- each test that was passed on the way gives one of the facts
    intro h
    rw [parentOf] at h
    split at h
    · cases h
    · next hfault =>
      dsimp only at h
      split at h
      · cases h
      · next found hwalk =>
        split at h
        · cases h
        · next hdir =>
          split at h
          · next entry hlast =>
            split at h
            · cases h
            · next hsize =>
              cases h
              rw [Bool.not_eq_true', Bool.not_eq_false] at hdir
              obtain ⟨lead, hsteps⟩ := List.getLast?_eq_some_iff.mp hlast
              rw [hsteps, List.dropLast_concat] at hwalk
              exact ⟨hfault, lead, hsteps, hwalk, hdir, Nat.le_of_not_gt hsize⟩
          · cases h
  · rintro ⟨hfault, lead, hsteps, hwalk, hdir, hsize⟩
    simp only [parentOf, hfault, hsteps, List.dropLast_concat, hwalk, hdir, List.getLast?_concat,
      Bool.not_true, Bool.false_eq_true, if_false, if_neg (Nat.not_lt.mpr hsize)]

theorem directory?_setEntries {parent : NodeId} {old : List (String × NodeId)}
    (h : t.directory? dir = some (parent, old)) (entries : List (String × NodeId)) (id : NodeId) :
    (t.setEntries dir entries).directory? id =
      if dir = id then some (parent, entries) else t.directory? id := by
  have hnode := directory?_eq_some_iff.mp h
  obtain ⟨hlt, -⟩ := Array.getElem?_eq_some_iff.mp hnode
  rw [setEntries, hnode]
  dsimp only
  rw [directory?, setNode, Array.getElem?_setIfInBounds]
  by_cases hid : dir = id
  · rw [if_pos hid, if_pos hid, if_pos hlt]
  · rw [if_neg hid, if_neg hid, directory?]

theorem size_setEntries (t : FileTree) (dir : NodeId) (entries : List (String × NodeId)) :
    (t.setEntries dir entries).nodes.size = t.nodes.size := by
  unfold setEntries
  split
  · rw [setNode, Array.size_setIfInBounds]
  · rfl

/-- A new node that is no directory. -/
theorem directory?_addEntry {n : Node} (hnew : ∀ parent entries, n ≠ .directory parent entries)
    (id : NodeId) :
    (t.addEntry dir name n).directory? id =
      (t.setEntries dir (t.entriesOf dir ++ [(name, t.nodes.size)])).directory? id := by
  rw [addEntry]
  generalize t.setEntries dir (t.entriesOf dir ++ [(name, t.nodes.size)]) = added
  rw [directory?, Array.getElem?_push, directory?]
  -- the new node is the last one, and in the old tree there is nothing at its number
  by_cases hid : id = added.nodes.size
  · rw [if_pos hid, hid, Array.getElem?_eq_none (Nat.le_refl _)]
    split
    · next parent entries hnode => exact absurd (Option.some.inj hnode) (hnew parent entries)
    · rfl
  · rw [if_neg hid]

theorem entriesOf_of_directory? {parent : NodeId} (h : t.directory? dir = some (parent, entries)) :
    t.entriesOf dir = entries := by
  rw [entriesOf_eq, h]
  rfl

theorem here_setEntries (t : FileTree) (dir : NodeId) (entries : List (String × NodeId)) :
    (t.setEntries dir entries).here = t.here := by
  unfold setEntries
  split <;> rfl

/-- Adding an entry hides nothing. -/
theorem within_addEntry {n : Node} (hnew : ∀ parent entries, n ≠ .directory parent entries)
    {parent : NodeId} (hdir : t.directory? dir = some (parent, entries)) :
    t.Within (t.addEntry dir name n) := by
  refine ⟨here_setEntries t dir _, fun {id p es} hid => ?_⟩
  rw [directory?_addEntry hnew, directory?_setEntries hdir, entriesOf_of_directory? hdir]
  split
  · next heq =>
    subst heq
    cases hdir.symm.trans hid
    refine ⟨_, rfl, fun hfound => ?_⟩
    rw [List.lookup_append, hfound, Option.some_or]
  · exact ⟨es, hid, fun hfound => hfound⟩

theorem lookup_removed (entries : List (String × NodeId)) (name : String) :
    (entries.filter (·.1 ≠ name)).lookup name = none := by
  refine List.lookup_eq_none_iff.mpr fun entry hentry => ?_
  have hne := of_decide_eq_true (List.mem_filter.mp hentry).2
  exact bne_iff_ne.mpr hne.symm

theorem lookup_of_lookup_filter {other : String}
    (h : (entries.filter (·.1 ≠ name)).lookup other = some node) :
    entries.lookup other = some node := by
  have hother : other ≠ name := by
    rintro rfl
    rw [lookup_removed] at h
    cases h
  induction entries with
  | nil => exact h
  | cons entry entries ih =>
    by_cases hentry : entry.1 = name
    · -- an entry that is removed has another name than the one looked up
      rw [List.filter_cons_of_neg (by simpa using hentry)] at h
      have hne : (other == entry.1) = false := beq_eq_false_iff_ne.mpr (hentry ▸ hother)
      rw [List.lookup_cons, hne]
      exact ih h
    · rw [List.filter_cons_of_pos (by simpa using hentry), List.lookup_cons] at h
      rw [List.lookup_cons]
      split at h
      · exact h
      · exact ih h

/-- Removing an entry shows nothing new. -/
theorem setEntries_within {parent : NodeId} (hdir : t.directory? dir = some (parent, entries)) :
    (t.setEntries dir (entries.filter (·.1 ≠ name))).Within t := by
  refine ⟨(here_setEntries t dir _).symm, fun {id p es} hid => ?_⟩
  rw [directory?_setEntries hdir] at hid
  split at hid
  · next heq =>
    subst heq
    cases hid
    exact ⟨entries, hdir, lookup_of_lookup_filter⟩
  · exact ⟨es, hid, fun hfound => hfound⟩

/-- What a pipe that is made takes: a plain name that its directory does not have yet. -/
theorem of_makePipe (h : t.makePipe path = .ok t') :
    ∃ dir name, t.parentOf path .alreadyExists = .ok (dir, name) ∧
      (t.entriesOf dir).lookup name = none ∧ (Path.route path).wantsDirectory = false ∧
      t' = t.addEntry dir name (.pipe .empty) := by
  rw [makePipe] at h
  rcases hparent : t.parentOf path .alreadyExists with e | ⟨dir, name⟩
  · rw [hparent] at h
    cases h
  · rw [hparent] at h
    dsimp only [bind, Except.bind] at h
    split at h
    · cases h
    · next hfree =>
      split at h
      · cases h
      · next hplain =>
        cases h
        exact ⟨dir, name, rfl, hfree, Bool.eq_false_iff.mpr hplain, rfl⟩

/-- **A pipe that was just made is where its path says**, and nobody has opened it. -/
theorem makePipe_spec (h : t.makePipe path = .ok t') :
    (∃ lead name, NamesEntry path lead name) ∧ t'.locate path = .ok t.nodes.size ∧
      t'.nodes[t.nodes.size]? = some (.pipe .empty) := by
  obtain ⟨dir, name, hparent, hfree, hplain, rfl⟩ := of_makePipe h
  obtain ⟨hfault, lead, hsteps, hwalk, hdir, hsize⟩ := parentOf_eq_ok_iff.mp hparent
  rw [isDirectory_eq, Option.isSome_iff_exists] at hdir
  obtain ⟨⟨parent, entries⟩, hdir⟩ := hdir
  have hnew : ∀ parent entries, Node.pipe .empty ≠ .directory parent entries := nofun
  -- the way to the directory is still there, and in it the new name is found
  have hwithin : t.Within (t.addEntry dir name (.pipe .empty)) := within_addEntry hnew hdir
  have hentries : (t.addEntry dir name (.pipe .empty)).directory? dir =
      some (parent, entries ++ [(name, t.nodes.size)]) := by
    rw [directory?_addEntry hnew, directory?_setEntries hdir, if_pos rfl,
      entriesOf_of_directory? hdir]
  have hfound : (entries ++ [(name, t.nodes.size)]).lookup name = some t.nodes.size := by
    rw [entriesOf_of_directory? hdir] at hfree
    rw [List.lookup_append, hfree, Option.none_or, List.lookup_cons, beq_self_eq_true]
  refine ⟨⟨lead, name, hsteps, hplain⟩, locate_eq_ok_iff.mpr ⟨hfault, ?_, ?_⟩, ?_⟩
  · rw [startOf_of_here hwithin.here, hsteps]
    exact walk_concat_eq_ok_iff.mpr ⟨dir, _, _, hwithin.walk hwalk, hentries, hsize, hfound⟩
  · rw [hplain]
    nofun
  · have hsize := size_setEntries t dir (t.entriesOf dir ++ [(name, t.nodes.size)])
    rw [addEntry, Array.getElem?_push, if_pos hsize.symm]

/-- Opening an end of a pipe. -/
theorem openEnd_of_pipe {p q : Pipe} {side : PipeEnd} (hlocate : t.locate path = .ok id)
    (hnode : t.nodes[id]? = some (.pipe p)) (hopen : p.openEnd side = .ok q) :
    t.openEnd path side = .ok (id, t.setNode id (.pipe q)) := by
  rw [openEnd, hlocate]
  dsimp only [bind, Except.bind]
  rw [hnode]
  dsimp only
  rw [hopen]

/-- **What a path leads to can be removed unless it is a directory**, and then the path leads
nowhere. -/
theorem unlink_spec {lead : List PathStep} (hpath : NamesEntry path lead name)
    (hlocate : t.locate path = .ok id) (hfile : t.isDirectory id = false) :
    ∃ t', t.unlink path = .ok t' ∧ t'.contains path = false := by
  obtain ⟨hsteps, hplain⟩ := hpath
  obtain ⟨hfault, hwalk, -⟩ := locate_eq_ok_iff.mp hlocate
  rw [hsteps] at hwalk
  obtain ⟨dir, parent, entries, hlead, hdir, hsize, hfound⟩ := walk_concat_eq_ok_iff.mp hwalk
  -- what names the entry was passed when the path was located
  have hparent : t.parentOf path .isDirectory = .ok (dir, name) := by
    refine parentOf_eq_ok_iff.mpr ⟨hfault, lead, hsteps, hlead, ?_, hsize⟩
    rw [isDirectory_eq, hdir]
    rfl
  have hwithin : (t.setEntries dir (entries.filter (·.1 ≠ name))).Within t := setEntries_within hdir
  refine ⟨t.setEntries dir (entries.filter (·.1 ≠ name)), ?_, ?_⟩
  · rw [unlink, hparent]
    dsimp only [bind, Except.bind]
    rw [entriesOf_of_directory? hdir, hfound]
    dsimp only
    rw [hfile, hplain]
    rfl
  · -- the way to the directory is the one of before, and there is no such name any more
    rw [contains]
    rcases hlocate' : (t.setEntries dir (entries.filter (·.1 ≠ name))).locate path with e | id'
    · rfl
    · obtain ⟨-, hwalk', -⟩ := locate_eq_ok_iff.mp hlocate'
      rw [startOf_of_here (here_setEntries t dir _), hsteps] at hwalk'
      obtain ⟨_, _, _, hlead', hdir', -, hfound'⟩ := walk_concat_eq_ok_iff.mp hwalk'
      cases (hwithin.walk hlead').symm.trans hlead
      rw [directory?_setEntries hdir, if_pos rfl] at hdir'
      cases hdir'
      rw [lookup_removed] at hfound'
      cases hfound'

end FanControl.FileTree
