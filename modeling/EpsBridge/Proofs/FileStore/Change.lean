import EpsBridge.FileStore.Workspace
import EpsBridge.Proofs.FileStore.Target

/-!
# What a call on one path changes

Whoever writes to one path only, or removes what lies there, changes a workspace
in one place at most, and puts nothing there but a file: `ChangesOnly`.  Directories
stay what they are meanwhile, so the path keeps leading to the same place, and any
number of such calls is like one (`ChangesOnly.trans`).

`Staged` adds a temporary file to this: it was created where nothing lay, and
nothing else has changed since.  Removing it gives the old files back, and moving it
into place adds what it holds by then.
-/

namespace EpsBridge

/-- Nothing, or an ordinary file. -/
def IsPlain : Option FileNode → Prop
  | none => True
  | some (.file _ _) => True
  | _ => False

theorem ne_directory_of_isPlain {node? : Option FileNode} (hplain : IsPlain node?) :
    node? ≠ some .directory := by
  rintro rfl
  exact hplain

namespace Workspace

/-- Where a file lies that is written along a path. -/
def target? (workspace : Workspace) (path : Path) : Option Location :=
  workspace.store.target? workspace.here path

/-- What lies at a location. -/
def node? (workspace : Workspace) (place : Location) : Option FileNode :=
  workspace.store.node? place

/-! ## Changes along one path -/

/-- Workspaces that differ at most in the file at the end of a path, if one is
given at all.  Time may have passed. -/
structure ChangesOnly (path? : Option Path) (before after : Workspace) : Prop where
  here : after.here = before.here
  nodes : ∀ place, after.node? place = before.node? place ∨
    (path?.bind before.target? = some place ∧ before.node? place ≠ some .directory ∧
      IsPlain (after.node? place))

variable {path? : Option Path} {before between after : Workspace}

namespace ChangesOnly

theorem refl (path? : Option Path) (workspace : Workspace) :
    ChangesOnly path? workspace workspace :=
  ⟨rfl, fun _ => .inl rfl⟩

theorem sameDirectories (hchange : ChangesOnly path? before after) :
    FileStore.SameDirectories before.store after.store := by
  intro place
  rcases hchange.nodes place with hsame | ⟨-, hbefore, hplain⟩
  · exact ⟨hsame.trans, hsame.symm.trans⟩
  · exact ⟨fun hdirectory => absurd hdirectory hbefore,
      fun hdirectory => absurd hdirectory (ne_directory_of_isPlain hplain)⟩

theorem target?_eq (hchange : ChangesOnly path? before after) (path : Path) :
    after.target? path = before.target? path := by
  rw [target?, target?, hchange.here,
    FileStore.target?_of_sameDirectories hchange.sameDirectories]

theorem node?_eq (hchange : ChangesOnly none before after) (place : Location) :
    after.node? place = before.node? place := by
  rcases hchange.nodes place with hsame | ⟨hnone, -⟩
  · exact hsame
  · cases hnone

theorem of_none (hchange : ChangesOnly none before after) (path? : Option Path) :
    ChangesOnly path? before after :=
  ⟨hchange.here, fun place => .inl (hchange.node?_eq place)⟩

theorem trans (hfirst : ChangesOnly path? before between)
    (hsecond : ChangesOnly path? between after) : ChangesOnly path? before after := by
  refine ⟨hsecond.here.trans hfirst.here, fun place => ?_⟩
  -- no directory has come or gone, so the path leads to the same place again
  have htarget : path?.bind between.target? = path?.bind before.target? := by
    cases path? with
    | none => rfl
    | some path => exact hfirst.target?_eq path
  rcases hfirst.nodes place with hsame | ⟨hplace, hbefore, hbetween⟩
  · have hnode := hsecond.nodes place
    rwa [htarget, hsame] at hnode
  · rcases hsecond.nodes place with hsame | ⟨-, -, hplain⟩
    · exact .inr ⟨hplace, hbefore, hsame ▸ hbetween⟩
    · exact .inr ⟨hplace, hbefore, hplain⟩

end ChangesOnly

/-- A file that is put at the target of a path lies at the end of the path. -/
theorem changesOnly_insert {workspace : Workspace} {path : Path} {target : Location}
    (htarget : workspace.target? path = some target)
    (hnode : workspace.node? target ≠ some .directory) (content : ByteArray) (modified : Int) :
    ChangesOnly (some path) workspace
      { workspace with store := workspace.store.insert target (.file content modified) } := by
  refine ⟨rfl, fun place => ?_⟩
  by_cases hplace : place = target
  · subst hplace
    refine .inr ⟨htarget, hnode, ?_⟩
    have hput := FileStore.node?_insert_self workspace.store
      (FileStore.ne_nil_of_target? htarget) (.file content modified)
    simp only [node?, hput, IsPlain]
  · exact .inl (FileStore.node?_insert_of_ne workspace.store hplace _)

theorem changesOnly_writeFile (workspace : Workspace) (path : Path) (content : ByteArray) :
    ChangesOnly (some path) workspace (workspace.writeFile path content).2 := by
  rw [writeFile]
  cases hwrite : workspace.store.writeFile workspace.here path content workspace.second with
  | error error => exact .refl _ _
  | ok store =>
      obtain ⟨target, htarget, hnode, rfl⟩ := FileStore.writeFile_eq_ok hwrite
      exact changesOnly_insert htarget hnode _ _

/-- Writing a file takes nothing away. -/
theorem node?_writeFile_ne_none {workspace : Workspace} {place : Location} (path : Path)
    (content : ByteArray) (hnode : workspace.node? place ≠ none) :
    (workspace.writeFile path content).2.node? place ≠ none := by
  rw [writeFile]
  cases hwrite : workspace.store.writeFile workspace.here path content workspace.second with
  | error error => exact hnode
  | ok store =>
      obtain ⟨target, htarget, -, rfl⟩ := FileStore.writeFile_eq_ok hwrite
      change (workspace.store.insert target _).node? place ≠ none
      by_cases hplace : place = target
      · rw [hplace, FileStore.node?_insert_self _ (FileStore.ne_nil_of_target? htarget)]
        exact Option.some_ne_none _
      · rw [FileStore.node?_insert_of_ne _ hplace]
        exact hnode

/-! ## Removing and moving -/

/-- Removing a file, or nothing, leaves nothing there. -/
theorem node?_removeFile {workspace : Workspace} {path : Path} {place : Location}
    (htarget : workspace.target? path = some place) (hplain : IsPlain (workspace.node? place))
    (other : Location) :
    (workspace.removeFile path).2.node? other =
      if other = place then none else workspace.node? other := by
  have hremove := FileStore.removeFile_of_target? htarget
  rw [removeFile]
  cases hnode : workspace.store.node? place with
  | none =>
      rw [hremove, hnode]
      by_cases hother : other = place
      · rw [if_pos hother, hother]
        exact hnode
      · rw [if_neg hother]
        rfl
  | some node =>
      rw [node?, hnode] at hplain
      cases node with
      | directory => exact hplain.elim
      | library symbols modified => exact hplain.elim
      | file content modified =>
          rw [hremove, hnode]
          by_cases hother : other = place
          · rw [if_pos hother, hother]
            exact FileStore.node?_erase_self _ (FileStore.ne_nil_of_target? htarget)
          · rw [if_neg hother]
            exact FileStore.node?_erase_of_ne _ hother

/-- A workspace after what lay at a place was removed, if anything did. -/
structure Removed (before after : Workspace) (place : Location) : Prop where
  here : after.here = before.here
  node?_eq : ∀ other, after.node? other = if other = place then none else before.node? other

theorem removed_removeFile {workspace : Workspace} {path : Path} {place : Location}
    (htarget : workspace.target? path = some place) (hplain : IsPlain (workspace.node? place)) :
    Removed workspace (workspace.removeFile path).2 place where
  here := by
    unfold removeFile settle
    split <;> rfl
  node?_eq := node?_removeFile htarget hplain

theorem changesOnly_removeFile {workspace : Workspace} {path : Path} {place : Location}
    (htarget : workspace.target? path = some place) (hplain : IsPlain (workspace.node? place)) :
    ChangesOnly (some path) workspace (workspace.removeFile path).2 := by
  have hremoved := removed_removeFile htarget hplain
  constructor
  · exact hremoved.here
  · intro other
    rw [hremoved.node?_eq]
    by_cases hother : other = place
    · subst hother
      rw [if_pos rfl]
      exact .inr ⟨htarget, ne_directory_of_isPlain hplain, trivial⟩
    · exact .inl (if_neg hother)

/-- A workspace after something was moved from one place to another. -/
structure Moved (before after : Workspace) (place destination : Location) (node : FileNode) :
    Prop where
  here : after.here = before.here
  node : after.node? destination = some node
  elsewhere : ∀ other, other ≠ destination →
    after.node? other = if other = place then none else before.node? other

/-- What lay at the end of a path was moved to the end of another, where no directory lay. -/
def MovedAlong (source target : Path) (before after : Workspace) : Prop :=
  ∀ place, before.target? source = some place →
    ∃ node destination, before.node? place = some node ∧
      before.target? target = some destination ∧ before.node? destination ≠ some .directory ∧
      Moved before after place destination node

theorem moved_of_moveFile {source target : Path}
    (hmove : before.moveFile source target = (.ok (), after)) :
    MovedAlong source target before after := by
  intro place hsource
  rw [moveFile] at hmove
  cases hcall : before.store.moveFile before.here source target with
  | error error =>
      rw [hcall] at hmove
      cases hmove
  | ok store =>
      rw [hcall] at hmove
      cases hmove
      obtain ⟨found, node, destination, hlocate, htarget, hfree, rfl⟩ :=
        FileStore.moveFile_eq_ok hcall
      -- what is found along the source path lies at its target
      rw [FileStore.locate_of_target? hsource, ← node?] at hlocate
      cases hnode : before.node? place with
      | none => rw [hnode] at hlocate; cases hlocate
      | some _ =>
          rw [hnode] at hlocate
          cases hlocate
          refine ⟨node, destination, rfl, htarget, hfree, rfl, ?_, ?_⟩
          · exact FileStore.node?_insert_self _ (FileStore.ne_nil_of_target? htarget) node
          · intro other hother
            rw [node?, FileStore.node?_insert_of_ne _ hother]
            by_cases hgone : other = place
            · rw [if_pos hgone, hgone]
              exact FileStore.node?_erase_self _ (FileStore.ne_nil_of_target? hsource)
            · rw [if_neg hgone]
              exact FileStore.node?_erase_of_ne _ hgone

/-- Moving a file neither makes a directory nor takes one away. -/
theorem Moved.sameDirectories {place destination : Location} {node : FileNode}
    (hmoved : Moved before after place destination node)
    (hnode : before.node? place = some node) (hplain : IsPlain (some node))
    (hfree : before.node? destination ≠ some .directory) :
    FileStore.SameDirectories before.store after.store := by
  intro other
  by_cases hother : other = destination
  · subst hother
    refine ⟨fun hdirectory => absurd hdirectory hfree, fun hdirectory => ?_⟩
    exact absurd (hmoved.node.symm.trans hdirectory) (ne_directory_of_isPlain hplain)
  · have helsewhere := hmoved.elsewhere other hother
    by_cases hgone : other = place
    · subst hgone
      rw [if_pos rfl] at helsewhere
      refine ⟨fun hdirectory => ?_, fun hdirectory => ?_⟩
      · exact absurd (hnode.symm.trans hdirectory) (ne_directory_of_isPlain hplain)
      · cases helsewhere.symm.trans hdirectory
    · rw [if_neg hgone] at helsewhere
      exact ⟨helsewhere.trans, helsewhere.symm.trans⟩

/-! ## A staged file -/

/-- A workspace that differs from an earlier one at most in a temporary file, where
there was nothing before. -/
structure Staged (before now : Workspace) (temporary : Path) (place : Location) : Prop where
  change : ChangesOnly (some temporary) before now
  target : before.target? temporary = some place
  fresh : before.node? place = none

/-- A workspace that differs from an earlier one in that something lies at the end of a
path, and in nothing else. -/
structure Replaced (before after : Workspace) (output : Path) (destination : Location)
    (node : FileNode) : Prop where
  target : before.target? output = some destination
  target_after : after.target? output = some destination
  node : after.node? destination = some node
  elsewhere : ∀ other, other ≠ destination → after.node? other = before.node? other

/-- Where a file comes in place of no directory, the path that leads there still does. -/
theorem replaced_of_node? {output : Path} {destination : Location} {node : FileNode}
    (hhere : after.here = before.here) (htarget : before.target? output = some destination)
    (hfree : before.node? destination ≠ some .directory)
    (hnode : after.node? destination = some node) (hplain : node ≠ .directory)
    (helsewhere : ∀ other, other ≠ destination → after.node? other = before.node? other) :
    Replaced before after output destination node := by
  have hsame : FileStore.SameDirectories before.store after.store := by
    intro place
    by_cases hplace : place = destination
    · subst hplace
      refine ⟨fun hdirectory => absurd hdirectory hfree, fun hdirectory => ?_⟩
      exact absurd (Option.some.inj (hnode.symm.trans hdirectory)) hplain
    · have hother := helsewhere place hplace
      exact ⟨hother.trans, hother.symm.trans⟩
  refine ⟨htarget, ?_, hnode, helsewhere⟩
  rw [← htarget, target?, target?, hhere, FileStore.target?_of_sameDirectories hsame]

theorem Replaced.trans {later : Workspace} {output : Path} {destination : Location}
    {node : FileNode} (hreplaced : Replaced before after output destination node)
    (hchange : ChangesOnly none after later) : Replaced before later output destination node :=
  ⟨hreplaced.target, (hchange.target?_eq output).trans hreplaced.target_after,
    (hchange.node?_eq destination).trans hreplaced.node,
    fun other hother => (hchange.node?_eq other).trans (hreplaced.elsewhere other hother)⟩

/-- A temporary file is created where nothing lies. -/
theorem staged_createTemporary {workspace now : Workspace} {directory temporary : Path}
    {beginning ending : String}
    (hcreate : workspace.createTemporary directory beginning ending = (.ok temporary, now)) :
    ∃ place, Staged workspace now temporary place := by
  unfold createTemporary at hcreate
  dsimp only at hcreate
  split at hcreate
  · next store hstore =>
      cases hcreate
      obtain ⟨place, htarget, hfresh, rfl⟩ := FileStore.createFile_eq_ok hstore
      have hnode : workspace.node? place ≠ some .directory := by
        rw [node?, hfresh]
        exact nofun
      exact ⟨place, changesOnly_insert htarget hnode _ _, htarget, hfresh⟩
  · cases hcreate

theorem eq_of_createTemporary_eq_error {workspace now : Workspace} {directory : Path}
    {beginning ending : String} {error : FileError}
    (hcreate : workspace.createTemporary directory beginning ending = (.error error, now)) :
    now = workspace := by
  unfold createTemporary at hcreate
  dsimp only at hcreate
  split at hcreate
  · cases hcreate
  · cases hcreate
    rfl

namespace Staged

variable {before now after : Workspace} {temporary output : Path} {place : Location}

/-- Whoever writes to the temporary file leaves it staged. -/
theorem trans (hstaged : Staged before now temporary place)
    (hchange : ChangesOnly (some temporary) now after) : Staged before after temporary place :=
  ⟨hstaged.change.trans hchange, hstaged.target, hstaged.fresh⟩

/-- What happens before does not matter if it changes nothing. -/
theorem of_changesOnly {earlier : Workspace} (hchange : ChangesOnly none earlier before)
    (hstaged : Staged before now temporary place) : Staged earlier now temporary place :=
  ⟨(hchange.of_none _).trans hstaged.change,
    (hchange.target?_eq temporary).symm.trans hstaged.target,
    (hchange.node?_eq place).symm.trans hstaged.fresh⟩

theorem target_now (hstaged : Staged before now temporary place) :
    now.target? temporary = some place :=
  (hstaged.change.target?_eq temporary).trans hstaged.target

theorem plain (hstaged : Staged before now temporary place) : IsPlain (now.node? place) := by
  rcases hstaged.change.nodes place with hsame | ⟨-, -, hplain⟩
  · rw [hsame, hstaged.fresh]
    trivial
  · exact hplain

theorem elsewhere (hstaged : Staged before now temporary place) {other : Location}
    (hother : other ≠ place) : now.node? other = before.node? other := by
  rcases hstaged.change.nodes other with hsame | ⟨htarget, -⟩
  · exact hsame
  · have hplace : some place = some other := hstaged.target.symm.trans htarget
    exact absurd (Option.some.inj hplace).symm hother

/-- The size of a staged file is that of what it holds. -/
theorem sizeOf_eq_ok (hstaged : Staged before now temporary place) {size : Nat}
    (hsize : now.store.sizeOf now.here temporary = .ok size) :
    ∃ content modified, now.node? place = some (.file content modified) ∧
      size = content.size := by
  obtain ⟨node, hnode, hcontent⟩ := FileStore.sizeOf_of_target? hstaged.target_now hsize
  have hplain := hstaged.plain
  rw [node?, hnode] at hplain
  cases node with
  | directory => exact hplain.elim
  | file content modified => exact ⟨content, modified, hnode, hcontent content modified rfl⟩
  | library symbols modified => exact hplain.elim

/-- Without the staged file, everything is as it was before. -/
theorem changesOnly_of_removed (hstaged : Staged before now temporary place)
    (hremoved : Removed now after place) : ChangesOnly none before after := by
  refine ⟨hremoved.here.trans hstaged.change.here, fun other => .inl ?_⟩
  rw [hremoved.node?_eq]
  by_cases hother : other = place
  · rw [if_pos hother, hother, hstaged.fresh]
  · rw [if_neg hother, hstaged.elsewhere hother]

/-- Moving the staged file into place puts it there as it is, and changes nothing
else. -/
theorem replaced_of_movedAlong (hstaged : Staged before now temporary place)
    (hmoves : MovedAlong temporary output now after) {node : FileNode}
    (hnode : now.node? place = some node) :
    ChangesOnly (some output) before after ∧
      ∃ destination, Replaced before after output destination node := by
  obtain ⟨found, destination, hfound, htarget, hfree, hmoved⟩ :=
    hmoves place hstaged.target_now
  obtain rfl := Option.some.inj (hfound.symm.trans hnode)
  have hhere := hmoved.here.trans hstaged.change.here
  have hplain := hstaged.plain
  rw [hnode] at hplain
  have hbefore : before.target? output = some destination := by
    rw [← hstaged.change.target?_eq output]
    exact htarget
  have hnodirectory : before.node? destination ≠ some .directory := by
    intro hdirectory
    exact hfree ((hstaged.change.sameDirectories destination).mp hdirectory)
  have helsewhere : ∀ other, other ≠ destination → after.node? other = before.node? other := by
    intro other hother
    rw [hmoved.elsewhere other hother]
    by_cases hgone : other = place
    · rw [if_pos hgone, hgone, hstaged.fresh]
    · rw [if_neg hgone]
      exact hstaged.elsewhere hgone
  refine ⟨⟨hhere, fun other => ?_⟩, destination, ?_⟩
  · by_cases hother : other = destination
    · subst hother
      refine .inr ⟨hbefore, hnodirectory, ?_⟩
      rwa [hmoved.node]
    · exact .inl (helsewhere other hother)
  · refine replaced_of_node? hhere hbefore hnodirectory hmoved.node ?_ helsewhere
    rintro rfl
    exact ne_directory_of_isPlain hplain rfl

end Staged

theorem eq_of_moveFile_eq_error {workspace after : Workspace} {source target : Path}
    {error : FileError} (hmove : workspace.moveFile source target = (.error error, after)) :
    after = workspace := by
  rw [moveFile] at hmove
  cases hcall : workspace.store.moveFile workspace.here source target with
  | error error =>
      rw [hcall] at hmove
      cases hmove
      rfl
  | ok store =>
      rw [hcall] at hmove
      cases hmove

end Workspace

end EpsBridge
