import EpsBridge.Proofs.FileStore.Change

/-!
# What a path reads

A path reads what lies where it leads.  It still does after something was written, unless
that was written to the very place that the path leads to, however the two paths are
spelled: `SameFile`, `keeps_of_changesOnly`.  Directories that are added take nothing away,
either (`AddsOnly.keeps`).
-/

namespace EpsBridge

/-! ## Stores with more in them -/

/-- All that lies in a store lies in another one, too. -/
def FileStore.KeptIn (store other : FileStore) : Prop :=
  ∀ place node, store.node? place = some node → other.node? place = some node

namespace FileStore.KeptIn

theorem refl (store : FileStore) : store.KeptIn store := fun _ _ hnode => hnode

theorem trans {store between other : FileStore} (hfirst : store.KeptIn between)
    (hsecond : between.KeptIn other) : store.KeptIn other :=
  fun place node hnode => hsecond place node (hfirst place node hnode)

theorem keepsDirectories {store other : FileStore} (hkept : store.KeptIn other) :
    KeepsDirectories store other :=
  fun place => hkept place .directory

theorem insert {store : FileStore} {place : Location} (hfree : store.node? place = none)
    (node : FileNode) : store.KeptIn (store.insert place node) := by
  intro other found hfound
  rw [node?_insert_of_ne store, hfound]
  rintro rfl
  cases hfree.symm.trans hfound

end FileStore.KeptIn

namespace FileStore

theorem keptIn_makeDirectory {store next : FileStore} {here : Location} {path : Path}
    (hmake : store.makeDirectory here path = .ok next) : store.KeptIn next := by
  obtain ⟨last, -, hrest⟩ := bind_eq_ok_iff.mp hmake
  split at hrest
  · split at hrest <;> cases hrest
  · split at hrest
    · cases hrest
    · next hfree =>
        cases hrest
        exact .insert hfree .directory

/-- Whether or not a chain of directories is completed, nothing is lost. -/
theorem keptIn_makeChain (store : FileStore) (here : Location) (paths : List Path) :
    store.KeptIn (store.makeChain here paths).2 := by
  induction paths generalizing store with
  | nil => exact .refl store
  | cons path enclosing ih =>
      rw [makeChain]
      dsimp only
      split
      · next hmade => exact keptIn_makeDirectory hmade
      · split
        · -- the directory around this one is missing, and made first
          have hchain := ih store
          split
          · next hfailed =>
              rw [hfailed] at hchain
              exact hchain
          · next hdone =>
              rw [hdone] at hchain
              split
              · next hmade => exact hchain.trans (keptIn_makeDirectory hmade)
              · split <;> exact hchain
        · split <;> exact .refl store

end FileStore

namespace Workspace

/-! ## Reading -/

/-- Where a path leads, whether or not something lies there. -/
def reach? (workspace : Workspace) (path : Path) : Option Location :=
  workspace.store.reach? workspace.here path

/-- What a path reads. -/
def read (workspace : Workspace) (path : Path) : Except FileError ByteArray :=
  workspace.store.readFile workspace.here path

variable {before between after workspace : Workspace} {path written : Path}

theorem read_of_reach? {place : Location} (hreach : workspace.reach? path = some place) :
    workspace.read path =
      match workspace.node? place with
      | none => .error .noEntry
      | some .directory => .error .isDirectory
      | some (.file content _) => .ok content
      | some (.library _ _) => .ok FileStore.libraryMagic := by
  rw [read, FileStore.readFile, FileStore.openForReading, FileStore.locate_of_reach? hreach,
    node?]
  rcases workspace.store.node? place with _ | ⟨_ | _ | _⟩ <;> rfl

theorem exists_of_read {content : ByteArray} (hread : workspace.read path = .ok content) :
    ∃ place node, workspace.reach? path = some place ∧ workspace.node? place = some node := by
  obtain ⟨opened, hopened, -⟩ := bind_eq_ok_iff.mp hread
  obtain ⟨⟨place, node⟩, hlocate, -⟩ := bind_eq_ok_iff.mp hopened
  obtain ⟨hreach, hnode⟩ := FileStore.locate_eq_ok_iff.mp hlocate
  exact ⟨place, node, hreach, hnode⟩

/-- What a path has read, it still reads. -/
def Keeps (path : Path) (before after : Workspace) : Prop :=
  ∀ content, before.read path = .ok content → after.read path = .ok content

theorem Keeps.trans (hfirst : Keeps path before between) (hsecond : Keeps path between after) :
    Keeps path before after :=
  fun content hread => hsecond content (hfirst content hread)

/-- A path reads the same where it leads to a place that has stayed as it was. -/
theorem keeps_of_node? (hhere : after.here = before.here)
    (hkeeps : FileStore.KeepsDirectories before.store after.store)
    (hnode : ∀ place node, before.reach? path = some place → before.node? place = some node →
      after.node? place = some node) : Keeps path before after := by
  intro content hread
  obtain ⟨place, node, hreach, hfound⟩ := exists_of_read hread
  have hafter : after.reach? path = some place := by
    rw [reach?, hhere]
    exact FileStore.reach?_of_keepsDirectories hkeeps hreach
  rw [read_of_reach? hreach, hfound] at hread
  rw [read_of_reach? hafter, hnode place node hreach hfound]
  exact hread

/-- What has come to be in a workspace lies where nothing lay. -/
structure AddsOnly (before after : Workspace) : Prop where
  here : after.here = before.here
  kept : before.store.KeptIn after.store

theorem AddsOnly.keeps (hadds : AddsOnly before after) (path : Path) : Keeps path before after :=
  keeps_of_node? hadds.here hadds.kept.keepsDirectories
    fun place node _ hnode => hadds.kept place node hnode

theorem addsOnly_makeDirectories (workspace : Workspace) (directory : Path) :
    AddsOnly workspace (workspace.makeDirectories directory).2 where
  here := rfl
  kept := FileStore.keptIn_makeChain workspace.store workspace.here _

/-! ## Two paths to one place -/

/-- A file that is written along the second path lies where the first one leads. -/
def SameFile (workspace : Workspace) (path written : Path) : Prop :=
  ∃ place, workspace.reach? path = some place ∧ workspace.target? written = some place

instance : Decidable (SameFile workspace path written) :=
  decidable_of_iff ((workspace.target? written).any fun place =>
      workspace.reach? path = some place) <| by
    rw [SameFile]
    cases workspace.target? written <;> simp

theorem SameFile.read_eq (hsame : SameFile workspace path written) :
    workspace.read path = workspace.read written := by
  obtain ⟨place, hreach, htarget⟩ := hsame
  rw [read_of_reach? hreach, read_of_reach? (FileStore.reach?_of_target? htarget)]

/-- Two paths to one file: the first still reads the same if the second does now. -/
theorem SameFile.keeps_iff (hsame : SameFile after path written) :
    Keeps path before after ↔
      ∀ held, before.read path = .ok held → after.read written = .ok held := by
  rw [Keeps, hsame.read_eq]

theorem ChangesOnly.reach?_eq {path? : Option Path} (hchange : ChangesOnly path? before after)
    (path : Path) : after.reach? path = before.reach? path := by
  rw [reach?, reach?, hchange.here]
  apply Option.ext
  intro place
  constructor
  · exact FileStore.reach?_of_keepsDirectories hchange.sameDirectories.symm.keepsDirectories
  · exact FileStore.reach?_of_keepsDirectories hchange.sameDirectories.keepsDirectories

theorem exists?_eq_true_iff :
    workspace.exists? path = true ↔
      ∃ place node, workspace.reach? path = some place ∧ workspace.node? place = some node := by
  rw [exists?, FileStore.exists?]
  constructor
  · intro hexists
    cases hlocate : workspace.store.locate workspace.here path with
    | error error =>
        rw [hlocate] at hexists
        cases hexists
    | ok found => exact ⟨found.1, found.2, FileStore.locate_eq_ok_iff.mp hlocate⟩
  · rintro ⟨place, node, hfound⟩
    rw [FileStore.locate_eq_ok_iff.mpr hfound]
    rfl

theorem ChangesOnly.exists?_eq (hchange : ChangesOnly none before after) (path : Path) :
    after.exists? path = before.exists? path := by
  rw [Bool.eq_iff_iff, exists?_eq_true_iff, exists?_eq_true_iff, hchange.reach?_eq]
  simp only [hchange.node?_eq]

/-- Whether two paths lead to one file does not change with what is in the files. -/
theorem sameFile_iff_of_changesOnly {path? : Option Path}
    (hchange : ChangesOnly path? before after) :
    SameFile after path written ↔ SameFile before path written := by
  simp only [SameFile, hchange.reach?_eq path, hchange.target?_eq written]

/-- A path reads the same after something was written along paths that do not lead to its
file. -/
theorem keeps_of_changesOnly {path? : Option Path} (hchange : ChangesOnly path? before after)
    (hother : ∀ written ∈ path?, ¬ SameFile before path written) : Keeps path before after := by
  refine keeps_of_node? hchange.here hchange.sameDirectories.keepsDirectories ?_
  intro place node hreach hnode
  rcases hchange.nodes place with hsame | ⟨htarget, -⟩
  · exact hsame.trans hnode
  · -- the place was written to, so what was written along leads to the file
    obtain ⟨written, hwritten, htarget⟩ := Option.bind_eq_some_iff.mp htarget
    exact absurd ⟨place, hreach, htarget⟩ (hother written hwritten)

/-- What was written is read along every path to it. -/
theorem keeps_iff_of_changesOnly (hchange : ChangesOnly (some written) before after) :
    Keeps path before after ↔ (SameFile before path written →
      ∀ held, before.read path = .ok held → after.read written = .ok held) := by
  by_cases hsame : SameFile before path written
  · have hafter := (sameFile_iff_of_changesOnly hchange).mpr hsame
    rw [hafter.keeps_iff]
    exact ⟨fun hkeeps _ => hkeeps, fun hkeeps => hkeeps hsame⟩
  · refine iff_of_true (keeps_of_changesOnly hchange ?_) (absurd · hsame)
    rintro other ⟨⟩
    exact hsame

theorem keeps_of_changesOnly_none (hchange : ChangesOnly none before after) (path : Path) :
    Keeps path before after :=
  keeps_of_changesOnly hchange nofun

end Workspace

end EpsBridge
