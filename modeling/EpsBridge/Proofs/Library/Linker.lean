import EpsBridge.Library.Linux
import EpsBridge.Proofs.FileStore.Directories
import EpsBridge.Proofs.Library.Search

/-!
# What the linker does when it opens a library

Opening a library changes the linker: directories that are missing are given up, and a
library in use is known by one more name.  What opening comes to does not change with the
former.  A directory is given up when it is not there, and then nothing is found behind it
anyway.  So linkers that are `Alike` in files as they are give the same answers.

`attempt` is the answer as far as it depends on the linker before and on nothing that is
tried in between, and `openLibrary_spec` says that every opening is an attempt, brought to an
end by `conclude`.

A linker is `Sound` if every library in use has all entry points.  What opens but lacks entry
points is then none of the libraries in use, so the linker is undisturbed by it
(`undisturbed_loader`).  On Linux, a process keeps its linker sound (`sound_run`).
-/

namespace EpsBridge.Linker

open LibrarySearch

variable {workspace : Workspace} {state now later : State}

/-! ## Linkers that are alike -/

/-- A search directory that is given up when it is needed. -/
def Gone (workspace : Workspace) (directory : List UInt8) : Prop :=
  Path.isAbsolute ⟨directory⟩ = true ∧
    workspace.store.isDirectory workspace.here ⟨directory⟩ = false

/-- Linkers that differ at most in having given up what is gone. -/
structure Alike (workspace : Workspace) (state now : State) : Prop where
  directories : now.searchDirectories = state.searchDirectories
  resident : now.resident = state.resident
  missing : ∀ directory,
    (directory ∈ now.missingDirectories ↔ directory ∈ state.missingDirectories) ∨
      Gone workspace directory

namespace Alike

theorem refl (workspace : Workspace) (state : State) : Alike workspace state state :=
  ⟨rfl, rfl, fun _ => .inl Iff.rfl⟩

theorem trans (hfirst : Alike workspace state now) (hsecond : Alike workspace now later) :
    Alike workspace state later where
  directories := hsecond.directories.trans hfirst.directories
  resident := hsecond.resident.trans hfirst.resident
  missing directory := by
    rcases hfirst.missing directory with hone | hgone
    · rcases hsecond.missing directory with htwo | hgone
      · exact .inl (htwo.trans hone)
      · exact .inr hgone
    · exact .inr hgone

theorem giveUp (halike : Alike workspace state now) {directory : List UInt8}
    (hgone : Gone workspace directory) :
    Alike workspace state
      { now with missingDirectories := directory :: now.missingDirectories } where
  directories := halike.directories
  resident := halike.resident
  missing other := by
    by_cases hother : other = directory
    · exact .inr (hother ▸ hgone)
    · rw [List.mem_cons, or_iff_right hother]
      exact halike.missing other

end Alike

/-- A search directory has a slash at its end, unless it is empty. -/
def Ended (directory : List UInt8) : Prop :=
  directory = [] ∨ directory.getLast? = some Path.slash

/-- Behind what is gone there is nothing. -/
theorem exists_error_of_gone {directory name : List UInt8} (hended : Ended directory)
    (hgone : Gone workspace directory) (hname : name ≠ []) (hslash : Path.slash ∉ name) :
    ∃ error, workspace.store.locate workspace.here ⟨directory ++ name⟩ = .error error := by
  obtain ⟨habsolute, hmissing⟩ := hgone
  rcases hended with rfl | hend
  · cases habsolute
  · rcases hlocate : workspace.store.locate workspace.here ⟨directory ++ name⟩ with
      error | ⟨place, node⟩
    · exact ⟨error, rfl⟩
    · have hdirectory := FileStore.isDirectory_of_locate_append hend hname hslash hlocate
      cases hmissing.symm.trans hdirectory

/-! ## Searching -/

/-- What is found of a name in a search directory: the path to it, its place, and what lies
there. -/
def look? (workspace : Workspace) (missing : List (List UInt8)) (name directory : List UInt8) :
    Option (List UInt8 × Location × FileNode) :=
  if directory ∈ missing then none
  else match workspace.store.locate workspace.here ⟨directory ++ name⟩ with
    | .ok (place, node) => some (directory ++ name, place, node)
    | .error _ => none

/-- What is found of a name first. -/
def found? (workspace : Workspace) (state : State) (name : List UInt8) :
    Option (List UInt8 × Location × FileNode) :=
  state.searchDirectories.findSome? (look? workspace state.missingDirectories name)

/-- What is found lies where it is said to. -/
theorem locate_of_found? {name along : List UInt8} {place : Location} {node : FileNode}
    (hfound : found? workspace state name = some (along, place, node)) :
    workspace.store.locate workspace.here ⟨along⟩ = .ok (place, node) := by
  obtain ⟨directory, -, hlook⟩ := List.exists_of_findSome?_eq_some hfound
  unfold look? at hlook
  split at hlook
  · cases hlook
  · split at hlook
    · next hlocate =>
        cases hlook
        exact hlocate
    · cases hlook

/-- The image that a search opens. -/
def openFound (name : List UInt8) : Option (List UInt8 × Location × FileNode) →
    Except String Image
  | some (path, place, node) => openNode (Utf8.decode path) [path, name] place node
  | none => .error (cannotOpen (Utf8.decode name)
      (if FileStore.nameLimit < name.length then .nameTooLong else .noEntry))

/-- A file that was opened is shared with the library in use that it is the file of. -/
def concludeOpening (state : State) : Except String Image → Except String Image × State
  | .error reason => (.error reason, state)
  | .ok image => (.ok (share state image).1, (share state image).2)

/-- What a linker finds of a name in a directory, all that are like it find. -/
theorem look?_of_alike (halike : Alike workspace state now) {directory name : List UInt8}
    (hended : Ended directory) (hname : name ≠ []) (hslash : Path.slash ∉ name) :
    look? workspace now.missingDirectories name directory =
      look? workspace state.missingDirectories name directory := by
  unfold look?
  rcases halike.missing directory with hsame | hgone
  · simp only [hsame]
  · obtain ⟨error, hlocate⟩ := exists_error_of_gone hended hgone hname hslash
    simp only [hlocate, ite_self]

theorem searchIn_spec {name : List UInt8} (hname : name ≠ []) (hslash : Path.slash ∉ name)
    {directories : List (List UInt8)} (hended : ∀ directory ∈ directories, Ended directory)
    (halike : Alike workspace state now) :
    ∃ after, Alike workspace state after ∧
      searchIn workspace now name directories = concludeOpening after
        (openFound name
          (directories.findSome? (look? workspace state.missingDirectories name))) := by
  induction directories generalizing now with
  | nil => exact ⟨now, halike, rfl⟩
  | cons directory rest ih =>
      have hrest := fun other hother => hended other (List.mem_cons_of_mem directory hother)
      rw [List.findSome?_cons,
        ← look?_of_alike halike (hended directory List.mem_cons_self) hname hslash, searchIn]
      by_cases hmissing : directory ∈ now.missingDirectories
      · rw [if_pos (List.contains_iff_mem.mpr hmissing), look?, if_pos hmissing]
        exact ih hrest halike
      · rw [if_neg (mt List.contains_iff_mem.mp hmissing), look?, if_neg hmissing]
        dsimp only
        rcases hlocate : workspace.store.locate workspace.here ⟨directory ++ name⟩ with
          error | ⟨place, node⟩
        · -- the search goes on, without the directory if that is gone
          refine ih hrest ?_
          split
          · next hgone =>
              rw [Bool.and_eq_true, Bool.not_eq_true'] at hgone
              exact halike.giveUp hgone
          · exact halike
        · refine ⟨now, halike, ?_⟩
          dsimp only [openFound]
          split
          · next hopened => rw [hopened]; rfl
          · next hopened => rw [hopened]; rfl

/-! ## Opening -/

/-- The image that a path opens. -/
def openAlong (workspace : Workspace) (name : List UInt8) : Except String Image :=
  match workspace.store.locate workspace.here ⟨name⟩ with
  | .ok (place, node) => openNode (Utf8.decode name) [name] place node
  | .error error => .error (cannotOpen (Utf8.decode name) error)

/-- What opening a library comes to, but for the sharing of files. -/
inductive Attempt where
  /-- The program itself, or a library in use under a name that it is known by. -/
  | known (image : Image)
  /-- A file. -/
  | file (result : Except String Image)

/-- What opening a file comes to: by a path, or by a name that is looked for. -/
def attemptFile (workspace : Workspace) (state : State) (name : List UInt8) :
    Except String Image :=
  if name.contains Path.slash then openAlong workspace name
  else openFound name (found? workspace state name)

/-- What opening a library by a name without a zero byte comes to. -/
def attemptName (workspace : Workspace) (state : State) (name : List UInt8) : Attempt :=
  if name.isEmpty then .known ownImage
  else match knownAs? state name with
    | some image => .known image
    | none => .file (attemptFile workspace state name)

/-- What opening a library comes to. -/
def attempt (workspace : Workspace) (state : State) (path : Path) : Attempt :=
  let ended := path.bytes.getLast? = some 0
  let name := if ended then path.bytes.dropLast else path.bytes
  if name.contains 0 then
    .file (.error (if ended then "could not create a C string from bytes with trailing null"
      else "could not create a C string from bytes"))
  else attemptName workspace state name

/-- Brings an attempt to its end. -/
def conclude (state : State) : Attempt → Except String Image × State
  | .known image => (.ok image, state)
  | .file result => concludeOpening state result

theorem openPath_eq (workspace : Workspace) (now : State) (name : List UInt8) :
    openPath workspace now name = concludeOpening now (openAlong workspace name) := by
  unfold openPath openAlong
  dsimp only
  split
  · next hlocate => rw [hlocate]; rfl
  · next hlocate =>
      rw [hlocate]
      dsimp only
      split
      · next hopened => rw [hopened]; rfl
      · next hopened => rw [hopened]; rfl

/-- The search directories of a linker end as they should. -/
def WellEnded (state : State) : Prop :=
  ∀ directory ∈ state.searchDirectories, Ended directory

theorem WellEnded.of_directories (hended : WellEnded state)
    (hsame : now.searchDirectories = state.searchDirectories) : WellEnded now := by
  unfold WellEnded
  rw [hsame]
  exact hended

theorem openName_spec (hended : WellEnded state) (halike : Alike workspace state now)
    (name : List UInt8) :
    ∃ after, Alike workspace state after ∧
      openName workspace now name = conclude after (attemptName workspace state name) := by
  have hknown : knownAs? now name = knownAs? state name := by
    rw [knownAs?, knownAs?, halike.resident]
  unfold openName attemptName
  rw [hknown]
  by_cases hempty : name.isEmpty = true
  · rw [if_pos hempty, if_pos hempty]
    exact ⟨now, halike, rfl⟩
  · rw [if_neg hempty, if_neg hempty]
    rcases knownAs? state name with _ | image
    · dsimp only
      rw [attemptFile]
      by_cases hslash : name.contains Path.slash = true
      · rw [if_pos hslash, if_pos hslash, openPath_eq]
        exact ⟨now, halike, rfl⟩
      · rw [if_neg hslash, if_neg hslash, halike.directories]
        have hname : name ≠ [] := by simpa using hempty
        exact searchIn_spec hname (mt List.contains_iff_mem.mpr hslash) hended halike
    · exact ⟨now, halike, rfl⟩

/-- Opening a library is an attempt, brought to an end by a linker that is like the one
before. -/
theorem openLibrary_spec (hended : WellEnded state) (halike : Alike workspace state now)
    (path : Path) :
    ∃ after, Alike workspace state after ∧
      openLibrary workspace now path = conclude after (attempt workspace state path) := by
  unfold openLibrary attempt
  dsimp only
  generalize (if path.bytes.getLast? = some 0 then path.bytes.dropLast else path.bytes) = name
  split
  · exact ⟨now, halike, rfl⟩
  · exact openName_spec hended halike _

theorem conclude_of_resident (hresident : now.resident = state.resident) (tried : Attempt) :
    (conclude now tried).1 = (conclude state tried).1 := by
  cases tried with
  | known image => rfl
  | file result =>
      cases result with
      | error reason => rfl
      | ok image =>
          unfold conclude concludeOpening share
          dsimp only
          rw [hresident]
          split <;> rfl

/-- What opening a library comes to, it comes to for all linkers that are alike. -/
theorem openLibrary_of_alike (hended : WellEnded state) (halike : Alike workspace state now)
    (path : Path) :
    (openLibrary workspace now path).1 = (openLibrary workspace state path).1 := by
  obtain ⟨after, hafter, hnow⟩ := openLibrary_spec hended halike path
  obtain ⟨other, hother, hstate⟩ := openLibrary_spec hended (.refl workspace state) path
  rw [hnow, hstate, conclude_of_resident hafter.resident, conclude_of_resident hother.resident]

/-! ## Libraries in use -/

/-- A linker whose search directories end as they should, and whose libraries in use are
complete. -/
structure Sound (state : State) : Prop where
  ended : WellEnded state
  complete : ∀ image ∈ state.resident, Complete loader image

section Sound

variable {image : Image}

theorem Sound.of_alike (hsound : Sound state) (halike : Alike workspace state now) : Sound now where
  ended := hsound.ended.of_directories halike.directories
  complete := by
    rw [halike.resident]
    exact hsound.complete

theorem sound_start (searchPath : List UInt8) : Sound (.start searchPath) where
  ended := by
    intro directory hdirectory
    change directory ∈ searchDirectoriesOf searchPath at hdirectory
    unfold searchDirectoriesOf at hdirectory
    dsimp only at hdirectory
    split at hdirectory
    · cases hdirectory
    · obtain ⟨segment, -, rfl⟩ := List.mem_map.mp hdirectory
      split
      · exact .inl rfl
      · exact .inr List.getLast?_concat
  complete := nofun

theorem mem_resident_keep {other : Image} (hother : other ∈ (state.keep image).resident) :
    other ∈ state.resident ∨ other = image := by
  unfold State.keep at hother
  split at hother
  · exact .inl hother
  · rwa [List.mem_append, List.mem_singleton] at hother

/-- A complete library may be kept in use. -/
theorem Sound.keep (hsound : Sound state) (hcomplete : Complete loader image) :
    Sound (state.keep image) where
  ended := by
    refine hsound.ended.of_directories ?_
    unfold State.keep
    split <;> rfl
  complete other hother := by
    rcases mem_resident_keep hother with hold | rfl
    · exact hsound.complete other hold
    · exact hcomplete

/-! ### Sharing -/

theorem Image.sameFile_iff {image other : Image} :
    image.sameFile other = true ↔ image.place = other.place ∧ image.symbols = other.symbols := by
  rw [Image.sameFile, Bool.and_eq_true, decide_eq_true_iff, decide_eq_true_iff]

/-- A library offers what its file offers, under whatever names. -/
theorem complete_of_symbols {other : Image} (hsame : image.symbols = other.symbols)
    (hcomplete : Complete loader other) : Complete loader image := by
  intro symbol hsymbol
  have hoffers : other.symbols.contains symbol = true := hcomplete symbol hsymbol
  rwa [← hsame] at hoffers

/-- A file is shared with a library in use that offers the same, or with none. -/
theorem share_cases (hsound : Sound state) (image : Image) :
    share state image = (image, state) ∨
      ∃ known ∈ state.resident, Complete loader known ∧
        (share state image).1 = known.alsoKnownAs image.names := by
  unfold share
  split
  · next known hfound =>
      have hresident := List.mem_of_find?_eq_some hfound
      exact .inr ⟨known, hresident, hsound.complete known hresident, rfl⟩
  · exact .inl rfl

theorem mem_resident_share {other : Image} (hother : other ∈ (share state image).2.resident) :
    other ∈ state.resident ∨
      ∃ known ∈ state.resident, other = known.alsoKnownAs image.names := by
  unfold share at hother
  split at hother
  · obtain ⟨known, hknown, rfl⟩ := List.mem_map.mp hother
    split
    · exact .inr ⟨known, hknown, rfl⟩
    · exact .inl hknown
  · exact .inl hother

theorem sound_share (hsound : Sound state) (image : Image) : Sound (share state image).2 where
  ended := by
    refine hsound.ended.of_directories ?_
    unfold share
    split <;> rfl
  complete other hother := by
    rcases mem_resident_share hother with hold | ⟨known, hknown, rfl⟩
    · exact hsound.complete other hold
    · exact complete_of_symbols rfl (hsound.complete known hknown)

/-! ### What opening leaves -/

/-- Whatever is opened, the linker stays sound. -/
theorem sound_openLibrary (hsound : Sound state) (workspace : Workspace) (path : Path) :
    Sound (openLibrary workspace state path).2 := by
  obtain ⟨after, halike, hopened⟩ := openLibrary_spec hsound.ended (.refl workspace state) path
  have hafter := hsound.of_alike halike
  rw [hopened]
  rcases attempt workspace state path with image | reason | image
  · exact hafter
  · exact hafter
  · exact sound_share hafter image

/-- What does not open, or lacks entry points, leaves the linker alike. -/
theorem alike_openLibrary (hsound : Sound state) (halike : Alike workspace state now) {path : Path}
    (hfails : ∀ image, (openLibrary workspace now path).1 = .ok image → ¬ Complete loader image) :
    Alike workspace state (openLibrary workspace now path).2 := by
  obtain ⟨after, hafter, hopened⟩ := openLibrary_spec hsound.ended halike path
  rw [hopened] at hfails ⊢
  rcases hattempt : attempt workspace state path with image | reason | image <;>
    rw [hattempt] at hfails
  · exact hafter
  · exact hafter
  · rcases share_cases (hsound.of_alike hafter) image with hsame | ⟨known, -, hcomplete, hshared⟩
    · rw [conclude, concludeOpening, hsame]
      exact hafter
    · -- a file that is shared offers what a library in use offers
      rw [conclude, concludeOpening, hshared] at hfails
      exact (hfails _ rfl (complete_of_symbols rfl hcomplete)).elim

theorem alike_of_tried (hsound : Sound state) (halike : Alike workspace state now)
    {candidates : List Path} {entries : List String}
    (htried : Tried loader workspace now candidates entries later) :
    Alike workspace state later := by
  induction htried with
  | nil => exact halike
  | cons hfails _ ih =>
      exact ih (alike_openLibrary hsound halike fun image hopened hcomplete =>
        hfails.not_binds ⟨image, hopened, hcomplete⟩)

/-- A sound linker is undisturbed by what fails. -/
theorem undisturbed_loader (hsound : Sound state) (workspace : Workspace) :
    Undisturbed loader workspace state := by
  intro candidates entries now htried path
  exact openLibrary_of_alike hsound.ended (alike_of_tried hsound (.refl workspace state) htried)
    path

/-! ### What a process leaves -/

/-- What happens in a process leaves its linker sound, as far as the process itself does not
see to it. -/
def Spares : Event State → Prop
  | .changeLoader state => Sound state
  | _ => True

theorem sound_bindFirst (hsound : Sound state) (workspace : Workspace) (tried : List String)
    (candidates : List Path) : Sound (bindFirst loader workspace state tried candidates).2 := by
  induction candidates generalizing state tried with
  | nil => exact hsound
  | cons path rest ih =>
      have hstate : Sound (bindPath loader workspace state path).2 :=
        bindPath_state loader workspace state path ▸ sound_openLibrary hsound workspace path
      rw [bindFirst]
      rcases hbound : bindPath loader workspace state path with ⟨error | image, after⟩ <;>
        rw [hbound] at hstate
      · exact ih hstate _
      · exact hstate

variable {session : Session State}

theorem sound_bindLibrary (hsound : Sound session.search.loader) (explicit : Option Path) :
    Sound (bindLibrary Linux.platform session.workspace session.search explicit).2.loader := by
  cases explicit with
  | none => exact sound_bindFirst hsound _ _ _
  | some path =>
      rw [Session.bindLibrary_explicit]
      exact sound_openLibrary hsound _ path

theorem complete_answer {explicit : Option Path} {path : Path}
    (hanswer : session.answer Linux.platform explicit = .ok (path, image)) :
    Complete loader image := by
  cases explicit with
  | none =>
      cases hanswer ▸ Session.searchedInTurn_answer Linux.platform session with
      | found _ _ hloaded =>
          cases hloaded with
          | bound _ hcomplete => exact hcomplete
  | some given =>
      have hloaded := loaded_bindPath loader session.workspace session.search.loader given
      rw [Session.answer, Session.bindLibrary_explicit] at hanswer
      rcases hbound : (bindPath loader session.workspace session.search.loader given).1 with
        error | bound <;> simp only [Linux.platform, hbound] at hanswer hloaded
      · cases hanswer
      · cases hanswer
        cases hloaded with
        | bound _ hcomplete => exact hcomplete

theorem sound_step (hsound : Sound session.search.loader) {event : Event State}
    (hspares : Spares event) : Sound (session.step Linux.platform event).search.loader := by
  cases event with
  | bind explicit keeps =>
      have hafter := sound_bindLibrary hsound explicit
      rcases Session.bind_cases Linux.platform session explicit keeps with
        hbind | ⟨path, image, hanswer, hbind⟩ <;> rw [Session.step, hbind]
      · exact hafter
      · exact hafter.keep (complete_answer hanswer)
  | changeLoader state => exact hspares
  | changeWorkspace workspace => exact hsound
  | changeEnvironment environment => exact hsound

/-- The linker of a process stays sound, whatever happens. -/
theorem sound_run (hsound : Sound session.search.loader) {events : List (Event State)}
    (hspares : ∀ event ∈ events, Spares event) :
    Sound (session.run Linux.platform events).search.loader := by
  induction events generalizing session with
  | nil => exact hsound
  | cons event rest ih =>
      obtain ⟨hevent, hrest⟩ := List.forall_mem_cons.mp hspares
      exact ih (sound_step hsound hevent) hrest

end Sound

end EpsBridge.Linker
