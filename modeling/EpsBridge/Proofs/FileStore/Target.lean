import EpsBridge.FileStore.Calls

/-!
# Where paths lead

A path is walked directory by directory, so where it leads depends on nothing but
which locations are directories (`walk_of_keepsDirectories`,
`target?_of_sameDirectories`).  Files may come and go meanwhile.

Looking along a path finds what lies where it leads (`locate_of_reach?`).  A file that is
written along a path lies at the path's target.  `target?_eq_some_iff` says when there is
one; the path then leads there (`reach?_of_target?`), and the calls that create, move and
remove files are described by targets alone.
-/

namespace EpsBridge

/-- A result that goes on is good when both parts of it are. -/
theorem bind_eq_ok_iff {ε α β : Type} {result : Except ε α} {next : α → Except ε β} {value : β} :
    result >>= next = .ok value ↔ ∃ first, result = .ok first ∧ next first = .ok value := by
  constructor
  · intro hok
    cases result with
    | error error => cases hok
    | ok first => exact ⟨first, rfl, hok⟩
  · rintro ⟨first, rfl, hok⟩
    exact hok

theorem toOption_eq_some_iff {ε α : Type} {result : Except ε α} {value : α} :
    result.toOption = some value ↔ result = .ok value := by
  cases result <;> simp [Except.toOption]

namespace FileStore

/-! ## What lies where after a change -/

theorem lookup_filter_ne {place other : Location} (hother : other ≠ place)
    (entries : List (Location × FileNode)) :
    (entries.filter fun entry => entry.1 ≠ place).lookup other = entries.lookup other := by
  induction entries with
  | nil => rfl
  | cons entry rest ih =>
      obtain ⟨found, node⟩ := entry
      by_cases hfound : found = place
      · have hmiss : (other == found) = false := by simpa [hfound] using hother
        rw [List.filter_cons_of_neg (by simp [hfound]), ih, List.lookup_cons, hmiss]
      · rw [List.filter_cons_of_pos (by simp [hfound]), List.lookup_cons, List.lookup_cons, ih]

theorem lookup_filter_self (place : Location) (entries : List (Location × FileNode)) :
    (entries.filter fun entry => entry.1 ≠ place).lookup place = none := by
  rw [List.lookup_eq_none_iff]
  intro entry hentry
  have hkept := (List.mem_filter.mp hentry).2
  simpa using fun heq => (of_decide_eq_true hkept) heq.symm

theorem node?_erase_self (store : FileStore) {place : Location} (hplace : place ≠ []) :
    (store.erase place).node? place = none := by
  rw [node?, if_neg hplace]
  exact lookup_filter_self place store.entries

theorem node?_erase_of_ne (store : FileStore) {place other : Location} (hother : other ≠ place) :
    (store.erase place).node? other = store.node? other := by
  by_cases hroot : other = []
  · rw [node?, if_pos hroot, node?, if_pos hroot]
  · rw [node?, if_neg hroot, node?, if_neg hroot]
    exact lookup_filter_ne hother store.entries

theorem node?_insert_self (store : FileStore) {place : Location} (hplace : place ≠ [])
    (node : FileNode) : (store.insert place node).node? place = some node := by
  rw [node?, if_neg hplace]
  exact List.lookup_cons_self

theorem node?_insert_of_ne (store : FileStore) {place other : Location} (hother : other ≠ place)
    (node : FileNode) : (store.insert place node).node? other = store.node? other := by
  have hmiss : (other == place) = false := by simpa using hother
  rw [← node?_erase_of_ne store hother]
  by_cases hroot : other = []
  · rw [node?, if_pos hroot, node?, if_pos hroot]
  · rw [node?, if_neg hroot, node?, if_neg hroot, insert, List.lookup_cons, hmiss]

/-! ## Walking -/

/-- Every directory of a store is one of another store, too. -/
def KeepsDirectories (store other : FileStore) : Prop :=
  ∀ place, store.node? place = some .directory → other.node? place = some .directory

/-- Two stores with the same directories. -/
def SameDirectories (store other : FileStore) : Prop :=
  ∀ place, store.node? place = some .directory ↔ other.node? place = some .directory

theorem SameDirectories.symm {store other : FileStore} (hsame : SameDirectories store other) :
    SameDirectories other store :=
  fun place => (hsame place).symm

theorem SameDirectories.keepsDirectories {store other : FileStore}
    (hsame : SameDirectories store other) : KeepsDirectories store other :=
  fun place => (hsame place).mp

theorem step_of_keepsDirectories {store other : FileStore} (hkeeps : KeepsDirectories store other)
    {place next : Location} {segment : List UInt8} (hstep : store.step place segment = .ok next) :
    other.step place segment = .ok next := by
  unfold step at hstep ⊢
  split at hstep
  · cases hstep
  · next hdirectory => rwa [hkeeps place hdirectory]
  · cases hstep

theorem walk_of_keepsDirectories {store other : FileStore} (hkeeps : KeepsDirectories store other)
    {place last : Location} {segments : List (List UInt8)}
    (hwalk : store.walk place segments = .ok last) : other.walk place segments = .ok last := by
  induction segments generalizing place with
  | nil => exact hwalk
  | cons segment rest ih =>
      rw [walk, List.foldlM_cons] at hwalk ⊢
      cases hstep : store.step place segment with
      | error error => rw [hstep] at hwalk; cases hwalk
      | ok next =>
          rw [hstep] at hwalk
          rw [step_of_keepsDirectories hkeeps hstep]
          exact ih hwalk

/-- Where a path leads, whether or not something lies there. -/
def reach? (store : FileStore) (here : Location) (path : Path) : Option Location :=
  let more := if hasTrailingSlash path then [hereSegment] else []
  match checkPath path, store.walk (origin here path) (segments path ++ more) with
  | .ok (), .ok place => some place
  | _, _ => none

theorem reach?_eq_some_iff {store : FileStore} {here place : Location} {path : Path} :
    store.reach? here path = some place ↔ checkPath path = .ok () ∧
      store.walk (origin here path)
        (segments path ++ if hasTrailingSlash path then [hereSegment] else []) = .ok place := by
  unfold reach?
  dsimp only
  split
  · next hcheck hwalk => simp [hcheck, hwalk]
  · next hnone =>
      refine iff_of_false nofun ?_
      rintro ⟨hcheck, hwalk⟩
      exact hnone place hcheck hwalk

theorem reach?_of_keepsDirectories {store other : FileStore}
    (hkeeps : KeepsDirectories store other) {here place : Location} {path : Path}
    (hreach : store.reach? here path = some place) : other.reach? here path = some place := by
  rw [reach?_eq_some_iff] at hreach ⊢
  exact ⟨hreach.1, walk_of_keepsDirectories hkeeps hreach.2⟩

/-- What is found along a path lies where it leads. -/
theorem locate_of_reach? {store : FileStore} {here place : Location} {path : Path}
    (hreach : store.reach? here path = some place) :
    store.locate here path =
      match store.node? place with
      | some node => .ok (place, node)
      | none => .error .noEntry := by
  obtain ⟨hcheck, hwalk⟩ := reach?_eq_some_iff.mp hreach
  cases hnode : store.node? place with
  | none => simp [locate, hcheck, bind, Except.bind, hwalk, hnode]
  | some node => simp [locate, hcheck, bind, Except.bind, hwalk, hnode]

theorem locate_eq_ok_iff {store : FileStore} {here place : Location} {path : Path}
    {node : FileNode} :
    store.locate here path = .ok (place, node) ↔
      store.reach? here path = some place ∧ store.node? place = some node := by
  constructor
  · intro hlocate
    obtain ⟨⟨⟩, hcheck, hrest⟩ := bind_eq_ok_iff.mp hlocate
    obtain ⟨found, hwalk, hnode⟩ := bind_eq_ok_iff.mp hrest
    split at hnode
    · next node hfound =>
        cases hnode
        exact ⟨reach?_eq_some_iff.mpr ⟨hcheck, hwalk⟩, hfound⟩
    · cases hnode
  · rintro ⟨hreach, hnode⟩
    rw [locate_of_reach? hreach, hnode]

/-! ## Targets -/

/-- A path ends in a name when all its steps but the last lead to directories. -/
theorem lastStep_eq_named_iff {store : FileStore} {here directory : Location} {path : Path}
    {name : List UInt8} {slash : Bool} :
    store.lastStep here path = .ok (.named directory name slash) ↔
      checkPath path = .ok () ∧
        store.walk (origin here path) (segments path).dropLast = .ok directory ∧
        store.node? directory = some .directory ∧ (segments path).getLast? = some name ∧
        name ≠ hereSegment ∧ name ≠ upSegment ∧ name.length ≤ nameLimit ∧
        hasTrailingSlash path = slash := by
  rw [lastStep, bind_eq_ok_iff]
  constructor
  · -- each way out of the last step but one is an error or a path that ends in no name
    rintro ⟨⟨⟩, hcheck, hrest⟩
    obtain ⟨reached, hwalk, hlast⟩ := bind_eq_ok_iff.mp hrest
    split at hlast
    · cases hlast
    · next hdirectory =>
        split at hlast
        · cases hlast
        · next last hname =>
            split at hlast
            · cases hlast
            · next hdots =>
                split at hlast
                · cases hlast
                · next hlength =>
                    cases hlast
                    simp only [Bool.or_eq_true, decide_eq_true_eq, not_or] at hdots
                    exact ⟨hcheck, hwalk, hdirectory, hname, hdots.1, hdots.2,
                      Nat.le_of_not_lt hlength, rfl⟩
    · cases hlast
  · rintro ⟨hcheck, hwalk, hdirectory, hname, hhere, hup, hlength, hslash⟩
    refine ⟨(), hcheck, bind_eq_ok_iff.mpr ⟨directory, hwalk, ?_⟩⟩
    simp [hdirectory, hname, hhere, hup, Nat.not_lt.mpr hlength, hslash]

theorem lastStep_of_sameDirectories {store other : FileStore} (hsame : SameDirectories store other)
    {here directory : Location} {path : Path} {name : List UInt8} {slash : Bool}
    (hlast : store.lastStep here path = .ok (.named directory name slash)) :
    other.lastStep here path = .ok (.named directory name slash) := by
  rw [lastStep_eq_named_iff] at hlast ⊢
  obtain ⟨hcheck, hwalk, hdirectory, hrest⟩ := hlast
  exact ⟨hcheck, walk_of_keepsDirectories hsame.keepsDirectories hwalk,
    (hsame directory).mp hdirectory, hrest⟩

/-- Where a file lies that is written along a path. -/
def target? (store : FileStore) (here : Location) (path : Path) : Option Location :=
  match store.lastStep here path with
  | .ok (.named directory name false) => some (name :: directory)
  | _ => none

theorem target?_eq_some_iff {store : FileStore} {here place : Location} {path : Path} :
    store.target? here path = some place ↔
      ∃ directory name, store.lastStep here path = .ok (.named directory name false) ∧
        place = name :: directory := by
  unfold target?
  constructor
  · intro htarget
    split at htarget
    · next directory name hlast => exact ⟨directory, name, hlast, (Option.some.inj htarget).symm⟩
    · cases htarget
  · rintro ⟨directory, name, hlast, rfl⟩
    rw [hlast]

theorem ne_nil_of_target? {store : FileStore} {here place : Location} {path : Path}
    (htarget : store.target? here path = some place) : place ≠ [] := by
  obtain ⟨directory, name, -, rfl⟩ := target?_eq_some_iff.mp htarget
  exact List.cons_ne_nil name directory

/-- Where a path leads does not depend on what files there are. -/
theorem target?_of_sameDirectories {store other : FileStore}
    (hsame : SameDirectories store other) (here : Location) (path : Path) :
    store.target? here path = other.target? here path := by
  apply Option.ext
  intro place
  rw [target?_eq_some_iff, target?_eq_some_iff]
  constructor
  · rintro ⟨directory, name, hlast, hplace⟩
    exact ⟨directory, name, lastStep_of_sameDirectories hsame hlast, hplace⟩
  · rintro ⟨directory, name, hlast, hplace⟩
    exact ⟨directory, name, lastStep_of_sameDirectories hsame.symm hlast, hplace⟩

/-- A path leads to its target, if it has one. -/
theorem reach?_of_target? {store : FileStore} {here place : Location} {path : Path}
    (htarget : store.target? here path = some place) : store.reach? here path = some place := by
  obtain ⟨directory, name, hlast, rfl⟩ := target?_eq_some_iff.mp htarget
  obtain ⟨hcheck, hwalk, hdirectory, hname, hhere, hup, hlength, hslash⟩ :=
    lastStep_eq_named_iff.mp hlast
  have hstep : store.step directory name = .ok (name :: directory) := by
    rw [step, hdirectory, if_neg hhere, if_neg hup, if_neg (Nat.not_lt.mpr hlength)]
  have hall : segments path = (segments path).dropLast ++ [name] := by
    obtain ⟨start, hstart⟩ := List.getLast?_eq_some_iff.mp hname
    rw [hstart, List.dropLast_concat]
  rw [reach?_eq_some_iff, hslash, if_neg Bool.false_ne_true, List.append_nil, hall, walk,
    List.foldlM_append]
  exact ⟨hcheck, bind_eq_ok_iff.mpr ⟨directory, hwalk, by simpa using hstep⟩⟩

/-- What is found along a path lies at its target, if it has one. -/
theorem locate_of_target? {store : FileStore} {here place : Location} {path : Path}
    (htarget : store.target? here path = some place) :
    store.locate here path =
      match store.node? place with
      | some node => .ok (place, node)
      | none => .error .noEntry :=
  locate_of_reach? (reach?_of_target? htarget)

theorem sizeOf_of_target? {store : FileStore} {here place : Location} {path : Path} {size : Nat}
    (htarget : store.target? here path = some place) (hsize : store.sizeOf here path = .ok size) :
    ∃ node, store.node? place = some node ∧
      ∀ content modified, node = .file content modified → size = content.size := by
  obtain ⟨⟨found, node⟩, hlocate, hrest⟩ := bind_eq_ok_iff.mp hsize
  rw [locate_of_target? htarget] at hlocate
  split at hlocate
  · next hnode =>
      cases hlocate
      refine ⟨node, hnode, ?_⟩
      rintro content modified rfl
      exact (Except.ok.inj hrest).symm
  · cases hlocate

theorem removeFile_of_target? {store : FileStore} {here place : Location} {path : Path}
    (htarget : store.target? here path = some place) :
    store.removeFile here path =
      match store.node? place with
      | none => .error .noEntry
      | some .directory => .error .isDirectory
      | some _ => .ok (store.erase place) := by
  rw [removeFile, locate_of_target? htarget]
  rcases store.node? place with _ | ⟨_ | _ | _⟩ <;> rfl

/-! ## Calls along paths -/

theorem writeFile_eq_ok {store next : FileStore} {here : Location} {path : Path}
    {content : ByteArray} {modified : Int}
    (hwrite : store.writeFile here path content modified = .ok next) :
    ∃ place, store.target? here path = some place ∧ store.node? place ≠ some .directory ∧
      next = store.insert place (.file content modified) := by
  obtain ⟨last, hlast, hrest⟩ := bind_eq_ok_iff.mp hwrite
  split at hrest
  · cases hrest
  · cases hrest
  · next directory name =>
      have htarget := target?_eq_some_iff.mpr ⟨directory, name, hlast, rfl⟩
      split at hrest
      · cases hrest
      · next hnode =>
          cases hrest
          exact ⟨_, htarget, hnode, rfl⟩

theorem createFile_eq_ok {store next : FileStore} {here : Location} {path : Path}
    {modified : Int} (hcreate : store.createFile here path modified = .ok next) :
    ∃ place, store.target? here path = some place ∧ store.node? place = none ∧
      next = store.insert place (.file ByteArray.empty modified) := by
  obtain ⟨last, hlast, hrest⟩ := bind_eq_ok_iff.mp hcreate
  split at hrest
  · cases hrest
  · cases hrest
  · next directory name =>
      have htarget := target?_eq_some_iff.mpr ⟨directory, name, hlast, rfl⟩
      split at hrest
      · cases hrest
      · next hnode =>
          cases hrest
          exact ⟨_, htarget, hnode, rfl⟩

theorem moveFile_eq_ok {store next : FileStore} {here : Location} {source target : Path}
    (hmove : store.moveFile here source target = .ok next) :
    ∃ place node destination, store.locate here source = .ok (place, node) ∧
      store.target? here target = some destination ∧
      store.node? destination ≠ some .directory ∧
      next = (store.erase place).insert destination node := by
  unfold moveFile at hmove
  dsimp only at hmove
  split at hmove
  · cases hmove
  obtain ⟨_, -, hrest⟩ := bind_eq_ok_iff.mp hmove
  obtain ⟨⟨place, node⟩, hlocate, hrest⟩ := bind_eq_ok_iff.mp hrest
  obtain ⟨last, hlast, hrest⟩ := bind_eq_ok_iff.mp hrest
  split at hrest
  · cases hrest
  · next directory name slash =>
      cases slash with
      | true => cases hrest
      | false =>
          have htarget := target?_eq_some_iff.mpr ⟨directory, name, hlast, rfl⟩
          rw [if_neg Bool.false_ne_true] at hrest
          split at hrest
          · cases hrest
          · next hnode =>
              cases hrest
              exact ⟨place, node, _, hlocate, htarget, hnode, rfl⟩

end FileStore

end EpsBridge
