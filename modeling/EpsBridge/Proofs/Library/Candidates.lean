import EpsBridge.Library.Search
import Mathlib.Data.List.Induction

/-!
# The candidates of a search

The candidates are the paths that are considered, each where it first occurs
(`FirstsOf`).  A name by which systems know the library can therefore move forward, to the
place of a path with the same steps, but none is lost.
-/

namespace EpsBridge.LibrarySearch

variable {σ ι : Type} {considered kept : List Path} {path : Path}

/-- The second list holds the paths of the first in their order, but for those that have the
steps of an earlier one. -/
inductive FirstsOf : List Path → List Path → Prop
  | nil : FirstsOf [] []
  | fresh {considered kept : List Path} {path : Path} (hrest : FirstsOf considered kept)
      (hfresh : ∀ earlier ∈ considered, earlier.leadsLike path = false) :
      FirstsOf (considered ++ [path]) (kept ++ [path])
  | repeated {considered kept : List Path} {path earlier : Path} (hrest : FirstsOf considered kept)
      (hearlier : earlier ∈ considered) (hlike : earlier.leadsLike path = true) :
      FirstsOf (considered ++ [path]) kept

theorem leadsLike_iff {path other : Path} :
    path.leadsLike other = true ↔ path.components = other.components :=
  decide_eq_true_iff

namespace FirstsOf

/-- What is considered is among what is kept, if perhaps spelled differently. -/
theorem exists_leadsLike (hfirsts : FirstsOf considered kept) (hpath : path ∈ considered) :
    ∃ candidate ∈ kept, candidate.leadsLike path = true := by
  induction hfirsts generalizing path with
  | nil => cases hpath
  | fresh hrest hfresh ih =>
      rcases List.mem_append.mp hpath with hold | hnew
      · obtain ⟨candidate, hcandidate, hlike⟩ := ih hold
        exact ⟨candidate, List.mem_append_left _ hcandidate, hlike⟩
      · exact ⟨path, List.mem_append_right _ hnew, leadsLike_iff.mpr rfl⟩
  | repeated hrest hearlier hlike ih =>
      rcases List.mem_append.mp hpath with hold | hnew
      · exact ih hold
      · obtain rfl := List.mem_singleton.mp hnew
        obtain ⟨candidate, hcandidate, hbefore⟩ := ih hearlier
        refine ⟨candidate, hcandidate, leadsLike_iff.mpr ?_⟩
        exact (leadsLike_iff.mp hbefore).trans (leadsLike_iff.mp hlike)

theorem subset (hfirsts : FirstsOf considered kept) : kept ⊆ considered := by
  induction hfirsts with
  | nil => exact List.Subset.refl []
  | fresh hrest hfresh ih =>
      exact List.append_subset.mpr
        ⟨List.subset_append_of_subset_left _ ih, List.subset_append_right _ _⟩
  | repeated hrest hearlier hlike ih => exact List.subset_append_of_subset_left _ ih

/-- No two paths that are kept have the same steps. -/
theorem pairwise (hfirsts : FirstsOf considered kept) :
    kept.Pairwise fun earlier later => earlier.leadsLike later = false := by
  induction hfirsts with
  | nil => exact List.Pairwise.nil
  | fresh hrest hfresh ih =>
      rw [List.pairwise_append]
      refine ⟨ih, List.pairwise_singleton _ _, ?_⟩
      intro earlier hearlier later hlater
      rw [List.mem_singleton.mp hlater]
      exact hfresh earlier (hrest.subset hearlier)
  | repeated hrest hearlier hlike ih => exact ih

/-- What comes first is kept. -/
theorem head?_eq (hfirsts : FirstsOf considered kept) : kept.head? = considered.head? := by
  induction hfirsts with
  | nil => rfl
  | fresh hrest hfresh ih => rw [List.head?_append, List.head?_append, ih]
  | repeated hrest hearlier hlike ih =>
      rw [List.head?_append, ih, List.head?_eq_some_head (List.ne_nil_of_mem hearlier),
        Option.some_or]

end FirstsOf

/-- Adding paths one after another keeps each where it first occurs. -/
theorem firstsOf_foldl_addCandidate (considered : List Path) :
    FirstsOf considered (considered.foldl addCandidate []) := by
  induction considered using List.reverseRecOn with
  | nil => exact .nil
  | append_singleton considered path ih =>
      rw [List.foldl_append, List.foldl_cons, List.foldl_nil, addCandidate]
      split
      · next hany =>
          obtain ⟨candidate, hcandidate, hlike⟩ := List.any_eq_true.mp hany
          exact .repeated ih (ih.subset hcandidate) hlike
      · next hany =>
          refine .fresh ih fun earlier hearlier => ?_
          rw [Bool.eq_false_iff]
          intro hlike
          obtain ⟨candidate, hcandidate, hbefore⟩ := ih.exists_leadsLike hearlier
          refine hany (List.any_eq_true.mpr ⟨candidate, hcandidate, leadsLike_iff.mpr ?_⟩)
          exact (leadsLike_iff.mp hbefore).trans (leadsLike_iff.mp hlike)

/-- A path that counts only if something lies at its end. -/
inductive IfThere (workspace : Workspace) : Option Path → List Path → Prop
  | unset : IfThere workspace none []
  | missing {path : Path} (hmissing : workspace.exists? path = false) :
      IfThere workspace (some path) []
  | there {path : Path} (hthere : workspace.exists? path = true) :
      IfThere workspace (some path) [path]

theorem IfThere.eq_nil {workspace : Workspace} {path? : Option Path} {paths : List Path}
    (hthere : IfThere workspace path? paths)
    (hmissing : ∀ path, path? = some path → workspace.exists? path = false) : paths = [] := by
  cases hthere with
  | unset => rfl
  | missing => rfl
  | there hexists => cases (hmissing _ rfl).symm.trans hexists

theorem IfThere.eq_singleton {workspace : Workspace} {paths : List Path}
    (hthere : IfThere workspace (some path) paths) (hexists : workspace.exists? path = true) :
    paths = [path] := by
  cases hthere with
  | missing hmissing => cases hmissing.symm.trans hexists
  | there => rfl

theorem ifThere_spec (workspace : Workspace) (path? : Option Path) :
    IfThere workspace path? ((path?.map (ifThere workspace)).getD []) := by
  cases path? with
  | none => exact .unset
  | some path =>
      change IfThere workspace (some path) (ifThere workspace path)
      unfold ifThere
      split
      · next hthere => exact .there hthere
      · next hmissing => exact .missing (Bool.eq_false_iff.mpr hmissing)

/-- The path that the environment names. -/
def namedPath? (environment : Environment) : Option Path :=
  (environment.text? "GS_LIB_PATH").map Path.ofString

/-- The directory for caches, as the platform has it, else within the home directory, else
the one for temporary files. -/
def cacheRoot (platform : Platform σ ι) (workspace : Workspace) (environment : Environment) :
    Path :=
  match platform.cacheDirectory? environment, platform.homeDirectory? environment with
  | some caches, _ => caches
  | none, some home => home.join (.ofString ".cache")
  | none, none => workspace.temporaryPath

/-- The path of the copy in the cache. -/
def cachedPath (platform : Platform σ ι) (workspace : Workspace) (environment : Environment) :
    Path :=
  match environment.text? "LIBGS_AUTO_CACHE_DIR" with
  | some directory =>
    ((Path.ofString directory).join (.ofString "libgs")).join (.ofString "libgs.so")
  | none => (((cacheRoot platform workspace environment).join (.ofString "gsbridge")).join
      (.ofString "libgs")).join (.ofString "libgs.so")

theorem cachedPath_eq (platform : Platform σ ι) (workspace : Workspace)
    (environment : Environment) : cachedPath platform workspace environment =
      (cacheDirectory platform workspace environment).join (.ofString cachedName) := by
  have hroot : cacheRoot platform workspace environment =
      cacheBase platform workspace environment := by
    unfold cacheRoot cacheBase
    cases platform.cacheDirectory? environment <;> cases platform.homeDirectory? environment <;> rfl
  unfold cachedPath cacheDirectory
  rw [hroot]
  cases environment.text? "LIBGS_AUTO_CACHE_DIR" <;> rfl

/-- The names by which systems know the library, as paths. -/
def systemPaths : List Path :=
  [.ofString "libgs.so.10", .ofString "libgs.so.9", .ofString "libgs.so"]

/-- The candidates of a search without a path. -/
structure Listed (platform : Platform σ ι) (workspace : Workspace) (state : State σ)
    (candidates : List Path) : Prop where
  /-- The path that the environment names comes first, if it is there, then the path that is
  remembered, the cached copy, if it is there, and the names that systems use. -/
  order : ∃ named cached, IfThere workspace (namedPath? state.environment) named ∧
    IfThere workspace (some (cachedPath platform workspace state.environment)) cached ∧
    FirstsOf (named ++ state.remembered.toList ++ cached ++ systemPaths) candidates
  distinct : candidates.Pairwise fun earlier later => earlier.leadsLike later = false
  /-- No name that systems use is left out. -/
  complete : ∀ path ∈ systemPaths, ∃ candidate ∈ candidates, candidate.leadsLike path = true

theorem listed_candidates (platform : Platform σ ι) (workspace : Workspace) (state : State σ) :
    Listed platform workspace state (candidates platform workspace state none) := by
  have hnamed := ifThere_spec workspace (namedPath? state.environment)
  have hcached := ifThere_spec workspace (some (cachedPath platform workspace state.environment))
  have hconsidered : considered platform workspace state none =
      ((namedPath? state.environment).map (ifThere workspace)).getD [] ++
        state.remembered.toList ++ ifThere workspace
          (cachedPath platform workspace state.environment) ++ systemPaths := by
    rw [cachedPath_eq]
    rfl
  have hfirsts : FirstsOf (considered platform workspace state none)
      (candidates platform workspace state none) := firstsOf_foldl_addCandidate _
  rw [hconsidered] at hfirsts
  refine ⟨⟨_, _, hnamed, hcached, hfirsts⟩, hfirsts.pairwise, fun path hpath => ?_⟩
  exact hfirsts.exists_leadsLike (List.mem_append_right _ hpath)

end EpsBridge.LibrarySearch
