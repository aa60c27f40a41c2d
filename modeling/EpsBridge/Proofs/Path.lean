import EpsBridge.Proofs.FileStore.Target
import EpsBridge.Proofs.Text.Utf8

/-!
# Names at the ends of paths

A path is cut at its slashes, so no segment holds one (`slash_not_mem_of_mem_segmentsOf`),
nor does anything that is read off a segment: the name of a file, its stem.  The other
way round, a name without a slash that is joined to a path is its last segment
(`getLast?_segments_join`), and whatever is written along the joined path bears this name
(`head?_of_target?_join`).
-/

namespace EpsBridge

namespace Path

/-! ## Segments -/

theorem segmentsOf_slash (rest : List UInt8) :
    segmentsOf (slash :: rest) = [] :: segmentsOf rest := rfl

theorem segmentsOf_of_ne {byte : UInt8} (hbyte : byte ≠ slash) (rest : List UInt8) :
    segmentsOf (byte :: rest) = extendFirst byte (segmentsOf rest) := by
  rw [segmentsOf, List.foldr_cons, if_neg hbyte]
  rfl

theorem segmentsOf_ne_nil (bytes : List UInt8) : segmentsOf bytes ≠ [] := by
  cases bytes with
  | nil => exact List.cons_ne_nil _ _
  | cons byte rest =>
      by_cases hslash : byte = slash
      · subst hslash
        exact List.cons_ne_nil _ _
      · rw [segmentsOf_of_ne hslash]
        unfold extendFirst
        split <;> exact List.cons_ne_nil _ _

theorem extendFirst_append (byte : UInt8) {segments : List (List UInt8)} (hne : segments ≠ [])
    (more : List (List UInt8)) :
    extendFirst byte (segments ++ more) = extendFirst byte segments ++ more := by
  cases segments with
  | nil => exact absurd rfl hne
  | cons segment rest => rfl

theorem segmentsOf_append_slash (first second : List UInt8) :
    segmentsOf (first ++ slash :: second) = segmentsOf first ++ segmentsOf second := by
  induction first with
  | nil => rfl
  | cons byte rest ih =>
      by_cases hslash : byte = slash
      · subst hslash
        rw [List.cons_append, segmentsOf_slash, segmentsOf_slash, ih]
        rfl
      · rw [List.cons_append, segmentsOf_of_ne hslash, segmentsOf_of_ne hslash, ih,
          extendFirst_append byte (segmentsOf_ne_nil rest)]

theorem segmentsOf_of_not_mem {bytes : List UInt8} (hbytes : slash ∉ bytes) :
    segmentsOf bytes = [bytes] := by
  induction bytes with
  | nil => rfl
  | cons byte rest ih =>
      have hbyte : byte ≠ slash := (List.ne_of_not_mem_cons hbytes).symm
      rw [segmentsOf_of_ne hbyte, ih (List.not_mem_of_not_mem_cons hbytes)]
      rfl

/-- No segment holds a slash. -/
theorem slash_not_mem_of_mem_segmentsOf {bytes segment : List UInt8}
    (hsegment : segment ∈ segmentsOf bytes) : slash ∉ segment := by
  induction bytes generalizing segment with
  | nil =>
      rw [List.mem_singleton.mp hsegment]
      exact List.not_mem_nil
  | cons byte rest ih =>
      by_cases hslash : byte = slash
      · subst hslash
        rw [segmentsOf_slash, List.mem_cons] at hsegment
        rcases hsegment with rfl | hrest
        · exact List.not_mem_nil
        · exact ih hrest
      · rw [segmentsOf_of_ne hslash] at hsegment
        cases hrest : segmentsOf rest with
        | nil => exact absurd hrest (segmentsOf_ne_nil rest)
        | cons first segments =>
            rw [hrest] at hsegment ih
            rcases List.mem_cons.mp hsegment with rfl | hlater
            · have hfirst := ih (List.mem_cons_self)
              exact List.not_mem_cons_of_ne_of_not_mem (Ne.symm hslash) hfirst
            · exact ih (List.mem_cons_of_mem _ hlater)

/-! ## Names -/

/-- The name of a file is a segment of its path. -/
theorem fileName?_mem_segmentsOf {path : Path} {name : List UInt8}
    (hname : path.fileName? = some name) : name ∈ segmentsOf path.bytes := by
  unfold fileName? at hname
  split at hname
  · next found hlast =>
      obtain rfl := Option.some.inj hname
      have hstep : Component.name found ∈ path.components := List.mem_of_getLast? hlast
      rw [components, List.mem_append] at hstep
      rcases hstep with hfirst | hrest
      · -- the first step of a path is no name
        split at hfirst
        · cases List.mem_singleton.mp hfirst
        · split at hfirst
          · cases List.mem_singleton.mp hfirst
          · cases hfirst
      · obtain ⟨segment, hsegment, hstep⟩ := List.mem_filterMap.mp hrest
        unfold step? at hstep
        split at hstep
        · cases hstep
        · split at hstep
          · cases hstep
          · cases hstep
            exact hsegment
  · cases hname

theorem splitName_subset (name : List UInt8) : (splitName name).1 ⊆ name := by
  unfold splitName
  dsimp only
  split
  · exact fun _ hbyte => hbyte
  · next hstem =>
      intro byte hbyte
      rw [List.mem_reverse] at hbyte
      have hdropped := List.drop_subset 1 _ hbyte
      exact List.mem_reverse.mp ((List.dropWhile_sublist _).subset hdropped)

theorem slash_not_mem_fileStem {path : Path} {stem : List UInt8}
    (hstem : path.fileStem? = some stem) : slash ∉ stem := by
  obtain ⟨name, hname, rfl⟩ := Option.map_eq_some_iff.mp hstem
  have hsegment := slash_not_mem_of_mem_segmentsOf (fileName?_mem_segmentsOf hname)
  exact fun hslash => hsegment (splitName_subset name hslash)

/-! ## Joined names -/

theorem getLast?_segments_of_slash (before : List UInt8) {name : List UInt8} (hname : name ≠ [])
    (hslash : slash ∉ name) :
    (FileStore.segments ⟨before ++ slash :: name⟩).getLast? = some name := by
  have hkept : [name].filter (fun segment => !segment.isEmpty) = [name] := by simpa using hname
  rw [FileStore.segments, segmentsOf_append_slash, segmentsOf_of_not_mem hslash,
    List.filter_append, hkept]
  exact List.getLast?_concat

/-- A name that is joined to a path is its last segment. -/
theorem getLast?_segments_join (path : Path) {name : List UInt8} (hname : name ≠ [])
    (hslash : slash ∉ name) :
    (FileStore.segments (path.join ⟨name⟩)).getLast? = some name := by
  have hrelative : (⟨name⟩ : Path).isAbsolute = false := by
    cases name with
    | nil => rfl
    | cons byte rest =>
        have hbyte : byte ≠ slash := (List.ne_of_not_mem_cons hslash).symm
        simpa [isAbsolute] using hbyte
  unfold join
  rw [if_neg (by rw [hrelative]; exact Bool.false_ne_true)]
  split
  · next hend =>
      rw [Bool.or_eq_true, decide_eq_true_eq, decide_eq_true_eq] at hend
      rcases hend with hempty | hlast
      · have hkept : [name].filter (fun segment => !segment.isEmpty) = [name] := by
          simpa using hname
        rw [hempty, List.nil_append, FileStore.segments, segmentsOf_of_not_mem hslash, hkept]
        rfl
      · obtain ⟨before, hbefore⟩ := List.getLast?_eq_some_iff.mp hlast
        rw [hbefore, List.append_assoc]
        exact getLast?_segments_of_slash before hname hslash
  · exact getLast?_segments_of_slash path.bytes hname hslash

end Path

namespace FileStore

/-- What is written along a path bears the name at its end. -/
theorem head?_of_target? {store : FileStore} {here place : Location} {path : Path}
    (htarget : store.target? here path = some place) :
    place.head? = (segments path).getLast? := by
  obtain ⟨directory, last, hlast, rfl⟩ := target?_eq_some_iff.mp htarget
  obtain ⟨-, -, -, hfound, -⟩ := lastStep_eq_named_iff.mp hlast
  exact hfound.symm

/-- Where a name is joined to a path, it is the one that is borne. -/
theorem head?_of_target?_join {store : FileStore} {here place : Location} {path : Path}
    {name : List UInt8} (hname : name ≠ []) (hslash : Path.slash ∉ name)
    (htarget : store.target? here (path.join ⟨name⟩) = some place) : place.head? = some name := by
  rw [head?_of_target? htarget, Path.getLast?_segments_join path hname hslash]

/-- Along a path that ends in a slash, no file is written. -/
theorem target?_join_nil (store : FileStore) (here : Location) (path : Path) :
    store.target? here (path.join ⟨[]⟩) = none := by
  refine Option.eq_none_iff_forall_ne_some.mpr fun place htarget => ?_
  obtain ⟨directory, last, hlast, -⟩ := target?_eq_some_iff.mp htarget
  obtain ⟨hcheck, -, -, -, -, -, -, hslash⟩ := lastStep_eq_named_iff.mp hlast
  rw [hasTrailingSlash, decide_eq_false_iff_not] at hslash
  unfold Path.join at hcheck hslash
  rw [if_neg (by decide)] at hcheck hslash
  split at hcheck
  · next hend =>
      rw [if_pos hend] at hslash
      simp only [List.append_nil] at hcheck hslash
      rw [Bool.or_eq_true, decide_eq_true_eq, decide_eq_true_eq] at hend
      rcases hend with hempty | hlast
      · rw [hempty] at hcheck
        cases hcheck
      · exact hslash hlast
  · next hend =>
      rw [if_neg hend] at hslash
      exact hslash List.getLast?_concat

end FileStore

end EpsBridge
