import EpsBridge.Proofs.Path

/-!
# Names behind directories

A name behind a directory leads nowhere unless the directory is there
(`isDirectory_of_locate_append`).
-/

namespace EpsBridge.FileStore

variable {store : FileStore} {here place next : Location} {start name : List UInt8}

/-- Steps are made from directories. -/
theorem isDirectory_of_step {segment : List UInt8} (hstep : store.step place segment = .ok next) :
    store.node? place = some .directory := by
  unfold step at hstep
  split at hstep
  · cases hstep
  · next hdirectory => exact hdirectory
  · cases hstep

theorem segments_of_slash (start : List UInt8) (hname : name ≠ []) (hslash : Path.slash ∉ name) :
    segments ⟨start ++ Path.slash :: name⟩ = segments ⟨start ++ [Path.slash]⟩ ++ [name] := by
  have hkept : [name].filter (fun segment => !segment.isEmpty) = [name] := by simpa using hname
  rw [segments, segments, Path.segmentsOf_append_slash, Path.segmentsOf_append_slash,
    Path.segmentsOf_of_not_mem hslash, List.filter_append, List.filter_append, hkept]
  exact congrArg (· ++ [name]) (List.append_nil _).symm

theorem not_hasTrailingSlash (start : List UInt8) (hname : name ≠ []) (hslash : Path.slash ∉ name) :
    hasTrailingSlash ⟨start ++ Path.slash :: name⟩ = false := by
  rw [hasTrailingSlash, decide_eq_false_iff_not]
  intro hlast
  rw [List.getLast?_append, List.getLast?_cons, Option.some_or,
    List.getLast?_eq_some_getLast hname, Option.getD_some] at hlast
  exact hslash (Option.some.inj hlast ▸ List.getLast_mem hname)

theorem checkPath_of_append {more : List UInt8} (hne : start ≠ [])
    (hcheck : checkPath ⟨start ++ more⟩ = .ok ()) : checkPath ⟨start⟩ = .ok () := by
  unfold checkPath at hcheck ⊢
  split at hcheck
  · cases hcheck
  · next hnul =>
      split at hcheck
      · cases hcheck
      · split at hcheck
        · cases hcheck
        · next hlimit =>
            have hstart : ¬ (⟨start⟩ : Path).hasNul = true := by
              simp only [Path.hasNul, List.contains_eq_mem, decide_eq_true_eq, List.mem_append]
                at hnul ⊢
              exact fun hmem => hnul (.inl hmem)
            have hshort : ¬ pathLimit ≤ start.length := by
              rw [List.length_append] at hlimit
              omega
            rw [if_neg hstart, if_neg (by simpa using hne), if_neg hshort]

/-- What is found behind a directory has the directory in front of it. -/
theorem isDirectory_of_locate_append {directory : List UInt8} {node : FileNode}
    (hend : directory.getLast? = some Path.slash) (hname : name ≠ []) (hslash : Path.slash ∉ name)
    (hlocate : store.locate here ⟨directory ++ name⟩ = .ok (place, node)) :
    store.isDirectory here ⟨directory⟩ = true := by
  obtain ⟨start, rfl⟩ := List.getLast?_eq_some_iff.mp hend
  have horigin : origin here ⟨start ++ Path.slash :: name⟩ =
      origin here ⟨start ++ [Path.slash]⟩ := by
    cases start <;> rfl
  have htrailing : hasTrailingSlash ⟨start ++ [Path.slash]⟩ = true :=
    decide_eq_true List.getLast?_concat
  obtain ⟨hreach, -⟩ := locate_eq_ok_iff.mp hlocate
  obtain ⟨hcheck, hwalk⟩ := reach?_eq_some_iff.mp hreach
  have hfound := checkPath_of_append (by simp) hcheck
  rw [List.append_assoc, List.singleton_append] at hwalk
  rw [not_hasTrailingSlash start hname hslash, if_neg Bool.false_ne_true, List.append_nil,
    horigin, segments_of_slash start hname hslash, walk, List.foldlM_append] at hwalk
  obtain ⟨between, hbetween, hstep⟩ := bind_eq_ok_iff.mp hwalk
  rw [List.foldlM_cons] at hstep
  obtain ⟨_, hlast, -⟩ := bind_eq_ok_iff.mp hstep
  have hdirectory := isDirectory_of_step hlast
  -- the slash at the end asks for a directory, and stays there
  have hstay : store.step between hereSegment = .ok between := by
    rw [step, hdirectory]
    exact if_pos rfl
  have hreach : store.reach? here ⟨start ++ [Path.slash]⟩ = some between := by
    rw [reach?_eq_some_iff, htrailing, if_pos rfl, walk, List.foldlM_append]
    refine ⟨hfound, bind_eq_ok_iff.mpr ⟨between, hbetween, ?_⟩⟩
    rw [List.foldlM_cons, hstay]
    rfl
  rw [isDirectory, locate_eq_ok_iff.mpr ⟨hreach, hdirectory⟩]

end EpsBridge.FileStore
