import EpsBridge.Proofs.FileStore.Change
import EpsBridge.Proofs.Path

/-!
# Temporary files

The name of a temporary file has the beginning that was asked for, and the file is there
when it was created (`exists_place_of_createTemporary`).  So it lies where no path leads
that ends in another name, and not where a file is already.
-/

namespace EpsBridge

namespace FileStore

theorem slash_not_mem_temporaryText (width number : Nat) :
    Path.slash ∉ temporaryText width number := by
  have hdigits : Path.slash ∉ temporaryDigits :=
    Utf8.not_mem_encode (by decide) (by decide)
  induction width generalizing number with
  | zero => exact List.not_mem_nil
  | succ width ih =>
      rw [temporaryText, List.mem_append, List.mem_singleton]
      rintro (hrest | hdigit)
      · exact ih _ hrest
      · cases hfound : temporaryDigits[number % temporaryDigits.length]? with
        | none => rw [hfound] at hdigit; cases hdigit
        | some digit =>
            rw [hfound] at hdigit
            obtain rfl : Path.slash = digit := hdigit
            exact hdigits (List.mem_of_getElem? hfound)

/-- A fresh name is none at all, or has the beginning that was asked for and no slash. -/
theorem freshName_cases (store : FileStore) {beginning ending : String}
    (hbeginning : '/' ∉ beginning.toList) (hending : '/' ∉ ending.toList) :
    store.freshName beginning ending = [] ∨
      (Utf8.encode beginning <+: store.freshName beginning ending ∧
        Path.slash ∉ store.freshName beginning ending) := by
  unfold freshName
  dsimp only
  generalize store.entries.filterMap (fun entry => entry.1.head?) = taken
  cases hfound : ((List.range (taken.length + 1)).map (temporaryName beginning ending)).find?
      fun name => !taken.contains name with
  | none => exact .inl rfl
  | some name =>
      obtain ⟨number, -, rfl⟩ := List.mem_map.mp (List.mem_of_find?_eq_some hfound)
      refine .inr ⟨⟨_, (List.append_assoc _ _ _).symm⟩, ?_⟩
      rw [Option.getD_some, temporaryName, List.mem_append, List.mem_append]
      rintro ((hfirst | htext) | hlast)
      · exact Utf8.not_mem_encode (by decide) hbeginning hfirst
      · exact slash_not_mem_temporaryText _ _ htext
      · exact Utf8.not_mem_encode (by decide) hending hlast

end FileStore

namespace Workspace

/-- A temporary file bears a name with the beginning that was asked for, and is there. -/
theorem exists_place_of_createTemporary {workspace now : Workspace} {directory temporary : Path}
    {beginning ending : String} (hbeginning : '/' ∉ beginning.toList)
    (hending : '/' ∉ ending.toList)
    (hcreate : workspace.createTemporary directory beginning ending = (.ok temporary, now)) :
    ∃ place name, Staged workspace now temporary place ∧ now.node? place ≠ none ∧
      place.head? = some name ∧ Utf8.encode beginning <+: name := by
  obtain ⟨place, hstaged⟩ := staged_createTemporary hcreate
  have htarget := hstaged.target
  unfold createTemporary at hcreate
  dsimp only at hcreate
  split at hcreate
  · next store hstore =>
      cases hcreate
      obtain ⟨other, hother, -, rfl⟩ := FileStore.createFile_eq_ok hstore
      obtain rfl := Option.some.inj (hother.symm.trans htarget)
      rcases workspace.store.freshName_cases hbeginning hending with hnone | ⟨hstarts, hslash⟩
      · rw [hnone, FileStore.target?_join_nil] at hother
        cases hother
      · have hput := FileStore.node?_insert_self workspace.store
          (FileStore.ne_nil_of_target? hother) (.file ByteArray.empty workspace.second)
        refine ⟨other, _, hstaged, ?_, ?_, hstarts⟩
        · rw [node?, hput]
          exact Option.some_ne_none _
        · refine FileStore.head?_of_target?_join ?_ hslash hother
          intro hempty
          rw [hempty, FileStore.target?_join_nil] at hother
          cases hother
  · cases hcreate

end Workspace

end EpsBridge
