import EpsBridge.Proofs.Foreign.Standing

/-!
# How a call comes by its bridge

A call gets its bridge once: it finds it in the slot, or puts it there.  All engines that it asks
are that of its bridge, and it loads a library at most once.  This is so after every exchange that
is permitted to the call (`Faithful.record`), whoever answers it.
-/

namespace EpsBridge.Foreign

open Program Program.Exchange

variable {ε : Type}

/-! ## Bridges and engines -/

/-- The engine that an action asks. -/
def engineAsked? : Action ε → Option ε
  | .revision engine | .create engine | .start engine _ _ _ | .stop engine _ _
  | .discard engine _ _ => some engine
  | _ => none

/-- The bridge that an exchange puts into the slot. -/
def put? : Exchange ε → Option (Bridge ε)
  | ⟨.fillSlot bridge, _⟩ => some bridge
  | _ => none

/-- Whether a call puts a bridge into the slot whatever is in there. -/
def Call.replaces : Call ε → Bool
  | install _ | init _ => true
  | _ => false

/-- What is known of a call from what it has exchanged: its bridge is the one that it found in the
slot or put there, and the engines that it asked are that of its bridge. -/
structure Faithful (call : Call ε) (past : List (Exchange ε)) : Prop where
  empty : (Standing.ofPast past).seen = some none → (Standing.ofPast past).bridge = none
  found : ∀ bridge, ⟨.readSlot, some bridge⟩ ∈ past → (Standing.ofPast past).bridge = some bridge
  put : ∀ exchange ∈ past, ∀ bridge, put? exchange = some bridge →
    (Standing.ofPast past).bridge = some bridge
  asked : ∀ exchange ∈ past, ∀ engine, engineAsked? exchange.action = some engine →
    (Standing.ofPast past).bridge.map Bridge.engine = some engine
  loaded : ∀ path answer, ⟨.load path, answer⟩ ∈ past →
    (Standing.ofPast past).loaded = some answer ∧ ∀ bridge, call ≠ .install bridge
  supplied : ∀ exchange ∈ past, (put? exchange).isSome = true →
    (∃ bridge, call = .install bridge) ∨ ∃ engine, (Standing.ofPast past).loaded = some (.ok engine)
  read : call.replaces = false →
    (Standing.ofPast past).seen ≠ none ∨ (Standing.ofPast past).bridge ≠ none →
    ∃ found, ⟨.readSlot, found⟩ ∈ past
  paid : ∀ engine, (Standing.ofPast past).loaded = some (.ok engine) → call.replaces = false →
    (Standing.ofPast past).owed = some ⟨engine, .default⟩ ∨
      ⟨.fillSlot ⟨engine, .default⟩, ()⟩ ∈ past

variable {call : Call ε} {standing : Standing ε} {exchange : Exchange ε} {past : List (Exchange ε)}
  {bridge : Bridge ε} {path : Option Path}

/-- What a call may put into the slot. -/
theorem permits_fillSlot (hpermits : call.Permits standing (.fillSlot bridge)) :
    standing.owed = some bridge ∨ standing.bridge = none ∧ call.Supplies standing bridge := by
  unfold Call.Permits at hpermits
  split at hpermits
  · next howed =>
      cases hpermits
      exact .inl howed
  · exact .inr hpermits.2

theorem loads_of_permits (hpermits : call.Permits standing (.load path)) :
    standing.loaded = none ∧ call.Loads standing path :=
  hpermits.allows nofun

/-- A call that has a bridge keeps it. -/
theorem bridge_after (hempty : standing.seen = some none → standing.bridge = none)
    (hpermits : call.Permits standing exchange.action) (hbridge : standing.bridge = some bridge) :
    (standing.after exchange).bridge = some bridge := by
  obtain ⟨action, answer⟩ := exchange
  cases action with
  | readSlot =>
      have hnone : standing.bridge = none := (hpermits.allows nofun).2
      cases hnone.symm.trans hbridge
  | fillSlot other =>
      have hnone : standing.bridge = none := by
        rcases permits_fillSlot hpermits with howed | ⟨hnone, -⟩
        · exact hempty (Standing.seen_of_owed howed)
        · exact hnone
      cases hnone.symm.trans hbridge
  | _ => exact hbridge

/-- A call loads once. -/
theorem loaded_after {answer : Except LibraryError ε}
    (hpermits : call.Permits standing exchange.action) (hloaded : standing.loaded = some answer) :
    (standing.after exchange).loaded = some answer := by
  obtain ⟨action, reply⟩ := exchange
  cases action with
  | load path =>
      cases (loads_of_permits hpermits).1.symm.trans hloaded
  | _ => exact hloaded

theorem replaces_of_supplies (hsupplies : call.Supplies standing bridge) :
    call.replaces = true := by
  cases call with
  | install _ | init _ => rfl
  | _ => exact hsupplies.elim

/-- What a call supplies is installed, or is over the library that it loaded. -/
theorem loaded_of_supplies (hsupplies : call.Supplies standing bridge) :
    (∃ bridge, call = .install bridge) ∨ ∃ engine, standing.loaded = some (.ok engine) := by
  cases call with
  | install installed => exact .inl ⟨installed, rfl⟩
  | init text =>
      obtain ⟨engine, _, hloaded, -⟩ := hsupplies
      exact .inr ⟨engine, hloaded⟩
  | _ => exact hsupplies.elim

/-- A call that replaces nothing loads while it sees the slot empty. -/
theorem seen_of_loads (hreplaces : call.replaces = false) (hloads : call.Loads standing path) :
    standing.seen = some none ∧ path = none := by
  cases call with
  | install _ | init _ => cases hreplaces
  | lastError | freeText _ => exact hloads.elim
  | _ => exact hloads

/-- A call asks the engine of its bridge. -/
theorem engine_of_asked {engine : ε} (hpermits : call.Permits standing exchange.action)
    (hasked : engineAsked? exchange.action = some engine) :
    (standing.after exchange).bridge.map Bridge.engine = some engine := by
  obtain ⟨action, answer⟩ := exchange
  cases action with
  | revision other | create other | start other handle argv capture | stop other handle capture
  | discard other handle unwinding =>
      cases hasked
      exact (hpermits.allows nofun).2
  | _ => cases hasked

theorem loaded_of_put (hpermits : call.Permits standing exchange.action)
    (hput : (put? exchange).isSome = true) :
    (∃ bridge, call = .install bridge) ∨
      ∃ engine, (standing.after exchange).loaded = some (.ok engine) := by
  obtain ⟨action, answer⟩ := exchange
  cases action with
  | fillSlot bridge =>
      rcases permits_fillSlot hpermits with howed | ⟨-, hsupplies⟩
      · obtain ⟨-, engine, hloaded, -⟩ := Standing.owed_eq_some_iff.mp howed
        exact .inr ⟨engine, hloaded⟩
      · exact loaded_of_supplies hsupplies
  | _ => cases hput

namespace Faithful

theorem nil (call : Call ε) : Faithful call [] where
  empty := nofun
  found _ hmem := absurd hmem List.not_mem_nil
  put _ hmem := absurd hmem List.not_mem_nil
  asked _ hmem := absurd hmem List.not_mem_nil
  loaded _ _ hmem := absurd hmem List.not_mem_nil
  supplied _ hmem := absurd hmem List.not_mem_nil
  read _ hgot := by rcases hgot with hgot | hgot <;> exact absurd rfl hgot
  paid := nofun

theorem empty_record (hfaithful : Faithful call past)
    (hseen : ((Standing.ofPast past).after exchange).seen = some none) :
    ((Standing.ofPast past).after exchange).bridge = none := by
  obtain ⟨action, answer⟩ := exchange
  cases action with
  | lockSlot | unlockSlot | fillSlot bridge => cases hseen
  | readSlot => exact Option.some.inj hseen
  | _ => exact hfaithful.empty hseen

theorem read_record (hfaithful : Faithful call past)
    (hpermits : call.Permits (.ofPast past) exchange.action) (hreplaces : call.replaces = false)
    (hgot : ((Standing.ofPast past).after exchange).seen ≠ none ∨
      ((Standing.ofPast past).after exchange).bridge ≠ none) :
    ∃ found, ⟨.readSlot, found⟩ ∈ past ++ [exchange] := by
  have hbefore : (Standing.ofPast past).seen ≠ none ∨ (Standing.ofPast past).bridge ≠ none →
      ∃ found, ⟨.readSlot, found⟩ ∈ past ++ [exchange] := by
    intro hgot
    obtain ⟨found, hread⟩ := hfaithful.read hreplaces hgot
    exact ⟨found, List.mem_append_left _ hread⟩
  obtain ⟨action, answer⟩ := exchange
  cases action with
  | lockSlot | unlockSlot => exact hbefore (.inr (hgot.resolve_left fun hseen => hseen rfl))
  | readSlot => exact ⟨answer, List.mem_append_right _ List.mem_cons_self⟩
  | fillSlot bridge =>
      rcases permits_fillSlot hpermits with howed | ⟨-, hsupplies⟩
      · refine hbefore (.inl ?_)
        rw [Standing.seen_of_owed howed]
        nofun
      · cases hreplaces.symm.trans (replaces_of_supplies hsupplies)
  | _ => exact hbefore hgot

/-- What a call owes it pays next. -/
theorem paid_record {engine : ε} (hfaithful : Faithful call past)
    (hpermits : call.Permits (.ofPast past) exchange.action) (hreplaces : call.replaces = false)
    (hloaded : ((Standing.ofPast past).after exchange).loaded = some (.ok engine)) :
    ((Standing.ofPast past).after exchange).owed = some ⟨engine, .default⟩ ∨
      ⟨.fillSlot ⟨engine, .default⟩, ()⟩ ∈ past ++ [exchange] := by
  have hbefore : (Standing.ofPast past).loaded = some (.ok engine) →
      ((Standing.ofPast past).after exchange).owed = some ⟨engine, .default⟩ ∨
        ⟨.fillSlot ⟨engine, .default⟩, ()⟩ ∈ past ++ [exchange] := by
    intro hloaded
    rcases hfaithful.paid engine hloaded hreplaces with howed | hpaid
    · unfold Call.Permits at hpermits
      rw [howed] at hpermits
      obtain ⟨action, answer⟩ := exchange
      obtain rfl : action = _ := hpermits
      exact .inr (List.mem_append_right _ (List.mem_singleton.mpr rfl))
    · exact .inr (List.mem_append_left _ hpaid)
  obtain ⟨action, answer⟩ := exchange
  cases action with
  | load path =>
      obtain rfl : answer = .ok engine := Option.some.inj hloaded
      have hseen := (seen_of_loads hreplaces (loads_of_permits hpermits).2).1
      exact .inl (Standing.owed_eq_some_iff.mpr ⟨hseen, engine, rfl, rfl⟩)
  | _ => exact hbefore hloaded

/-- A permitted exchange keeps a call faithful. -/
theorem record (hfaithful : Faithful call past)
    (hpermits : call.Permits (.ofPast past) exchange.action) :
    Faithful call (past ++ [exchange]) where
  empty hseen := by
    rw [Standing.ofPast_append_singleton] at hseen ⊢
    exact hfaithful.empty_record hseen
  found bridge hfound := by
    rw [Standing.ofPast_append_singleton]
    rcases List.mem_append.mp hfound with hearlier | hlast
    · exact bridge_after hfaithful.empty hpermits (hfaithful.found bridge hearlier)
    · cases List.mem_singleton.mp hlast
      rfl
  put other hother bridge hput := by
    rw [Standing.ofPast_append_singleton]
    rcases List.mem_append.mp hother with hearlier | hlast
    · exact bridge_after hfaithful.empty hpermits (hfaithful.put other hearlier bridge hput)
    · cases List.mem_singleton.mp hlast
      unfold put? at hput
      split at hput
      · exact hput
      · cases hput
  asked other hother engine hasked := by
    rw [Standing.ofPast_append_singleton]
    rcases List.mem_append.mp hother with hearlier | hlast
    · have hengine := hfaithful.asked other hearlier engine hasked
      obtain ⟨bridge, hbridge, hsame⟩ := Option.map_eq_some_iff.mp hengine
      rw [bridge_after hfaithful.empty hpermits hbridge, Option.map_some, hsame]
    · cases List.mem_singleton.mp hlast
      exact engine_of_asked hpermits hasked
  loaded path answer hload := by
    rw [Standing.ofPast_append_singleton]
    rcases List.mem_append.mp hload with hearlier | hlast
    · obtain ⟨hloaded, hcall⟩ := hfaithful.loaded path answer hearlier
      exact ⟨loaded_after hpermits hloaded, hcall⟩
    · cases List.mem_singleton.mp hlast
      refine ⟨rfl, ?_⟩
      rintro bridge rfl
      exact (loads_of_permits hpermits).2
  supplied other hother hput := by
    rw [Standing.ofPast_append_singleton]
    rcases List.mem_append.mp hother with hearlier | hlast
    · refine (hfaithful.supplied other hearlier hput).imp_right ?_
      rintro ⟨engine, hloaded⟩
      exact ⟨engine, loaded_after hpermits hloaded⟩
    · cases List.mem_singleton.mp hlast
      exact loaded_of_put hpermits hput
  read hreplaces hgot := by
    rw [Standing.ofPast_append_singleton] at hgot
    exact hfaithful.read_record hpermits hreplaces hgot
  paid engine hloaded hreplaces := by
    rw [Standing.ofPast_append_singleton] at hloaded ⊢
    exact hfaithful.paid_record hpermits hreplaces hloaded

/-- A call reads the slot before it asks an engine. -/
theorem exists_read {engine : ε} (hfaithful : Faithful call past)
    (hreplaces : call.replaces = false) (hexchange : exchange ∈ past)
    (hasked : engineAsked? exchange.action = some engine) :
    ∃ found, ⟨.readSlot, found⟩ ∈ past := by
  refine hfaithful.read hreplaces (.inr fun hnone => ?_)
  have hengine := hfaithful.asked exchange hexchange engine hasked
  rw [hnone] at hengine
  cases hengine

end Faithful

end EpsBridge.Foreign
