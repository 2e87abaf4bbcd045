import CefHost.Library.Delimited
import CefHost.SharedTextures

/-!
# The kernel objects of a session

A host opens fourteen named kernel objects: four mappings, four ready events, the shutdown event,
the GPU fence, the popup texture and the three ring textures. All are scoped by the sanitized
session id, which is what lets several hosts run side by side.

The sanitized id may contain `_` and digits, and the slot number of a ring texture stands behind
it, so that a session called `0` owns the slot name `.._0_0` next to the slot name `.._0` of the
session without an id. Names of two sessions are never taken apart here. They are told apart by
their bases, which do not begin each other even with an underscore behind them, and over the one
base shared by the slots by the last underscore.

## Main definitions

* `objectNames` — the fourteen names

## Main results

* `objectNames_isolated` — they are pairwise distinct, and disjoint from those of a session whose
  sanitized id is another one
-/

namespace CefHost

/-- The names of the objects a host creates: those of `BuildSharedMemoryNames`, with the slot
names in place of the texture prefix. -/
def objectNames (sessionId : List UInt8) : List WString :=
  let names := buildSharedMemoryNames sessionId
  let textures := SharedTextures.init names
  [names.frameMapName, names.inputMapName, names.controlMapName, names.consoleMapName,
    names.frameReadyEventName, names.inputReadyEventName, names.controlReadyEventName,
    names.consoleReadyEventName, names.shutdownEventName, names.gpuFenceName,
    textures.planeName .popup]
    ++ (List.finRange shmFrameSlotCount).map fun slot => textures.planeName (.ring slot)

/-! ### Bases and suffixes -/

/-- The bases of the objects other than the ring textures. -/
def plainBases : List WString :=
  [shmFrameName, shmInputName, shmControlName, shmConsoleName, evtFrameReady, evtInputReady,
    evtControlReady, evtConsoleReady, evtShutdown, shmGpuFenceName, sharedPopupTexBaseName]

/-- No base, with an underscore behind it, begins another one. -/
theorem bases_apart :
    (sharedTexBaseName :: plainBases).Pairwise (Delimited.Apart '_') := by decide

/-- The number of a slot, as it is written behind the texture prefix. -/
def slotLabel (slot : Fin shmFrameSlotCount) : WString := (Nat.repr slot).toList

theorem slotLabel_injective : Function.Injective slotLabel := by
  unfold Function.Injective
  decide

theorem slotLabel_ne_nil (slot : Fin shmFrameSlotCount) : slotLabel slot ≠ [] := by
  revert slot
  decide

/-- A slot number is written without the separator. -/
theorem underscore_notMem_slotLabel (slot : Fin shmFrameSlotCount) : '_' ∉ slotLabel slot := by
  revert slot
  decide

/-- Base and suffix of the fourteen names. -/
def nameParts (suffix : WString) : List (WString × WString) :=
  plainBases.map (fun base => (base, suffix))
    ++ (List.finRange shmFrameSlotCount).map fun slot =>
      (sharedTexBaseName, Delimited.labelled '_' suffix (slotLabel slot))

theorem makeScopedName_eq (base suffix : WString) :
    makeScopedName base suffix = Delimited.qualified '_' base suffix := rfl

theorem objectNames_eq (sessionId : List UInt8) :
    objectNames sessionId
      = (nameParts (sanitizeSessionId sessionId)).map fun p => makeScopedName p.1 p.2 := by
  have hslot : ∀ slot : Fin shmFrameSlotCount,
      (SharedTextures.init (buildSharedMemoryNames sessionId)).planeName (.ring slot)
        = makeScopedName sharedTexBaseName
            (Delimited.labelled '_' (sanitizeSessionId sessionId) (slotLabel slot)) := by
    intro slot
    exact Delimited.qualified_append_label _ _ (slotLabel_ne_nil slot)
  simp only [objectNames, nameParts, List.map_append, List.map_map, hslot]
  rfl

/-! ### Telling the names apart -/

theorem base_mem_of_mem_nameParts {suffix : WString} {p : WString × WString}
    (h : p ∈ nameParts suffix) : p.1 ∈ sharedTexBaseName :: plainBases := by
  rcases List.mem_append.mp h with h | h
  · obtain ⟨base, hbase, rfl⟩ := List.mem_map.mp h
    exact List.mem_cons_of_mem _ hbase
  · obtain ⟨slot, -, rfl⟩ := List.mem_map.mp h
    exact List.mem_cons_self

/-- A name determines its base and its suffix, over all sessions. -/
theorem nameParts_inj {s t : WString} {p q : WString × WString} (hp : p ∈ nameParts s)
    (hq : q ∈ nameParts t) (h : makeScopedName p.1 p.2 = makeScopedName q.1 q.2) : p = q := by
  rw [makeScopedName_eq, makeScopedName_eq] at h
  obtain ⟨hbase, hsuffix⟩ := Delimited.qualified_inj_of_pairwise bases_apart
    (base_mem_of_mem_nameParts hp) (base_mem_of_mem_nameParts hq) h
  exact Prod.ext hbase hsuffix

/-- The ring textures share a base with no other object. -/
theorem ne_sharedTexBaseName {base : WString} (h : base ∈ plainBases) :
    base ≠ sharedTexBaseName := by
  rintro rfl
  revert h
  decide

/-- Base and suffix determine the session. -/
theorem suffix_eq_of_mem_nameParts {s t : WString} {p : WString × WString}
    (hs : p ∈ nameParts s) (ht : p ∈ nameParts t) : s = t := by
  simp only [nameParts, List.mem_append, List.mem_map] at hs ht
  rcases hs with ⟨b, hb, rfl⟩ | ⟨i, -, rfl⟩ <;> rcases ht with ⟨c, hc, h⟩ | ⟨j, -, h⟩
  · exact (congrArg Prod.snd h).symm
  · exact absurd (congrArg Prod.fst h).symm (ne_sharedTexBaseName hb)
  · exact absurd (congrArg Prod.fst h) (ne_sharedTexBaseName hc)
  · exact (Delimited.labelled_inj (underscore_notMem_slotLabel j)
      (underscore_notMem_slotLabel i) (congrArg Prod.snd h)).1.symm

theorem nameParts_nodup (suffix : WString) : (nameParts suffix).Nodup := by
  refine List.Nodup.append ?_ ?_ ?_
  · exact List.Nodup.map (fun b c h => congrArg Prod.fst h) (by decide)
  · refine List.Nodup.map (fun i j h => ?_) (List.nodup_finRange _)
    exact slotLabel_injective (Delimited.labelled_inj (underscore_notMem_slotLabel i)
      (underscore_notMem_slotLabel j) (congrArg Prod.snd h)).2
  · intro p hp hq
    obtain ⟨base, hbase, rfl⟩ := List.mem_map.mp hp
    obtain ⟨slot, -, h⟩ := List.mem_map.mp hq
    exact ne_sharedTexBaseName hbase (congrArg Prod.fst h).symm

/-- **Sessions do not share objects.** The fourteen names of a session are pairwise distinct, and
no name of a session is a name of another one. -/
theorem objectNames_isolated :
    (∀ id, (objectNames id).Nodup)
      ∧ ∀ a b, sanitizeSessionId a ≠ sanitizeSessionId b →
          ∀ x ∈ objectNames a, ∀ y ∈ objectNames b, x ≠ y := by
  constructor
  · intro id
    rw [objectNames_eq]
    exact (nameParts_nodup _).map_on fun p hp q hq h => nameParts_inj hp hq h
  · intro a b hab x hx y hy hxy
    rw [objectNames_eq, List.mem_map] at hx hy
    obtain ⟨p, hp, rfl⟩ := hx
    obtain ⟨q, hq, rfl⟩ := hy
    obtain rfl := nameParts_inj hp hq hxy
    exact hab (suffix_eq_of_mem_nameParts hp hq)

/-- A session called `0` next to the one without an id. -/
example : makeScopedName sharedTexBaseName (sanitizeSessionId [48]) ∈ objectNames []
    ∧ makeScopedName sharedTexBaseName (sanitizeSessionId [48]) ∉ objectNames [48] := by decide

end CefHost
