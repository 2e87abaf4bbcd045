import CefHost.SharedMemoryLayout

/-!
# The profile of a session

`main` derives the profile directory of CEF from the same sanitized session id as the names of the
kernel objects, but by code of its own: an id that is empty leaves the object names without a
suffix, while the directory is then called `legacy`. A session that is really called `legacy` has
object names of its own and the same directory.

## Names on disk

A path is the list of its components. Windows file systems take two components for one name if
they differ in case only, while the names of kernel objects are compared as they are. The results
are stated for both ways of comparing, `ignoreCase` being the choice: without it they speak of the
paths that `main` computes, with it of the directories these lead to.

## Main definitions

* `rootCachePath` — the profile directory `main` hands to CEF
* `ProfilesApart` — two directories are different, and neither lies inside the other
* `ProfileClash` — the pairs of session ids that get one directory

## Main results

* `profiles_apart_iff` — sessions with different object names have profiles apart exactly when
  their ids do not clash
-/

namespace CefHost

/-! ### The directories -/

/-- The components of a path. -/
abbrev Path := List WString

/-- What `main` reads from its environment. A variable that is set and empty is `some []`. -/
structure Environment where
  localAppData : Option Path
  tempDirectoryPath : Path

/-- `LOCALAPPDATA` if it is set and not empty. -/
def Environment.profileBase (env : Environment) : Path :=
  match env.localAppData with
  | some (drive :: rest) => drive :: rest
  | _ => env.tempDirectoryPath

def legacyProfile : WString := "legacy".toList

/-- The component that stands for the session. -/
def profileName (sessionSuffix : WString) : WString :=
  if sessionSuffix.isEmpty then legacyProfile else sessionSuffix

def rootCachePath (env : Environment) (sessionId : List UInt8) : Path :=
  env.profileBase ++ ["CEF_HOST".toList, "profiles".toList,
    profileName (sanitizeSessionId sessionId), "root".toList]

/-! ### Comparing directories -/

/-- What the file system compares in place of a component. -/
def fileName (ignoreCase : Bool) (component : WString) : WString :=
  if ignoreCase then component.map Char.toLower else component

/-- `p` is the directory `q` or lies inside it. -/
def Path.Within (ignoreCase : Bool) (p q : Path) : Prop :=
  q.map (fileName ignoreCase) <+: p.map (fileName ignoreCase)

instance (ignoreCase : Bool) (p q : Path) : Decidable (p.Within ignoreCase q) :=
  inferInstanceAs (Decidable (_ <+: _))

/-- Different directories, neither of them inside the other. -/
def ProfilesApart (ignoreCase : Bool) (p q : Path) : Prop :=
  ¬ p.Within ignoreCase q ∧ ¬ q.Within ignoreCase p

instance (ignoreCase : Bool) (p q : Path) : Decidable (ProfilesApart ignoreCase p q) :=
  inferInstanceAs (Decidable (_ ∧ _))

/-- Two session ids with one profile: one is empty and the other is called `legacy`, or both name
one directory. -/
def ProfileClash (ignoreCase : Bool) (s t : WString) : Prop :=
  (s = [] ∧ fileName ignoreCase t = legacyProfile)
    ∨ (t = [] ∧ fileName ignoreCase s = legacyProfile)
    ∨ (s ≠ [] ∧ t ≠ [] ∧ fileName ignoreCase s = fileName ignoreCase t)

/-- Over one base the profiles differ in the component of the session only. -/
theorem rootCachePath_within_iff (ignoreCase : Bool) (env : Environment) (a b : List UInt8) :
    (rootCachePath env a).Within ignoreCase (rootCachePath env b)
      ↔ fileName ignoreCase (profileName (sanitizeSessionId b))
          = fileName ignoreCase (profileName (sanitizeSessionId a)) := by
  simp only [Path.Within, rootCachePath, List.map_append, List.map_cons, List.map_nil,
    List.prefix_append_right_inj, List.cons_prefix_cons]
  simp

theorem fileName_legacyProfile (ignoreCase : Bool) :
    fileName ignoreCase legacyProfile = legacyProfile := by
  revert ignoreCase
  decide

/-- The names are told apart unless the ids clash. -/
theorem fileName_profileName_eq_iff (ignoreCase : Bool) {s t : WString} (hst : s ≠ t) :
    fileName ignoreCase (profileName s) = fileName ignoreCase (profileName t)
      ↔ ProfileClash ignoreCase s t := by
  by_cases hs : s = [] <;> by_cases ht : t = []
  · exact absurd (hs.trans ht.symm) hst
  · have hflip : legacyProfile = fileName ignoreCase t ↔ fileName ignoreCase t = legacyProfile :=
      eq_comm
    simp [profileName, ProfileClash, hs, ht, fileName_legacyProfile, hflip]
  · simp [profileName, ProfileClash, hs, ht, fileName_legacyProfile]
  · simp [profileName, ProfileClash, hs, ht]

theorem sanitizeSessionId_ne_of_names_ne {a b : List UInt8}
    (h : buildSharedMemoryNames a ≠ buildSharedMemoryNames b) :
    sanitizeSessionId a ≠ sanitizeSessionId b := by
  intro heq
  simp [buildSharedMemoryNames, heq] at h

/-- **Profiles of sessions side by side.** For sessions with different object names the profile
directories are different, and neither inside the other, exactly when the ids do not clash. -/
theorem profiles_apart_iff (ignoreCase : Bool) (env : Environment) (a b : List UInt8)
    (h : buildSharedMemoryNames a ≠ buildSharedMemoryNames b) :
    ProfilesApart ignoreCase (rootCachePath env a) (rootCachePath env b)
      ↔ ¬ ProfileClash ignoreCase (sanitizeSessionId a) (sanitizeSessionId b) := by
  have hst := sanitizeSessionId_ne_of_names_ne h
  rw [ProfilesApart, rootCachePath_within_iff, rootCachePath_within_iff,
    ← fileName_profileName_eq_iff ignoreCase hst]
  constructor
  · exact fun hapart => hapart.2
  · exact fun hne => ⟨fun heq => hne heq.symm, hne⟩

/-- The sessions `a` and `b`. -/
theorem profiles_apart_a_b :
    buildSharedMemoryNames [97] ≠ buildSharedMemoryNames [98]
      ∧ (ProfilesApart true (rootCachePath ⟨none, []⟩ [97]) (rootCachePath ⟨none, []⟩ [98])
        ↔ ¬ ProfileClash true (sanitizeSessionId [97]) (sanitizeSessionId [98])) :=
  ⟨by decide, profiles_apart_iff true ⟨none, []⟩ [97] [98] (by decide)⟩

/-- A session called `legacy` has the profile of the session without an id, and objects of its
own. -/
theorem legacy_shares_profile :
    buildSharedMemoryNames [] ≠ buildSharedMemoryNames [108, 101, 103, 97, 99, 121]
      ∧ ¬ ProfilesApart false (rootCachePath ⟨none, []⟩ [])
          (rootCachePath ⟨none, []⟩ [108, 101, 103, 97, 99, 121]) := by
  decide

end CefHost
