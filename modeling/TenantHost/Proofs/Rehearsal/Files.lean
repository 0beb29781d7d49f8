import TenantHost.Rehearsal.Files
/-!
# What becomes of files

A tree of files is known by what stands at its places, and a change of it by what stands there
afterwards. Where a path leads is a matter of the directories and the links alone, so that writing a
file does not divert any path: what was written is read back along every path that leads there, and
nothing else is read differently.
-/

namespace TenantHost.Rehearsal.Files

/-! ## Places -/

@[simp] theorem entryAt?_nil (files : Files) :
    files.entryAt? [] = some (.directory usualDirectoryMode) :=
  rfl

theorem entryAt?_of_ne_nil (files : Files) {place : Place} (h : place ≠ []) :
    files.entryAt? place = files.lookup place :=
  if_neg h

theorem lookup_put (files : Files) (place other : Place) (entry : Entry) :
    (files.put place entry).lookup other
      = if other = place then some entry else files.lookup other := by
  induction files with
  | nil => grind [put]
  | cons known rest ih => grind [put]

/-- An entry is found where it was put, and every other one where it was. -/
@[simp] theorem entryAt?_put {files : Files} {place other : Place} {entry : Entry}
    (h : place ≠ []) :
    (files.put place entry).entryAt? other
      = if other = place then some entry else files.entryAt? other := by
  by_cases hother : other = []
  · have hne : other ≠ place := fun hsame => h (hsame ▸ hother)
    rw [hother, entryAt?_nil, entryAt?_nil, if_neg (hother ▸ hne)]
  · rw [entryAt?_of_ne_nil _ hother, entryAt?_of_ne_nil _ hother, lookup_put]

theorem lookup_filter (files : Files) (keep : Place → Bool) (place : Place) :
    List.lookup place (files.filter fun known => keep known.1)
      = if keep place then files.lookup place else none := by
  induction files with
  | nil => grind
  | cons known rest ih => grind

/-- What stood at a place or below it is gone, and everything else is where it was. -/
@[simp] theorem entryAt?_erase {files : Files} {place other : Place} (h : place ≠ []) :
    (files.erase place).entryAt? other
      = if place <+: other then none else files.entryAt? other := by
  by_cases hother : other = []
  · have hno : ¬ place <+: other := by
      rw [hother, List.prefix_nil]
      exact h
    rw [if_neg hno, hother, entryAt?_nil, entryAt?_nil]
  · rw [entryAt?_of_ne_nil _ hother, entryAt?_of_ne_nil _ hother, erase,
      lookup_filter files fun known => !place.isPrefixOf known]
    by_cases hbelow : place <+: other
    · rw [if_pos hbelow, List.isPrefixOf_iff_prefix.mpr hbelow]
      rfl
    · rw [if_neg hbelow, Bool.eq_false_iff.mpr (mt List.isPrefixOf_iff_prefix.mp hbelow)]
      rfl

/-! ## Paths -/

/-- What an entry is to a path that comes by: a directory leads on, a link leads elsewhere, and at
anything else a path ends. -/
inductive Waypoint where
  | directory
  | link (target : Raw)
  | dead
  deriving DecidableEq

/-- The waypoint that an entry is. -/
def waypoint : Entry → Waypoint
  | .directory _ => .directory
  | .link target => .link target
  | _ => .dead

/-- Two trees in which the same waypoints stand at the same places. -/
def SameWays (files changed : Files) : Prop :=
  ∀ place, (files.entryAt? place).map waypoint = (changed.entryAt? place).map waypoint

/-- A step along a path, by the waypoints it comes by. -/
theorem follow_cons (files : Files) (last : Bool) (links : Nat) (place : Place) (name : Raw)
    (rest : List Raw) :
    files.follow last links place (name :: rest)
      = match (files.entryAt? place).map waypoint with
        | some .directory =>
          if nameLimit < name.length then .error .tooLongName
          else if name = "." then files.follow last links place rest
          else if name = ".." then files.follow last links place.dropLast rest
          else
            match (files.entryAt? (place ++ [name])).map waypoint with
            | some (.link target) =>
              if rest.isEmpty && !last then .ok (place ++ [name])
              else if links = 0 then .error .tooManyLinks
              else files.follow last (links - 1) (startOf place target) (namesOf target ++ rest)
            | _ => files.follow last links (place ++ [name]) rest
        | some _ => .error .notDirectory
        | none => .error .missing := by
  rw [follow]
  rcases files.entryAt? place with _ | entry
  · rfl
  · cases entry with
    | directory mode =>
      rcases files.entryAt? (place ++ [name]) with _ | next
      · rfl
      · cases next <;> rfl
    | _ => rfl

/-- **Where a path leads is a matter of the waypoints alone.** -/
theorem follow_congr {files changed : Files} (h : SameWays files changed) (last : Bool)
    (links : Nat) (place : Place) (names : List Raw) :
    files.follow last links place names = changed.follow last links place names := by
  induction links, place, names using Files.follow.induct files last with
  | case1 links place => rw [follow, follow]
  | case2 links place name rest mode hplace hlong =>
    rw [follow_cons, follow_cons, ← h place, hplace]
    simp only [Option.map_some, waypoint, if_pos hlong]
  | case3 links place rest mode hplace hshort ih =>
    rw [follow_cons, follow_cons, ← h place, hplace]
    simp only [Option.map_some, waypoint, if_neg hshort, if_true, ih]
  | case4 links place rest mode hplace hshort hdot ih =>
    rw [follow_cons, follow_cons, ← h place, hplace]
    simp only [Option.map_some, waypoint, if_neg hshort, if_neg hdot, if_true, ih]
  | case5 links place name rest mode hplace hshort hdot hdots target hnext hend =>
    rw [follow_cons, follow_cons, ← h place, ← h (place ++ [name]), hplace, hnext]
    simp only [Option.map_some, waypoint, if_neg hshort, if_neg hdot, if_neg hdots, if_pos hend]
  | case6 place name rest mode hplace hshort hdot hdots target hnext hend =>
    rw [follow_cons, follow_cons, ← h place, ← h (place ++ [name]), hplace, hnext]
    simp only [Option.map_some, waypoint, if_neg hshort, if_neg hdot, if_neg hdots, if_neg hend,
      if_true]
  | case7 links place name rest mode hplace hshort hdot hdots target hnext hend hlinks ih =>
    rw [follow_cons, follow_cons, ← h place, ← h (place ++ [name]), hplace, hnext]
    simp only [Option.map_some, waypoint, if_neg hshort, if_neg hdot, if_neg hdots, if_neg hend,
      if_neg hlinks, ih]
  | case8 links place name rest mode hplace hshort hdot hdots hnext ih =>
    rw [follow_cons, follow_cons, ← h place, ← h (place ++ [name]), hplace]
    simp only [Option.map_some, waypoint, if_neg hshort, if_neg hdot, if_neg hdots, ih]
    rcases hentry : files.entryAt? (place ++ [name]) with _ | entry
    · rfl
    · cases entry with
      | link target => exact absurd hentry (hnext target)
      | _ => rfl
  | case9 links place name rest entry hplace hentry =>
    rw [follow_cons, follow_cons, ← h place, hentry]
    cases entry with
    | directory mode => exact absurd rfl (hplace mode)
    | _ => rfl
  | case10 links place name rest hplace =>
    rw [follow_cons, follow_cons, ← h place, hplace]
    rfl

theorem locate_congr {files changed : Files} (h : SameWays files changed) (last : Bool)
    (directory : Place) (path : Raw) :
    files.locate last directory path = changed.locate last directory path := by
  unfold locate
  rw [follow_congr h]

/-- What is found along a path is the entry of the place where it ends. -/
theorem look_of_located {files : Files} {last : Bool} {directory place : Place} {path : Raw}
    (h : files.locate last directory path = .ok place) :
    files.look last directory path = (files.entryAt? place).elim (.error .missing) .ok := by
  rcases hentry : files.entryAt? place with _ | entry <;>
    simp [look, h, hentry, bind, Except.bind]

/-! ## Writing files -/

/-- To write a file that is there is to put it in its place again. -/
theorem write_of_file {files : Files} {place : Place} {before : Raw} {mode : Nat}
    (h : files.entryAt? place = some (.file before mode)) (content : Raw) :
    files.write place content = files.put place (.file content mode) := by
  rw [write, h]

/-- No file is the root. -/
theorem ne_nil_of_file {files : Files} {place : Place} {content : Raw} {mode : Nat}
    (h : files.entryAt? place = some (.file content mode)) : place ≠ [] := by
  rintro rfl
  cases h

/-- Another content for a file diverts no path. -/
theorem sameWays_put {files : Files} {place : Place} {before : Raw} {mode : Nat}
    (h : files.entryAt? place = some (.file before mode)) (after : Raw) :
    SameWays files (files.put place (.file after mode)) := by
  intro other
  rw [entryAt?_put (ne_nil_of_file h)]
  by_cases hsame : other = place
  · rw [if_pos hsame, hsame, h]
    rfl
  · rw [if_neg hsame]

/-- What was put in the place of a file is found along every path that leads there. -/
theorem look_put {files : Files} {place : Place} {before : Raw} {mode : Nat}
    (h : files.entryAt? place = some (.file before mode)) (after : Raw) {last : Bool}
    {directory : Place} {path : Raw} (hpath : files.locate last directory path = .ok place) :
    (files.put place (.file after mode)).look last directory path = .ok (.file after mode) := by
  rw [locate_congr (sameWays_put h after)] at hpath
  rw [look_of_located hpath, entryAt?_put (ne_nil_of_file h), if_pos rfl]
  rfl

/-- Along all other paths nothing is found differently. -/
theorem look_put_of_ne {files : Files} {place : Place} {before : Raw} {mode : Nat}
    (h : files.entryAt? place = some (.file before mode)) (after : Raw) {last : Bool}
    {directory : Place} {path : Raw} (hpath : files.locate last directory path ≠ .ok place) :
    (files.put place (.file after mode)).look last directory path
      = files.look last directory path := by
  rcases hfound : files.locate last directory path with problem | found
  · rw [look, look, ← locate_congr (sameWays_put h after), hfound]
    rfl
  · have hne : found ≠ place := by
      rintro rfl
      exact hpath hfound
    have hfound' := hfound
    rw [locate_congr (sameWays_put h after)] at hfound'
    rw [look_of_located hfound, look_of_located hfound', entryAt?_put (ne_nil_of_file h),
      if_neg hne]

/-- **What was written to a file is read back**, along every path that leads to it. -/
theorem read_write {files : Files} {place : Place} {before : Raw} {mode : Nat}
    (h : files.entryAt? place = some (.file before mode)) (content : Raw) {directory : Place}
    {path : Path} (hnameable : isUnnameable path = false)
    (hpath : files.locate true directory (rawPath path) = .ok place) :
    (files.write place content).read directory path = .ok (Raw.bytes content) := by
  rw [write_of_file h, read, hnameable, if_neg Bool.false_ne_true, find, look_put h content hpath]

/-- **Nothing else is read differently.** -/
theorem read_write_of_ne {files : Files} {place : Place} {before : Raw} {mode : Nat}
    (h : files.entryAt? place = some (.file before mode)) (content : Raw) {directory : Place}
    {path : Path} (hpath : files.locate true directory (rawPath path) ≠ .ok place) :
    (files.write place content).read directory path = files.read directory path := by
  rw [write_of_file h, read, read, find, look_put_of_ne h content hpath]
  rfl

/-! ## Taking files away -/

/-- **What is taken away is gone with all that stood below it, and everything else stays.** -/
theorem entryAt?_remove {files left : Files} {directory : Place} {path : String}
    (h : files.remove directory path = .ok left) :
    ∃ place entry, files.locate false directory (Raw.ofText path) = .ok place ∧
      files.entryAt? place = some entry ∧ entry.isDirectory = false ∧
      ∀ other, left.entryAt? other = if place <+: other then none else files.entryAt? other := by
  unfold remove at h
  split at h
  · cases h
  · rcases hplace : files.locate false directory (Raw.ofText path) with problem | place
    · rw [hplace] at h
      cases h
    · rw [hplace] at h
      rcases hentry : files.entryAt? place with _ | entry
      · simp only [hentry] at h
        cases h
      · have hne : entry.isDirectory = false → place ≠ [] := by
          rintro hno rfl
          rw [entryAt?_nil] at hentry
          rw [← Option.some.inj hentry] at hno
          cases hno
        cases entry with
        | directory mode =>
          simp only [hentry] at h
          cases h
        | _ =>
          simp only [hentry] at h
          obtain rfl := Except.ok.inj h
          exact ⟨place, _, rfl, hentry, rfl, fun other => entryAt?_erase (hne rfl)⟩

end TenantHost.Rehearsal.Files
