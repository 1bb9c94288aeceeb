import RequestCheck.Files.Disk

/-!
# What a disk keeps

An operation writes to some locations and leaves all others as they are; no directory becomes
anything else. So a path that led somewhere leads there still, and a file that was not written to
reads as before.

    (d.put l e).entry? l' = if l' = l then e else d.entry? l'           (entry_put)
    d.Keeps W d'    d' is d but for entries at locations in W, which are no directories of d
    d.Readies d'    d' is d but for directories and empty files where nothing lies in d
    (d.makeParents p).2 keeps all that lies in d                    (keeps_of_makeParents)
-/

namespace RequestCheck.Disk

variable {d d' d'' : Disk} {location other : Location} {entry : Entry} {path : Text}

/-! ## Entries -/

theorem lookup_putEntry (location : Location) (entry : Entry) (entries : List (Location × Entry))
    (other : Location) :
    (putEntry location entry entries).lookup other =
      if other = location then some entry else entries.lookup other := by
  induction entries with
  | nil =>
    rw [putEntry, List.lookup_cons]
    by_cases hother : other = location
    · rw [if_pos hother, hother, beq_self_eq_true]
    · rw [if_neg hother, beq_false_of_ne hother]
  | cons head entries ih =>
    obtain ⟨first, old⟩ := head
    simp only [putEntry]
    by_cases hfirst : first = location
    · rw [if_pos hfirst, List.lookup_cons, List.lookup_cons, hfirst]
      by_cases hother : other = location
      · rw [if_pos hother, hother, beq_self_eq_true]
      · rw [if_neg hother, beq_false_of_ne hother]
    · rw [if_neg hfirst, List.lookup_cons, List.lookup_cons, ih]
      by_cases hother : other = first
      · rw [hother, beq_self_eq_true]
        exact (if_neg hfirst).symm
      · rw [beq_false_of_ne hother]

theorem entry_put (hlocation : location ≠ []) (other : Location) :
    entry? (d.put location entry) other = if other = location then some entry else d.entry? other := by
  unfold put entry?
  by_cases hroot : other = []
  · rw [if_pos hroot, if_pos hroot, hroot, if_neg (Ne.symm hlocation)]
  · rw [if_neg hroot, if_neg hroot]
    exact lookup_putEntry location entry d.entries other

theorem ne_nil_of_ne_directory (h : d.entry? location ≠ some .directory) : location ≠ [] := by
  rintro rfl
  exact h rfl

/-! ## Where paths lead to -/

/-- Where a path leads to, and what has to hold for that. -/
theorem locate_eq_ok_iff :
    d.locate path = .ok location ↔
      Utf8.firstBadSurrogates Utf8.isUnnameable path = none ∧ path.contains '\x00' = false ∧
        path ≠ [] ∧ (Utf8.fileOctets path).length ≤ maxPathSize ∧
        d.walk (if Path.rootOf path = .relative then d.home else [])
          (path.splitAt Path.separator) = .ok location := by
  unfold locate
  constructor
  · intro h
    split at h
    · cases h
    next hnameable =>
    split at h
    · cases h
    next hnull =>
    split at h
    · cases h
    next hempty =>
    split at h
    · cases h
    next hsize =>
    split at h
    · cases h
    next hwalk =>
    cases h
    exact ⟨hnameable, by simpa using hnull, hempty, Nat.le_of_not_lt hsize, hwalk⟩
  · rintro ⟨hnameable, hnull, hempty, hsize, hwalk⟩
    simp only [hnameable, hnull, hwalk, if_neg hempty, if_neg (Nat.not_lt.mpr hsize),
      Bool.false_eq_true, if_false]

/-! ## What is kept -/

/-- All but some locations hold what they held, and directories are directories still. -/
structure Keeps (W : Location → Prop) (d d' : Disk) : Prop where
  home_eq : d'.home = d.home
  entry_eq : ∀ location, ¬ W location → d'.entry? location = d.entry? location
  directory : ∀ location, d.entry? location = some .directory →
    d'.entry? location = some .directory

namespace Keeps

variable {W : Location → Prop}

theorem refl (d : Disk) : Keeps W d d := ⟨rfl, fun _ _ => rfl, fun _ h => h⟩

theorem trans (h : Keeps W d d') (h' : Keeps W d' d'') : Keeps W d d'' where
  home_eq := by rw [h'.home_eq, h.home_eq]
  entry_eq := fun location hW => by rw [h'.entry_eq location hW, h.entry_eq location hW]
  directory := fun location hd => h'.directory location (h.directory location hd)

theorem mono {W' : Location → Prop} (hW : ∀ location, W location → W' location)
    (h : Keeps W d d') : Keeps W' d d' where
  home_eq := h.home_eq
  entry_eq := fun location hW' => h.entry_eq location fun hmem => hW' (hW location hmem)
  directory := h.directory

theorem put (hW : W location) (hd : d.entry? location ≠ some .directory) :
    Keeps W d (d.put location entry) where
  home_eq := rfl
  entry_eq := fun other hother => by
    rw [entry_put (ne_nil_of_ne_directory hd), if_neg]
    rintro rfl
    exact hother hW
  directory := fun other hother => by
    rw [entry_put (ne_nil_of_ne_directory hd), if_neg]
    · exact hother
    · rintro rfl
      exact hd hother

theorem enter (h : Keeps W d d') {part : Text} (henter : d.enter location part = .ok other) :
    d'.enter location part = .ok other := by
  unfold Disk.enter at henter ⊢
  cases hentry : d.entry? location with
  | none => rw [hentry] at henter; cases henter
  | some entry =>
    rw [hentry] at henter
    cases entry with
    | file content => cases henter
    | void => cases henter
    | directory => rw [h.directory location hentry]; exact henter

/-- Ways through directories are kept. -/
theorem walk (h : Keeps W d d') {parts : List Text} (hwalk : d.walk location parts = .ok other) :
    d'.walk location parts = .ok other := by
  induction parts generalizing location with
  | nil => exact hwalk
  | cons part parts ih =>
    unfold Disk.walk at hwalk ⊢
    cases henter : d.enter location part with
    | error why => rw [henter] at hwalk; cases hwalk
    | ok next =>
      rw [henter] at hwalk
      rw [h.enter henter]
      exact ih hwalk

theorem locate (h : Keeps W d d') (hlocate : d.locate path = .ok location) :
    d'.locate path = .ok location := by
  obtain ⟨hnameable, hnull, hempty, hsize, hwalk⟩ := locate_eq_ok_iff.mp hlocate
  refine locate_eq_ok_iff.mpr ⟨hnameable, hnull, hempty, hsize, ?_⟩
  rw [h.home_eq]
  exact h.walk hwalk

/-- A file that was not written to reads as before. -/
theorem read (h : Keeps W d d') {content : Octets} (hlocate : d.locate path = .ok location)
    (hW : ¬ W location) (hread : d.read path = .ok content) : d'.read path = .ok content := by
  unfold Disk.read at hread ⊢
  rw [hlocate] at hread
  rw [h.locate hlocate]
  simp only [h.entry_eq location hW]
  exact hread

end Keeps

/-! ## What is the same on two disks -/

/-- All but some locations hold the same on both disks, and both have the same directories. -/
structure Agrees (W : Location → Prop) (d d' : Disk) : Prop where
  forth : Keeps W d d'
  back : Keeps W d' d

namespace Agrees

variable {W : Location → Prop}

theorem refl (d : Disk) : Agrees W d d := ⟨Keeps.refl d, Keeps.refl d⟩

theorem trans (h : Agrees W d d') (h' : Agrees W d' d'') : Agrees W d d'' :=
  ⟨h.forth.trans h'.forth, h'.back.trans h.back⟩

theorem mono {W' : Location → Prop} (hW : ∀ location, W location → W' location)
    (h : Agrees W d d') : Agrees W' d d' := ⟨h.forth.mono hW, h.back.mono hW⟩

/-- A file may take the place of what is no directory. -/
theorem put {content : Octets} (hW : W location) (hd : d.entry? location ≠ some .directory) :
    Agrees W d (d.put location (.file content)) where
  forth := Keeps.put hW hd
  back := {
    home_eq := rfl
    entry_eq := fun other hother => ((Keeps.put hW hd).entry_eq other hother).symm
    directory := by
      intro other hother
      rw [entry_put (ne_nil_of_ne_directory hd)] at hother
      split at hother
      · cases hother
      · exact hother }

/-- Paths lead to the same locations. -/
theorem locate_iff (h : Agrees W d d') : d'.locate path = .ok location ↔ d.locate path = .ok location :=
  ⟨h.back.locate, h.forth.locate⟩

end Agrees

/-! ## Files -/

/-- What lies at a path lies at the location that the path leads to. -/
theorem status_eq_some_iff :
    d.status path = .ok (some entry) ↔
      ∃ location, d.locate path = .ok location ∧ d.entry? location = some entry := by
  unfold status
  cases hlocate : d.locate path with
  | ok location =>
    simp only [Except.ok.injEq]
    exact ⟨fun h => ⟨location, rfl, h⟩, fun ⟨_, h, hentry⟩ => by rw [h]; exact hentry⟩
  | error error =>
    refine ⟨fun h => ?_, fun ⟨_, h, _⟩ => by cases h⟩
    cases error with
    | unencodable error => cases h
    | nullByte => cases h
    | refused why at' => cases why <;> cases h

theorem modify_of_none (change : Octets → Octets) (hlocate : d.locate path = .ok location)
    (hentry : d.entry? location = none) :
    d.modify path change = .ok (d.put location (.file (change []))) := by
  unfold modify
  rw [hlocate]
  simp only [hentry]

theorem modify_of_file (change : Octets → Octets) {content : Octets}
    (hlocate : d.locate path = .ok location) (hentry : d.entry? location = some (.file content)) :
    d.modify path change = .ok (d.put location (.file (change content))) := by
  unfold modify
  rw [hlocate]
  simp only [hentry]

/-- A change of a file changes no more than what its path leads to. -/
theorem modify_agrees {change : Octets → Octets} (h : d.modify path change = .ok d') :
    ∃ location, d.locate path = .ok location ∧ Agrees (· = location) d d' := by
  unfold modify at h
  cases hlocate : d.locate path with
  | error error => rw [hlocate] at h; cases h
  | ok location =>
    rw [hlocate] at h
    refine ⟨location, rfl, ?_⟩
    simp only at h
    split at h
    · next hentry => cases h; exact Agrees.put rfl (by rw [hentry]; simp)
    · cases h
    · cases h; exact Agrees.refl d
    · next hentry => cases h; exact Agrees.put rfl (by rw [hentry]; simp)

/-- What is added to a file stands behind what it held. -/
theorem append_status {content : Octets} (h : d.status path = .ok (some (.file content)))
    (octets : Octets) :
    ∃ d', d.append path octets = .ok d' ∧
      d'.status path = .ok (some (.file (content ++ octets))) := by
  obtain ⟨location, hlocate, hentry⟩ := status_eq_some_iff.mp h
  have hfile : d.entry? location ≠ some .directory := by rw [hentry]; simp
  have hkeeps : Keeps (· = location) d (d.put location (.file (content ++ octets))) :=
    Keeps.put rfl hfile
  refine ⟨_, modify_of_file (· ++ octets) hlocate hentry, ?_⟩
  refine status_eq_some_iff.mpr ⟨location, hkeeps.locate hlocate, ?_⟩
  rw [entry_put (ne_nil_of_ne_directory hfile), if_pos rfl]

theorem isFile_iff (d : Disk) (path : Text) :
    d.isFile path = .ok true ↔ ∃ location content, d.locate path = .ok location ∧
      d.entry? location = some (.file content) := by
  have hstatus : d.isFile path = .ok true ↔
      ∃ content, d.status path = .ok (some (.file content)) := by
    unfold isFile
    constructor
    · intro h
      split at h
      · next content hstatus => exact ⟨content, hstatus⟩
      · cases h
      · cases h
    · rintro ⟨content, h⟩
      rw [h]
  rw [hstatus]
  simp only [status_eq_some_iff]
  exact exists_comm

/-! ## Directories -/

theorem isDirectory_iff (d : Disk) (path : Text) :
    d.isDirectory path = .ok true ↔
      ∃ location, d.locate path = .ok location ∧ d.entry? location = some .directory := by
  rw [← status_eq_some_iff]
  unfold isDirectory
  constructor
  · intro h
    split at h
    · next hstatus => exact hstatus
    · cases h
    · cases h
  · intro h
    rw [h]

theorem Keeps.isDirectory {W : Location → Prop} (h : Keeps W d d')
    (hdirectory : d.isDirectory path = .ok true) : d'.isDirectory path = .ok true := by
  obtain ⟨location, hlocate, hentry⟩ := (isDirectory_iff d path).mp hdirectory
  exact (isDirectory_iff d' path).mpr ⟨location, h.locate hlocate, h.directory location hentry⟩

/-- A new directory lies where its path leads to. -/
theorem isDirectory_of_makeDirectory (h : d.makeDirectory path = .ok d') :
    d'.isDirectory path = .ok true := by
  unfold makeDirectory at h
  cases hlocate : d.locate path with
  | error error => rw [hlocate] at h; cases h
  | ok location =>
    rw [hlocate] at h
    cases hentry : d.entry? location with
    | some entry => simp only [hentry] at h; cases h
    | none =>
      simp only [hentry] at h
      cases h
      have hd : d.entry? location ≠ some .directory := by rw [hentry]; simp
      have hkeeps : Keeps (· = location) d (d.put location .directory) := Keeps.put rfl hd
      rw [isDirectory_iff]
      refine ⟨location, hkeeps.locate hlocate, ?_⟩
      rw [entry_put (ne_nil_of_ne_directory hd), if_pos rfl]

theorem isDirectory_of_unlessDirectory {error : FileError}
    (h : d.unlessDirectory path error = .ok ()) : d.isDirectory path = .ok true := by
  unfold unlessDirectory at h
  cases error with
  | unencodable error => cases h
  | nullByte => cases h
  | refused why at' =>
    simp only at h
    split at h
    · next hdirectory => exact hdirectory
    · cases h
    · cases h

/-- The directory is there once it and those before it have been made. -/
theorem isDirectory_of_makeAll {root : PathRoot} {parts : List Text}
    (h : d.makeAll root parts = (.ok (), d')) :
    d'.isDirectory (Path.mk root parts.reverse).toText = .ok true := by
  cases parts with
  | nil =>
    simp only [makeAll] at h
    split at h
    · next made hmade =>
      cases h
      exact isDirectory_of_makeDirectory hmade
    · next error hmade =>
      rw [Prod.mk.injEq] at h
      obtain ⟨hok, rfl⟩ := h
      exact isDirectory_of_unlessDirectory hok
  | cons part above =>
    simp only [makeAll] at h
    split at h
    · next made hmade =>
      cases h
      exact isDirectory_of_makeDirectory hmade
    · next hmade =>
      split at h
      · cases h
      · next made _ =>
        split at h
        · next all hall =>
          cases h
          exact isDirectory_of_makeDirectory hall
        · next error hall =>
          rw [Prod.mk.injEq] at h
          obtain ⟨hok, rfl⟩ := h
          exact isDirectory_of_unlessDirectory hok
    · next error hmade =>
      rw [Prod.mk.injEq] at h
      obtain ⟨hok, rfl⟩ := h
      exact isDirectory_of_unlessDirectory hok

theorem isDirectory_of_makeParents {p : Path} (h : d.makeParents p = (.ok (), d')) :
    d'.isDirectory p.toText = .ok true := by
  have key := isDirectory_of_makeAll h
  rw [List.reverse_reverse] at key
  exact key

/-- New directories and new empty files lie where nothing lay; all else is as it was. -/
structure Readies (d d' : Disk) : Prop where
  home_eq : d'.home = d.home
  entry : ∀ location, d'.entry? location = d.entry? location ∨
    d.entry? location = none ∧
      (d'.entry? location = some .directory ∨ d'.entry? location = some (.file []))

namespace Readies

theorem refl (d : Disk) : Readies d d := ⟨rfl, fun _ => .inl rfl⟩

theorem trans (h : Readies d d') (h' : Readies d' d'') : Readies d d'' where
  home_eq := by rw [h'.home_eq, h.home_eq]
  entry := by
    intro location
    rcases h'.entry location with heq | ⟨hnone, hnew⟩
    · rw [heq]
      exact h.entry location
    · rcases h.entry location with heq | ⟨-, hd | hfile⟩
      · exact .inr ⟨by rw [← heq, hnone], hnew⟩
      · rw [hd] at hnone; cases hnone
      · rw [hfile] at hnone; cases hnone

theorem put (hnone : d.entry? location = none) (hentry : entry = .directory ∨ entry = .file []) :
    Readies d (d.put location entry) where
  home_eq := rfl
  entry := by
    intro other
    rw [entry_put (ne_nil_of_ne_directory (by rw [hnone]; simp))]
    split
    · next h =>
      rw [h]
      exact .inr ⟨hnone, hentry.imp (congrArg some) (congrArg some)⟩
    · exact .inl rfl

theorem keeps (h : Readies d d') : Keeps (fun location => d.entry? location = none) d d' where
  home_eq := h.home_eq
  entry_eq := fun location hsome => (h.entry location).resolve_right fun hnew => hsome hnew.1
  directory := by
    intro location hd
    rcases h.entry location with heq | ⟨hnone, -⟩
    · rw [heq, hd]
    · rw [hd] at hnone; cases hnone

end Readies

theorem readies_of_makeDirectory (h : d.makeDirectory path = .ok d') : Readies d d' := by
  unfold makeDirectory at h
  split at h
  · cases h
  · split at h
    · next hentry =>
      cases h
      exact .put hentry (.inl rfl)
    · cases h

theorem readies_of_makeAll {root : PathRoot} {parts : List Text} {result : Except FileError Unit}
    (h : d.makeAll root parts = (result, d')) : Readies d d' := by
  induction parts generalizing d' result with
  | nil =>
    simp only [makeAll] at h
    split at h
    · next made hmade => cases h; exact readies_of_makeDirectory hmade
    · cases h; exact .refl _
  | cons part above ih =>
    simp only [makeAll] at h
    split at h
    · next made hmade => cases h; exact readies_of_makeDirectory hmade
    · split at h
      · next made habove => cases h; exact ih habove
      · next made habove =>
        have habove := ih habove
        split at h
        · next all hall => cases h; exact habove.trans (readies_of_makeDirectory hall)
        · cases h; exact habove
    · cases h; exact .refl _

theorem readies_of_makeParents {p : Path} {result : Except FileError Unit}
    (h : d.makeParents p = (result, d')) : Readies d d' := readies_of_makeAll h

/-- Directories are made only where nothing lies. -/
theorem keeps_of_makeParents {p : Path} {result : Except FileError Unit}
    (h : d.makeParents p = (result, d')) : Keeps (fun location => d.entry? location = none) d d' :=
  (readies_of_makeParents h).keeps

/-- Nothing is made where something lies. -/
theorem makeDirectory_of_status (h : d.status path = .ok (some entry)) :
    d.makeDirectory path = .error (.refused .alreadyThere path) := by
  obtain ⟨location, hlocate, hentry⟩ := status_eq_some_iff.mp h
  unfold makeDirectory
  rw [hlocate]
  simp only [hentry]

/-- What lies at a path decides whether a directory is made there. -/
theorem makeParents_of_status {p : Path} (h : d.status p.toText = .ok (some entry)) :
    d.makeParents p = (d.unlessDirectory p.toText (.refused .alreadyThere p.toText), d) := by
  have hp : (Path.mk p.root p.parts.reverse.reverse) = p := by rw [List.reverse_reverse]
  unfold makeParents
  cases hparts : p.parts.reverse with
  | nil =>
    rw [hparts] at hp
    have hroot : Path.mk p.root [] = p := hp
    simp only [makeAll, hroot, makeDirectory_of_status h]
  | cons part above =>
    rw [hparts] at hp
    simp only [makeAll, hp, makeDirectory_of_status h]

theorem makeParents_of_isDirectory {p : Path} (h : d.isDirectory p.toText = .ok true) :
    d.makeParents p = (.ok (), d) := by
  obtain ⟨location, hlocate, hentry⟩ := (isDirectory_iff d p.toText).mp h
  rw [makeParents_of_status (status_eq_some_iff.mpr ⟨location, hlocate, hentry⟩)]
  unfold unlessDirectory
  rw [h]

/-- No directory is made where a file lies. -/
theorem makeParents_of_file {p : Path} {content : Octets}
    (h : d.status p.toText = .ok (some (.file content))) :
    d.makeParents p = (.error (.refused .alreadyThere p.toText), d) := by
  rw [makeParents_of_status h]
  unfold unlessDirectory isDirectory
  rw [h]

/-- A directory is no file that one could write to. -/
theorem modify_of_directory (change : Octets → Octets) (h : d.isDirectory path = .ok true) :
    d.modify path change = .error (.refused .isDirectory path) := by
  obtain ⟨location, hlocate, hentry⟩ := (isDirectory_iff d path).mp h
  unfold modify
  rw [hlocate]
  simp only [hentry]

end RequestCheck.Disk
