import RequestCheck.Proofs.Paths

/-!
# What a disk tells without being read

Where a path leads to, and whether a file lies there, depends on the directories and on where the
files are, and not on what they hold. If no part of a path is too long for a name, the system tells
whether a file lies at it, unless the path as a whole is too long. With a surrogate that no name has in
it, a path is not followed at all, and no file lies there.

    path.IsNameable           all code points of the path can be in the names of files
    path.pathError?           why the system is not asked for the path, if it is not
    path.IsPassable           there is no NUL in the path, and no part of it is too long for a name
    d.hasFile path            a file lies where the path leads to
    d.isFile path             the same, or the refusal of a long path         (isFile_of_passable)
    d.SameShape d'            d' has the same files and directories as d
-/

namespace RequestCheck

/-! ## Paths that can be followed -/

/-- The code point that the system ends paths with. -/
def Path.null : CodePoint := '\x00'

theorem Path.contains_null {path : Text} : path.contains '\x00' = true ↔ null ∈ path :=
  List.contains_iff_mem

/-- There is no surrogate in a path that no file can have in its name. -/
def Text.IsNameable (path : Text) : Prop := ∀ c ∈ path, Utf8.isUnnameable c = false

theorem Text.isNameable_iff {path : Text} :
    Utf8.firstBadSurrogates Utf8.isUnnameable path = none ↔ path.IsNameable :=
  Utf8.firstBadSurrogates_eq_none_iff Utf8.isUnnameable path

instance (path : Text) : Decidable path.IsNameable := decidable_of_iff _ Text.isNameable_iff

/-- Why a path is not handed to the system, if it is not: no file has such a surrogate in its name, or
no NUL can be in a path. -/
def Text.pathError? (path : Text) : Option FileError :=
  match Utf8.firstBadSurrogates Utf8.isUnnameable path with
  | some error => some (.unencodable error)
  | none => if path.contains '\x00' then some .nullByte else none

theorem Text.pathError?_eq_none_iff {path : Text} :
    path.pathError? = none ↔
      Utf8.firstBadSurrogates Utf8.isUnnameable path = none ∧ path.contains '\x00' = false := by
  unfold pathError?
  cases Utf8.firstBadSurrogates Utf8.isUnnameable path with
  | some error => simp
  | none => cases path.contains '\x00' <;> simp

theorem Text.pathError?_cases {path : Text} {error : FileError} (h : path.pathError? = some error) :
    (∃ encoding, error = .unencodable encoding) ∨ error = .nullByte := by
  unfold pathError? at h
  split at h
  · cases h; exact .inl ⟨_, rfl⟩
  · split at h <;> cases h
    exact .inr rfl

/-- There is no NUL in a path, and no part of it is too long for a name. -/
structure Text.IsPassable (path : Text) : Prop where
  noNull : Path.null ∉ path
  parts : ∀ part ∈ path.splitAt Path.separator,
    (Utf8.fileOctets part).length ≤ Disk.maxPartSize

instance (path : Text) : Decidable path.IsPassable :=
  decidable_of_iff
    (Path.null ∉ path ∧
      ∀ part ∈ path.splitAt Path.separator, (Utf8.fileOctets part).length ≤ Disk.maxPartSize)
    ⟨fun h => ⟨h.1, h.2⟩, fun h => ⟨h.noNull, h.parts⟩⟩

/-- A path can be followed part by part, but is too long as a whole. -/
structure Text.IsOverlong (path : Text) : Prop where
  nameable : path.IsNameable
  size : Disk.maxPathSize < (Utf8.fileOctets path).length

instance (path : Text) : Decidable path.IsOverlong :=
  decidable_of_iff (path.IsNameable ∧ Disk.maxPathSize < (Utf8.fileOctets path).length)
    ⟨fun h => ⟨h.1, h.2⟩, fun h => ⟨h.nameable, h.size⟩⟩

namespace Path

/-- Two paths that can be followed can be followed one behind the other. -/
theorem isPassable_join {a b : Text} (ha : a.IsPassable) (hb : b.IsPassable) :
    Text.IsPassable (a ++ separator :: b) where
  noNull := by
    have hseparator : null ≠ separator := by decide
    simp only [List.mem_append, List.mem_cons, not_or]
    exact ⟨ha.noNull, hseparator, hb.noNull⟩
  parts := by
    rw [Text.splitAt_append_separator]
    intro part hpart
    rcases List.mem_append.mp hpart with hpart | hpart
    · exact ha.parts part hpart
    · exact hb.parts part hpart

theorem isPassable_nil : Text.IsPassable [] := by decide

/-- The text of a path with one more part. -/
theorem toText_child (p : Path) (part : Text) :
    (p.child part).toText =
      if p.parts = [] then rootText p.root ++ part else p.toText ++ separator :: part := by
  obtain ⟨root, parts⟩ := p
  by_cases hparts : parts = []
  · subst hparts
    cases root <;> rfl
  · have hjoin : Text.joinWith [separator] (parts ++ [part]) =
        Text.joinWith [separator] parts ++ separator :: part := by
      rw [Text.joinWith_concat _ hparts, List.append_assoc]
      rfl
    have hchild : parts ++ [part] ≠ [] := by simp
    rw [if_neg hparts]
    cases root with
    | relative =>
      rw [toText_relative hparts]
      exact (toText_relative hchild).trans hjoin
    | slash =>
      show [separator] ++ Text.joinWith [separator] (parts ++ [part]) = _
      rw [hjoin]
      rfl
    | doubleSlash =>
      show [separator, separator] ++ Text.joinWith [separator] (parts ++ [part]) = _
      rw [hjoin]
      rfl

/-- A file in a directory has a path that can be followed if the directory has, and if its name can
be one. -/
theorem isPassable_child {p : Path} {part : Text} (hp : p.toText.IsPassable)
    (hpart : part.IsPassable) : (p.child part).toText.IsPassable := by
  rw [toText_child]
  split
  · cases p.root with
    | relative => exact hpart
    | slash => exact isPassable_join isPassable_nil hpart
    | doubleSlash => exact isPassable_join isPassable_nil (isPassable_join isPassable_nil hpart)
  · exact isPassable_join hp hpart

/-- The text of a path is made of slashes, a dot, and what was in the text that named it. -/
theorem mem_of_mem_toText {t : Text} {c : CodePoint} (h : c ∈ (ofText t).toText) :
    c = separator ∨ c = '.' ∨ c ∈ t := by
  have hroot : ∀ root, c ∈ rootText root → c = separator := by
    intro root hc
    cases root with
    | relative => cases hc
    | slash => exact List.mem_singleton.mp hc
    | doubleSlash => simpa [rootText] using hc
  unfold toText at h
  split at h
  · exact .inr (.inl (List.mem_singleton.mp h))
  · rcases List.mem_append.mp h with h | h
    · exact .inl (hroot _ h)
    · rcases Text.mem_of_mem_joinWith h with h | ⟨part, hpart, h⟩
      · exact .inl (List.mem_singleton.mp h)
      · exact .inr (.inr (Text.mem_of_mem_splitAt (List.mem_filter.mp hpart).1 h))

/-- A path is handed to the system if the text that named it could be. -/
theorem pathError?_toText {t : Text} (h : t.pathError? = none) :
    (ofText t).toText.pathError? = none := by
  obtain ⟨hnameable, hnull⟩ := Text.pathError?_eq_none_iff.mp h
  rw [Text.isNameable_iff] at hnameable
  rw [Bool.eq_false_iff, Ne, contains_null] at hnull
  refine Text.pathError?_eq_none_iff.mpr ⟨Text.isNameable_iff.mpr fun c hc => ?_, ?_⟩
  · rcases mem_of_mem_toText hc with rfl | rfl | hc
    · decide
    · decide
    · exact hnameable c hc
  · rw [Bool.eq_false_iff, Ne, contains_null]
    intro hmem
    rcases mem_of_mem_toText hmem with hmem | hmem | hmem
    · exact absurd hmem (by decide)
    · exact absurd hmem (by decide)
    · exact hnull hmem

end Path

namespace Disk

variable {d d' : Disk} {location : Location} {path part : Text} {parts : List Text}

def hasFile (d : Disk) (path : Text) : Bool :=
  match d.status path with
  | .ok (some (.file _)) => true
  | _ => false

theorem enter_error {why : Refusal} (hpart : (Utf8.fileOctets part).length ≤ maxPartSize)
    (h : d.enter location part = .error why) : why = .notFound ∨ why = .notDirectory := by
  unfold enter at h
  split at h
  · cases h; exact .inl rfl
  · cases h; exact .inr rfl
  · cases h; exact .inr rfl
  · split at h
    · cases h
    · split at h
      · cases h
      · rw [if_neg (Nat.not_lt.mpr hpart)] at h
        cases h

theorem walk_error {why : Refusal}
    (hparts : ∀ part ∈ parts, (Utf8.fileOctets part).length ≤ maxPartSize)
    (h : d.walk location parts = .error why) : why = .notFound ∨ why = .notDirectory := by
  induction parts generalizing location with
  | nil => cases h
  | cons part parts ih =>
    rw [walk] at h
    split at h
    · next henter =>
      cases h
      exact enter_error (hparts part List.mem_cons_self) henter
    · exact ih (fun part hpart => hparts part (List.mem_cons_of_mem _ hpart)) h

/-- A path that is too long is refused, whatever is on the disk. -/
theorem locate_of_overlong (hnull : Path.null ∉ path) (hlong : path.IsOverlong) :
    d.locate path = .error (.refused .nameTooLong path) := by
  have hne : path ≠ [] := by
    rintro rfl
    exact Nat.not_lt_zero _ hlong.size
  unfold locate
  rw [Text.isNameable_iff.mpr hlong.nameable]
  simp only [if_neg (mt Path.contains_null.mp hnull), if_neg hne, if_pos hlong.size]

/-- Any other path that can be followed leads somewhere, or something is missing on the way. -/
theorem locate_of_passable (hnameable : path.IsNameable) (h : path.IsPassable)
    (hshort : ¬ path.IsOverlong) :
    (∃ location, d.locate path = .ok location) ∨
      d.locate path = .error (.refused .notFound path) ∨
      d.locate path = .error (.refused .notDirectory path) := by
  have hsize : ¬ maxPathSize < (Utf8.fileOctets path).length := fun hsize =>
    hshort ⟨hnameable, hsize⟩
  unfold locate
  rw [Text.isNameable_iff.mpr hnameable]
  simp only [if_neg (mt Path.contains_null.mp h.noNull), if_neg hsize]
  split
  · exact .inr (.inl rfl)
  · split
    · next why hwalk =>
      right
      rcases walk_error h.parts hwalk with rfl | rfl
      · exact .inl rfl
      · exact .inr rfl
    · next location _ => exact .inl ⟨location, rfl⟩

/-- A path that is not handed to the system is not followed. -/
theorem locate_of_pathError? {error : FileError} (h : path.pathError? = some error) :
    d.locate path = .error error := by
  revert h
  unfold Text.pathError? locate
  cases Utf8.firstBadSurrogates Utf8.isUnnameable path with
  | some encoding =>
    intro h
    cases h
    rfl
  | none =>
    cases path.contains '\x00' with
    | true =>
      intro h
      cases h
      rfl
    | false =>
      intro h
      cases h

/-- A path with a surrogate that no name has is not followed. -/
theorem locate_of_not_isNameable (h : ¬ path.IsNameable) :
    ∃ error, d.locate path = .error (.unencodable error) := by
  cases hbad : Utf8.firstBadSurrogates Utf8.isUnnameable path with
  | none => exact absurd (Text.isNameable_iff.mp hbad) h
  | some error =>
    refine ⟨error, locate_of_pathError? ?_⟩
    unfold Text.pathError?
    rw [hbad]

/-- **Whether a file lies at a path**, or the refusal of a path that is too long. -/
theorem isFile_of_passable (h : path.IsPassable) :
    d.isFile path =
      if path.IsOverlong then .error (.refused .nameTooLong path) else .ok (d.hasFile path) := by
  by_cases hlong : path.IsOverlong
  · have hstatus : d.status path = .error (.refused .nameTooLong path) := by
      simp only [status, locate_of_overlong h.noNull hlong]
    rw [if_pos hlong, isFile, hstatus]
  · obtain ⟨entry, hstatus⟩ : ∃ entry, d.status path = .ok entry := by
      unfold status
      by_cases hnameable : path.IsNameable
      · rcases locate_of_passable (d := d) hnameable h hlong with
          ⟨location, hlocate⟩ | hlocate | hlocate <;> simp [hlocate]
      · obtain ⟨error, hlocate⟩ := locate_of_not_isNameable (d := d) hnameable
        exact ⟨none, by rw [hlocate]⟩
    rw [if_neg hlong, isFile, hasFile, hstatus]
    rcases entry with _ | _ | _ | _ <;> rfl

/-! ## Paths that are not handed to the system -/

/-- Nothing is read at such a path. -/
theorem read_of_pathError? {error : FileError} (h : path.pathError? = some error) :
    d.read path = .error error := by
  unfold read
  rw [locate_of_pathError? h]

/-- Any other path is refused by the system if nothing is read there. -/
theorem refused_of_read {error : FileError} (hpath : path.pathError? = none)
    (h : d.read path = .error error) : ∃ why, error = .refused why path := by
  obtain ⟨hnameable, hnull⟩ := Text.pathError?_eq_none_iff.mp hpath
  unfold read at h
  cases hlocate : d.locate path with
  | error other =>
    rw [hlocate] at h
    cases h
    unfold locate at hlocate
    rw [hnameable] at hlocate
    simp only [hnull, Bool.false_eq_true, if_false] at hlocate
    split at hlocate
    · cases hlocate; exact ⟨_, rfl⟩
    · split at hlocate
      · cases hlocate; exact ⟨_, rfl⟩
      · split at hlocate <;> cases hlocate
        exact ⟨_, rfl⟩
  | ok location =>
    rw [hlocate] at h
    simp only at h
    split at h <;> cases h <;> exact ⟨_, rfl⟩

/-- A path that leads somewhere has been handed to the system. -/
theorem pathError?_of_locate (h : d.locate path = .ok location) : path.pathError? = none := by
  obtain ⟨hnameable, hnull, -⟩ := locate_eq_ok_iff.mp h
  exact Text.pathError?_eq_none_iff.mpr ⟨hnameable, hnull⟩

end Disk

/-! ## Shapes -/

/-- What is seen of an entry without looking into files. -/
def Entry.emptied : Entry → Entry
  | .file _ => .file []
  | .directory => .directory
  | .void => .void

namespace Disk

/-- Two disks have the same files, directories and voids at the same places, whatever the files
hold, and the same working directory. -/
structure SameShape (d d' : Disk) : Prop where
  home : d'.home = d.home
  entries : ∀ location,
    (d'.entry? location).map Entry.emptied = (d.entry? location).map Entry.emptied

variable {d d' : Disk} {location : Location} {path part : Text} {parts : List Text}

namespace SameShape

theorem refl (d : Disk) : SameShape d d := ⟨rfl, fun _ => rfl⟩

theorem trans {d'' : Disk} (h : SameShape d d') (h' : SameShape d' d'') : SameShape d d'' where
  home := h'.home.trans h.home
  entries := fun location => (h'.entries location).trans (h.entries location)

theorem enter (h : SameShape d d') : d'.enter location part = d.enter location part := by
  have hentries := h.entries location
  unfold Disk.enter
  rcases hnew : d'.entry? location with _ | _ | _ | _ <;>
    rcases hold : d.entry? location with _ | _ | _ | _ <;>
    simp_all [Entry.emptied]

theorem walk (h : SameShape d d') : d'.walk location parts = d.walk location parts := by
  induction parts generalizing location with
  | nil => rfl
  | cons part parts ih =>
    unfold Disk.walk
    rw [h.enter]
    split
    · rfl
    · exact ih

/-- Paths lead to the same places on disks of one shape. -/
theorem locate (h : SameShape d d') : d'.locate path = d.locate path := by
  unfold Disk.locate
  rw [h.walk, h.home]

/-- **Files lie at the same places** on disks of one shape. -/
theorem hasFile (h : SameShape d d') : d'.hasFile path = d.hasFile path := by
  unfold Disk.hasFile Disk.status
  rw [h.locate]
  cases d.locate path with
  | error error => rcases error with _ | _ | ⟨_ | _ | _ | _ | _, _⟩ <;> rfl
  | ok location =>
    have hentries := h.entries location
    rcases hnew : d'.entry? location with _ | _ | _ | _ <;>
      rcases hold : d.entry? location with _ | _ | _ | _ <;>
      simp_all [Entry.emptied]

end SameShape

end Disk

end RequestCheck
