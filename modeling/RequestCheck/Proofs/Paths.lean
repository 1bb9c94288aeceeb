import RequestCheck.Proofs.Disk
import RequestCheck.Proofs.Splitting
import RequestCheck.Proofs.Utf8

/-!
# The directory that a file lies in

The text of a path is followed through its parts; what else it is split into are parts that lead
nowhere. The way to a file leads through the parent of its path, so a directory lies there, and there
is nothing to make on the way to the file.

    d.status p.toText = a file  →  d.isDirectory p.parent.toText        (isDirectory_parent)
-/

namespace RequestCheck

/-! ## Paths -/

namespace Path

variable {p : Path}

/-- No part is cut by a slash, and all of them lead somewhere. -/
def IsProper (p : Path) : Prop := ∀ part ∈ p.parts, separator ∉ part ∧ isIdle part = false

theorem isProper_ofText (t : Text) : (ofText t).IsProper := by
  intro part h
  obtain ⟨hmem, hidle⟩ := List.mem_filter.mp h
  exact ⟨Text.notMem_of_mem_splitAt hmem, by simpa using hidle⟩

theorem IsProper.parent (h : p.IsProper) : p.parent.IsProper :=
  fun part hpart => h part (List.dropLast_subset _ hpart)

theorem toText_relative {parts : List Text} (hparts : parts ≠ []) :
    (Path.mk .relative parts).toText = Text.joinWith [separator] parts := by
  obtain ⟨part, rest, rfl⟩ := List.exists_cons_of_ne_nil hparts
  rfl

/-- The text of a path is split into its parts, behind some that lead nowhere. -/
theorem IsProper.splitAt_toText (h : p.IsProper) :
    ∃ idle, (∀ part ∈ idle, isIdle part = true) ∧
      p.toText.splitAt separator = idle ++ p.parts := by
  obtain ⟨root, parts⟩ := p
  by_cases hparts : parts = []
  · subst hparts
    refine ⟨(Path.mk root []).toText.splitAt separator, ?_, (List.append_nil _).symm⟩
    cases root <;> decide
  · have hsplit := Text.splitAt_joinWith hparts fun part hpart => (h part hpart).1
    cases root with
    | relative =>
      refine ⟨[], fun part hpart => (by cases hpart), ?_⟩
      rw [toText_relative hparts, hsplit, List.nil_append]
    | slash =>
      refine ⟨[[]], by decide, ?_⟩
      show Text.splitAt separator ([] ++ separator :: Text.joinWith [separator] parts) = _
      rw [Text.splitAt_append_cons _ List.not_mem_nil, hsplit]
      rfl
    | doubleSlash =>
      refine ⟨[[], []], by decide, ?_⟩
      show Text.splitAt separator
        ([] ++ separator :: ([] ++ separator :: Text.joinWith [separator] parts)) = _
      rw [Text.splitAt_append_cons _ List.not_mem_nil, Text.splitAt_append_cons _ List.not_mem_nil,
        hsplit]
      rfl

/-- Only the text of a path from the root has a slash in front. -/
theorem IsProper.head_toText (h : p.IsProper) :
    ∃ c, p.toText.head? = some c ∧ (c = separator ↔ p.root ≠ .relative) := by
  obtain ⟨root, parts⟩ := p
  cases root with
  | slash => exact ⟨separator, rfl, by simp⟩
  | doubleSlash => exact ⟨separator, rfl, by simp⟩
  | relative =>
    cases parts with
    | nil => exact ⟨'.', rfl, by decide⟩
    | cons part rest =>
      obtain ⟨hpart, hidle⟩ := h part List.mem_cons_self
      cases part with
      | nil => cases hidle
      | cons c part =>
        have hc : c ≠ separator := fun hc => hpart (hc ▸ List.mem_cons_self)
        refine ⟨c, ?_, by simp [hc]⟩
        cases rest <;> rfl

/-- A text without a slash in front starts from the working directory. -/
theorem rootOf_eq_relative_iff (t : Text) : rootOf t = .relative ↔ t.head? ≠ some separator := by
  unfold rootOf
  cases t with
  | nil => exact ⟨fun _ h => (by cases h), fun _ => rfl⟩
  | cons c t =>
    rw [List.takeWhile_cons, List.head?_cons]
    by_cases hc : c = separator
    · rw [if_pos (by rw [hc]; exact beq_self_eq_true _), List.length_cons, hc]
      refine ⟨fun h => ?_, fun h => absurd rfl h⟩
      split at h
      · next hlength => omega
      · cases h
      · cases h
    · rw [if_neg (by simpa using hc)]
      exact ⟨fun _ h => hc (Option.some.inj h), fun _ => rfl⟩

/-- The text of a path starts from where the path does. -/
theorem IsProper.rootOf_toText (h : p.IsProper) :
    rootOf p.toText = .relative ↔ p.root = .relative := by
  obtain ⟨c, hhead, hc⟩ := h.head_toText
  rw [rootOf_eq_relative_iff, hhead, Ne, Option.some.injEq, hc]
  exact Decidable.not_not

theorem IsProper.toText_ne_nil (h : p.IsProper) : p.toText ≠ [] := by
  obtain ⟨c, hhead, -⟩ := h.head_toText
  rintro hnil
  rw [hnil] at hhead
  cases hhead

/-- The text of a path goes on from that of its parent, unless the parent is the working directory
itself. -/
theorem toText_parent (p : Path) :
    p.parent.toText <+: p.toText ∨ p.parent.toText = Text.ofString "." := by
  obtain ⟨root, parts⟩ := p
  have hfront := Text.joinWith_dropLast [separator] parts
  cases root with
  | slash => exact .inl ((List.prefix_append_right_inj [separator]).mpr hfront)
  | doubleSlash => exact .inl ((List.prefix_append_right_inj [separator, separator]).mpr hfront)
  | relative =>
    by_cases hparent : parts.dropLast = []
    · exact .inr (by unfold parent; rw [hparent]; rfl)
    · have hparts : parts ≠ [] := fun hnil => hparent (by rw [hnil]; rfl)
      left
      show (Path.mk .relative parts.dropLast).toText <+: (Path.mk .relative parts).toText
      rw [toText_relative hparent, toText_relative hparts]
      exact hfront

end Path

/-! ## Disks -/

namespace Disk

variable {d : Disk} {location other : Location} {path : Text} {part : Text} {parts : List Text}

theorem directory_of_enter (h : d.enter location part = .ok other) :
    d.entry? location = some .directory := by
  unfold enter at h
  split at h
  · cases h
  · cases h
  · cases h
  · next hentry => exact hentry

theorem directory_of_walk (h : d.walk location (part :: parts) = .ok other) :
    d.entry? location = some .directory := by
  rw [walk] at h
  split at h
  · cases h
  · next henter => exact directory_of_enter henter

theorem walk_append {before after : List Text}
    (h : d.walk location (before ++ after) = .ok other) :
    ∃ middle, d.walk location before = .ok middle ∧ d.walk middle after = .ok other := by
  induction before generalizing location with
  | nil => exact ⟨location, rfl, h⟩
  | cons part before ih =>
    rw [List.cons_append, walk] at h
    rw [walk]
    cases henter : d.enter location part with
    | error why => rw [henter] at h; cases h
    | ok next =>
      rw [henter] at h
      exact ih h

/-- Parts that lead nowhere are passed over in a directory. -/
theorem walk_idle {idle : List Text} (hdirectory : d.entry? location = some .directory)
    (hidle : ∀ part ∈ idle, Path.isIdle part = true) :
    d.walk location (idle ++ parts) = d.walk location parts := by
  induction idle with
  | nil => rfl
  | cons part idle ih =>
    have henter : d.enter location part = .ok location := by
      unfold enter
      rw [hdirectory]
      exact if_pos (hidle part List.mem_cons_self)
    rw [List.cons_append, walk, henter]
    exact ih fun part hmem => hidle part (List.mem_cons_of_mem _ hmem)

theorem length_fileOctets_mono {t u : Text} (h : t <+: u) :
    (Utf8.fileOctets t).length ≤ (Utf8.fileOctets u).length := by
  obtain ⟨rest, rfl⟩ := h
  unfold Utf8.fileOctets
  rw [List.flatMap_append, List.length_append]
  exact Nat.le_add_right _ _

/-- **The way to a file** leads through the parent of its path. -/
theorem isDirectory_parent {p : Path} {content : Octets} (hp : p.IsProper)
    (hfile : d.status p.toText = .ok (some (.file content))) :
    d.isDirectory p.parent.toText = .ok true := by
  obtain ⟨location, hlocate, hentry⟩ := status_eq_some_iff.mp hfile
  obtain ⟨hnameable, hnull, -, hsize, hwalk⟩ := locate_eq_ok_iff.mp hlocate
  -- both ways start in the same directory
  have hroot : Path.rootOf p.parent.toText = .relative ↔ Path.rootOf p.toText = .relative := by
    rw [hp.rootOf_toText, hp.parent.rootOf_toText]
    rfl
  obtain ⟨middle, hmiddle, hdirectory⟩ : ∃ middle,
      d.walk (if Path.rootOf p.parent.toText = .relative then d.home else [])
        (p.parent.toText.splitAt Path.separator) = .ok middle ∧
      d.entry? middle = some .directory := by
    obtain ⟨idle, hidle, hsplit⟩ := hp.splitAt_toText
    obtain ⟨idle', hidle', hsplit'⟩ := hp.parent.splitAt_toText
    simp only [hroot]
    generalize (if Path.rootOf p.toText = .relative then d.home else []) = start at hwalk
    rw [hsplit] at hwalk
    rw [hsplit']
    have hstart : d.entry? start = some .directory := by
      cases hall : idle ++ p.parts with
      | nil => exact absurd (hsplit.trans hall) (Text.splitAt_ne_nil _)
      | cons part rest => rw [hall] at hwalk; exact directory_of_walk hwalk
    rw [walk_idle hstart hidle] at hwalk
    rw [walk_idle hstart hidle']
    show ∃ middle, d.walk start p.parts.dropLast = .ok middle ∧ _
    by_cases hparts : p.parts = []
    · rw [hparts]
      exact ⟨start, rfl, hstart⟩
    · rw [← List.dropLast_concat_getLast hparts] at hwalk
      obtain ⟨middle, hmiddle, hlast⟩ := walk_append hwalk
      exact ⟨middle, hmiddle, directory_of_walk hlast⟩
  refine (isDirectory_iff d _).mpr ⟨middle, locate_eq_ok_iff.mpr ?_, hdirectory⟩
  rcases p.toText_parent with hfront | hhere
  · refine ⟨?_, ?_, hp.parent.toText_ne_nil,
      Nat.le_trans (length_fileOctets_mono hfront) hsize, hmiddle⟩
    · rw [Utf8.firstBadSurrogates_eq_none_iff] at hnameable ⊢
      exact fun c hc => hnameable c (hfront.subset hc)
    · rw [Bool.eq_false_iff] at hnull ⊢
      exact fun hmem => hnull (List.contains_iff_mem.mpr
        (hfront.subset (List.contains_iff_mem.mp hmem)))
  · rw [hhere] at hmiddle ⊢
    exact ⟨by decide, by decide, by decide, by decide, hmiddle⟩

end Disk

end RequestCheck
