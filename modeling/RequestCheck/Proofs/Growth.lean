import RequestCheck.Checker
import RequestCheck.Proofs.Checking
import RequestCheck.Proofs.Journal

/-!
# Files that only grow

Checks add to files and never take anything away: a file that was there stays where it was, with its
content in front of what is added. So what a checker needs of its metrics file it has after any
check, even if the journal writes to the same file.

    d.Grows d'                  each file of d is one of d', with its content in front
    Additive R                  R holds between a disk and the disk behind any addition to a file
    R s.disk (c.ask q r s).2.disk                                              (Additive.ask)
-/

namespace RequestCheck

namespace Disk

variable {d d' d'' : Disk} {location : Location} {path : Text} {content content' : Octets}

/-- Files keep what they hold, and may get more behind it; directories are directories still. -/
structure Grows (d d' : Disk) : Prop where
  home_eq : d'.home = d.home
  file : ∀ location content, d.entry? location = some (.file content) →
    ∃ content', d'.entry? location = some (.file content') ∧ content <+: content'
  directory : ∀ location, d.entry? location = some .directory →
    d'.entry? location = some .directory

namespace Grows

theorem refl (d : Disk) : Grows d d :=
  ⟨rfl, fun _ content h => ⟨content, h, List.prefix_refl content⟩, fun _ h => h⟩

theorem trans (h : Grows d d') (h' : Grows d' d'') : Grows d d'' where
  home_eq := by rw [h'.home_eq, h.home_eq]
  file := by
    intro location content hentry
    obtain ⟨content', hentry', hprefix⟩ := h.file location content hentry
    obtain ⟨content'', hentry'', hprefix'⟩ := h'.file location content' hentry'
    exact ⟨content'', hentry'', hprefix.trans hprefix'⟩
  directory := fun location hd => h'.directory location (h.directory location hd)

/-- Ways through directories are kept. -/
theorem locate (h : Grows d d') (hlocate : d.locate path = .ok location) :
    d'.locate path = .ok location :=
  (Keeps.mk h.home_eq (fun _ hnot => absurd trivial hnot) h.directory :
    Keeps (fun _ => True) d d').locate hlocate

/-- A file is where it was. -/
theorem status (h : Grows d d') (hfile : d.status path = .ok (some (.file content))) :
    ∃ content', d'.status path = .ok (some (.file content')) ∧ content <+: content' := by
  obtain ⟨location, hlocate, hentry⟩ := status_eq_some_iff.mp hfile
  obtain ⟨content', hentry', hprefix⟩ := h.file location content hentry
  exact ⟨content', status_eq_some_iff.mpr ⟨location, h.locate hlocate, hentry'⟩, hprefix⟩

/-- What was no directory may become a file that begins with what was there. -/
theorem put (hdirectory : d.entry? location ≠ some .directory)
    (hcontent : ∀ content, d.entry? location = some (.file content) → content <+: content') :
    Grows d (d.put location (.file content')) where
  home_eq := rfl
  file := by
    intro other content hother
    rw [entry_put (ne_nil_of_ne_directory hdirectory)]
    split
    · next heq =>
      rw [heq] at hother
      exact ⟨content', rfl, hcontent content hother⟩
    · exact ⟨content, hother, List.prefix_refl content⟩
  directory := by
    intro other hother
    rw [entry_put (ne_nil_of_ne_directory hdirectory), if_neg]
    · exact hother
    · rintro rfl
      exact hdirectory hother

end Grows

theorem append_grows {octets : Octets} (h : d.append path octets = .ok d') : Grows d d' := by
  unfold append modify at h
  split at h
  · cases h
  · split at h
    · next hentry =>
      cases h
      refine Grows.put (by rw [hentry]; simp) fun content hfile => ?_
      rw [hentry] at hfile
      cases hfile
    · cases h
    · cases h
      exact Grows.refl _
    · next content hentry =>
      cases h
      refine Grows.put (by rw [hentry]; simp) fun content' hfile => ?_
      rw [hentry] at hfile
      cases hfile
      exact List.prefix_append _ _

end Disk

/-! ## What every check keeps -/

/-- A relation of disks that holds between a disk and the disk behind any addition to a file. -/
structure Disk.Additive (R : Disk → Disk → Prop) : Prop where
  refl : ∀ d, R d d
  trans : ∀ {d d' d''}, R d d' → R d' d'' → R d d''
  append : ∀ {d d' : Disk} {path : Text} {octets : Octets}, d.append path octets = .ok d' → R d d'
  extend : ∀ (location : Location) (octets : Octets) (d : Disk),
    R d (Journal.extend d location octets)

namespace Disk.Additive

variable {R : Disk → Disk → Prop}

/-- **A message** only adds to files. -/
theorem write (h : Additive R) (j : Journal) (now : Int) (level : Journal.Level)
    (message : Journal.Message) (d : Disk) : R d (j.write now level message d).1 :=
  Journal.write_relates h.refl h.trans (fun location octets d _ => h.extend location octets d)
    now level message d

/-- **A row** is only added. -/
theorem row (h : Additive R) (m : Metrics) (now : Int) (r : Request) (type : Text) (v : Verdict)
    (latency : Int) (d : Disk) : R d (m.log now r type v latency d).2 := by
  unfold Metrics.log
  split
  · exact h.refl d
  · split
    · exact h.refl d
    · next opened hopened =>
      have hopen := h.append hopened
      split
      · exact hopen
      · split
        · exact hopen
        · next added hadded => exact h.trans hopen (h.append hadded)

theorem note (h : Additive R) (c : Checker) (origin : Origin) (r : Request) (v : Verdict)
    (s : Session) : R s.disk (c.note origin r v s).disk := by
  unfold Checker.note
  split
  · exact h.write s.journal s.now .error _ s.disk
  · exact h.refl _

theorem record (h : Additive R) (c : Checker) (r : Request) (type : Text) (latency : Int)
    (v : Verdict) (s : Session) : R s.disk (c.record r type latency v s).2.disk := by
  unfold Checker.record
  split
  · exact h.refl _
  · next m _ =>
    have key := h.row m s.now r type v latency s.disk
    split
    · next hlog => rw [hlog] at key; exact key
    · next hlog => rw [hlog] at key; exact key

theorem finish (h : Additive R) (c : Checker) (origin : Origin) (r : Request) (type : Text)
    (start : Reading) (v : Verdict) (s : Session) :
    R s.disk (c.finish origin r type start v s).2.disk := by
  unfold Checker.finish
  simp only
  split
  · exact h.refl _
  · exact h.trans (h.write s.journal s.now .debug _ s.disk)
      (h.record c r type _ v (s.tick.2.log c.runtime origin .debug _))

/-- **A check** only adds to files. -/
theorem ask (h : Additive R) (c : Checker) (origin : Origin) (q : Engine.Query) (r : Request)
    (s : Session) : R s.disk (c.ask origin q r s).2.disk := by
  rw [Checker.ask_eq]
  split
  · exact h.refl _
  · next v _ =>
    exact h.trans (h.note c origin r v (s.tick.2.call q)) (h.finish c origin r q.type _ v _)

end Disk.Additive

theorem Disk.additive_grows : Additive Grows where
  refl := .refl
  trans := .trans
  append := append_grows
  extend := by
    intro location octets d
    unfold Journal.extend
    split
    · next content hentry =>
      refine Grows.put (by rw [hentry]; simp) fun content' hfile => ?_
      rw [hentry] at hfile
      cases hfile
      exact List.prefix_append _ _
    · exact Grows.refl d

end RequestCheck
