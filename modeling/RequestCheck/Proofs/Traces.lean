import RequestCheck.Proofs.Draining
import RequestCheck.Proofs.Journal

/-!
# What checks leave behind

Checks leave messages behind, and nothing else that a report or a file would show: the output stays
as it is, and so do the journal, the time and all files that the journal does not write to.

    s.Traced s'     s' is s but for messages, calls, readings and the mark of a failure
-/

namespace RequestCheck

/-- What one session has more than another is messages, calls to the engine, readings of the clock
and the mark of a failure. -/
structure Session.Traced (s s' : Session) : Prop where
  journal_eq : s'.journal = s.journal
  now_eq : s'.now = s.now
  output_eq : s'.output = s.output
  disk_keeps : Disk.Keeps s.journal.Writes s.disk s'.disk
  console_lines : ∃ t, Text.WholeLines t ∧ s'.console = s.console ++ t

namespace Session.Traced

variable {s s' s'' : Session}

theorem refl (s : Session) : Traced s s where
  journal_eq := rfl
  now_eq := rfl
  output_eq := rfl
  disk_keeps := Disk.Keeps.refl s.disk
  console_lines := ⟨[], Text.WholeLines.nil, by rw [List.append_nil]⟩

theorem trans (h : Traced s s') (h' : Traced s' s'') : Traced s s'' where
  journal_eq := by rw [h'.journal_eq, h.journal_eq]
  now_eq := by rw [h'.now_eq, h.now_eq]
  output_eq := by rw [h'.output_eq, h.output_eq]
  disk_keeps := by
    have key := h'.disk_keeps
    rw [h.journal_eq] at key
    exact h.disk_keeps.trans key
  console_lines := by
    obtain ⟨t, ht, hs'⟩ := h.console_lines
    obtain ⟨t', ht', hs''⟩ := h'.console_lines
    exact ⟨t ++ t', ht.append ht', by rw [hs'', hs', List.append_assoc]⟩

/-- A session that shows nothing new has the traces that it had. -/
theorem of_eq (hjournal : s'.journal = s.journal) (hnow : s'.now = s.now)
    (houtput : s'.output = s.output) (hdisk : s'.disk = s.disk)
    (hconsole : s'.console = s.console) : Traced s s' where
  journal_eq := hjournal
  now_eq := hnow
  output_eq := houtput
  disk_keeps := by rw [hdisk]; exact Disk.Keeps.refl s.disk
  console_lines := ⟨[], Text.WholeLines.nil, by rw [hconsole, List.append_nil]⟩

theorem log (s : Session) (k : Runtime) (origin : Origin) (level : Journal.Level)
    (message : Text) : Traced s (s.log k origin level message) where
  journal_eq := rfl
  now_eq := rfl
  output_eq := rfl
  disk_keeps := (s.journal.write_traces s.now level _ s.disk).1
  console_lines := ⟨_, (s.journal.write_traces s.now level _ s.disk).2, rfl⟩

end Session.Traced

namespace Checker

variable (e : Engine) (k : Runtime) (origin : Origin) (r : Request) (s : Session)

theorem note_traced (c : Checker) (v : Verdict) : s.Traced (c.note origin r v s) := by
  unfold note
  split
  · next message _ =>
    exact (Session.Traced.log s c.runtime origin .error (rejection r message)).trans
      (Session.Traced.of_eq rfl rfl rfl rfl rfl)
  · exact Session.Traced.refl s

end Checker

end RequestCheck
