import RequestCheck.Proofs.ExistingFile
import RequestCheck.Proofs.Recording

/-!
# Metrics files are append-only

Whatever a file holds, making it ready and handing notes to the loggers only adds to it, and it does
not matter which of this fails. A file that is not empty is left alone when it is made ready; a note
adds its row as a whole or nothing.

    a.Leaves l p before after     what the action a makes of the content of the file  (act_leaves)
    content <+: before <+: after      for any actions and one more           (content_of_actions)
-/

namespace RequestCheck

/-! ## Notes -/

/-- The system can tell the date, the latency is not too long, and no field has a surrogate. -/
structure Note.IsWritable (note : Note) : Prop where
  moment : Calendar.rangeError? note.now = none
  latency : (Text.ofNat note.latency.natAbs).length ≤ Text.maxIntegerDigits
  fields : ∀ field ∈ note.row, Utf8.Encodable field

namespace Metrics

variable {m : Metrics} {path : Text} {d : Disk} {content : Octets} {note : Note}

/-! ## One action -/

/-- **A note that can be written down** adds its row. -/
theorem log_of_isWritable (hfile : d.status m.path.toText = .ok (some (.file content)))
    (hnote : note.IsWritable) :
    ∃ octets d', rowOctets note.row = .ok octets ∧
      m.log note.now note.request note.type note.verdict note.latency d = (.ok (), d') ∧
      d'.status m.path.toText = .ok (some (.file (content ++ octets))) := by
  have hrow := rowOctets_eq_ok_iff.mpr ⟨(Csv.encodable_writeRow_iff _).mpr hnote.fields, rfl⟩
  have hlog :=
    log_of_file hfile hnote.moment note.request note.type note.verdict note.latency
  rw [checkOctets_eq_ok_iff.mpr ⟨hnote.latency, hrow⟩] at hlog
  obtain ⟨d', hlogged, hstatus⟩ := hlog
  exact ⟨_, d', hrow, hlogged, hstatus⟩

/-- **Any other note** adds nothing. -/
theorem log_of_not_isWritable (hfile : d.status m.path.toText = .ok (some (.file content)))
    (hnote : ¬ note.IsWritable) :
    ∃ failure d',
      m.log note.now note.request note.type note.verdict note.latency d = (.error failure, d') ∧
      d'.status m.path.toText = .ok (some (.file content)) := by
  cases hmoment : Calendar.rangeError? note.now with
  | some error =>
    refine ⟨.moment error, d, ?_, hfile⟩
    unfold log
    rw [hmoment]
  | none =>
    have hlog := log_of_file hfile hmoment note.request note.type note.verdict note.latency
    cases hoctets : checkOctets note.now note.request note.type note.verdict note.latency with
    | error failure =>
      rw [hoctets] at hlog
      exact ⟨failure, hlog⟩
    | ok octets =>
      obtain ⟨hlatency, hrow⟩ := checkOctets_eq_ok_iff.mp hoctets
      have hfields := (Csv.encodable_writeRow_iff _).mp (rowOctets_eq_ok_iff.mp hrow).1
      exact absurd ⟨hmoment, hlatency, hfields⟩ hnote

theorem path_of_prepare {d' : Disk} (h : Metrics.prepare path d = (.ok m, d')) :
    m.path = Path.ofText path := by
  simp only [Metrics.prepare] at h
  split at h
  · cases h
  · split at h
    · cases h
    · cases h
      rfl

/-- **An empty file** gets the header row when it is made ready. -/
theorem prepare_of_empty (hfile : d.status (Path.ofText path).toText = .ok (some (.file []))) :
    ∃ d', Metrics.prepare path d = (.ok { path := Path.ofText path }, d') ∧
      d'.status (Path.ofText path).toText = .ok (some (.file headerOctets)) := by
  obtain ⟨d', hprepare, hextends⟩ := (fresh_of_empty hfile).prepare
  obtain ⟨location, hlocate, hentry⟩ := hextends.file
  rw [show headerOctets ++ (rowsText []).flatMap Utf8.encodePoint = headerOctets from
    List.append_nil _] at hentry
  exact ⟨d', hprepare, Disk.status_eq_some_iff.mpr ⟨location, hlocate, hentry⟩⟩

end Metrics

namespace Ledger

/-- What an action comes to, and what it makes of the content of the file. A note that is taken adds
one row with its line end, and one that is not adds nothing. -/
def Action.Leaves (l : Ledger) (path : Text) (before after : Octets) : Action → Prop
  | .prepare =>
    if before = [] then
      (Metrics.prepare path l.disk).1 = .ok { path := Path.ofText path } ∧
        after = Metrics.headerOctets
    else (l.act path .prepare).disk = l.disk ∧ after = before
  | .log logger note =>
    match l.loggers[logger]? with
    | none => l.act path (.log logger note) = l
    | some m =>
      match (m.log note.now note.request note.type note.verdict note.latency l.disk).1 with
      | .error _ => ¬ note.IsWritable ∧ after = before
      | .ok () =>
        note.IsWritable ∧ ∃ text octets,
          Utf8.encode text = .ok octets ∧ after = before ++ octets ∧
            Csv.rows text = [note.row] ∧ [Text.carriageReturn, Text.lineFeed] <:+ text

variable {path : Text} {content before : Octets} {l : Ledger}

/-- The loggers are for the file at a path, which has some content and maybe more behind it. -/
structure OnFile (path : Text) (content : Octets) (l : Ledger) : Prop where
  path_eq : ∀ m ∈ l.loggers, m.path = Path.ofText path
  file : ∃ now, l.disk.status (Path.ofText path).toText = .ok (some (.file now)) ∧ content <+: now

/-- A new logger is for the file that was made ready. -/
theorem act_path (h : ∀ m ∈ l.loggers, m.path = Path.ofText path) (action : Action) :
    ∀ m ∈ (l.act path action).loggers, m.path = Path.ofText path := by
  cases action with
  | prepare =>
    simp only [act]
    split
    · exact h
    · next logger _ hprepare =>
      intro m hm
      rcases List.mem_append.mp hm with hm | hm
      · exact h m hm
      · rw [List.mem_singleton.mp hm]
        exact Metrics.path_of_prepare hprepare
  | log logger note =>
    simp only [act]
    split
    · exact h
    · split
      · exact h
      · exact h

/-- **One action** adds to the file. -/
theorem act_leaves (hpath : ∀ m ∈ l.loggers, m.path = Path.ofText path)
    (hfile : l.disk.status (Path.ofText path).toText = .ok (some (.file before)))
    (action : Action) :
    ∃ after, (l.act path action).disk.status (Path.ofText path).toText = .ok (some (.file after)) ∧
      before <+: after ∧ action.Leaves l path before after := by
  cases action with
  | prepare =>
    by_cases hbefore : before = []
    · subst hbefore
      obtain ⟨d', hprepare, hstatus⟩ := Metrics.prepare_of_empty hfile
      simp only [act, Action.Leaves, hprepare, if_true]
      exact ⟨_, hstatus, List.nil_prefix, trivial, rfl⟩
    · have hprepare := Metrics.prepare_of_content hfile hbefore
      simp only [act, Action.Leaves, hprepare, if_neg hbefore]
      cases Metrics.checkHeader (Path.ofText path) before with
      | error failure => exact ⟨before, hfile, List.prefix_refl _, rfl, rfl⟩
      | ok => exact ⟨before, hfile, List.prefix_refl _, rfl, rfl⟩
  | log logger note =>
    simp only [act, Action.Leaves]
    cases hm : l.loggers[logger]? with
    | none => exact ⟨before, hfile, List.prefix_refl _, rfl⟩
    | some m =>
      rw [← hpath m (List.mem_of_getElem? hm)] at hfile ⊢
      by_cases hnote : note.IsWritable
      · obtain ⟨octets, d', hrow, hlog, hstatus⟩ := Metrics.log_of_isWritable hfile hnote
        simp only [hlog]
        have hread : Csv.rows (Csv.writeRow note.row) = [note.row] := by
          have key := Csv.rows_writeRow (Metrics.two_le_length_row note) []
          rwa [List.append_nil] at key
        exact ⟨_, hstatus, List.prefix_append _ _, hnote, Csv.writeRow note.row, octets, hrow, rfl,
          hread, List.suffix_append _ _⟩
      · obtain ⟨failure, d', hlog, hstatus⟩ := Metrics.log_of_not_isWritable hfile hnote
        simp only [hlog]
        exact ⟨before, hstatus, List.prefix_refl _, hnote, rfl⟩

/-- **All actions** leave the content in front. -/
theorem actAll_onFile (h : l.OnFile path content) (actions : List Action) :
    (l.actAll path actions).OnFile path content := by
  induction actions generalizing l with
  | nil => exact h
  | cons action actions ih =>
    obtain ⟨before, hfile, hcontent⟩ := h.file
    obtain ⟨after, hafter, hbefore, -⟩ := act_leaves h.path_eq hfile action
    exact ih ⟨act_path h.path_eq action, after, hafter, hcontent.trans hbefore⟩

end Ledger

/-! ## Top theorem -/

/-- **A metrics file is append-only**, whatever it holds to begin with and whichever actions fail:
each action leaves what the file held before in front. Making the file ready changes nothing if it
is not empty; a note adds its row as a whole, or it fails and adds nothing. -/
theorem content_of_actions (path : Text) (d : Disk) (content : Octets)
    (hfile : d.status (Path.ofText path).toText = .ok (some (.file content)))
    (actions : List Ledger.Action) (action : Ledger.Action) :
    let l := Ledger.actAll { disk := d } path actions
    ∃ before after : Octets,
      l.disk.status (Path.ofText path).toText = .ok (some (.file before)) ∧
      (l.act path action).disk.status (Path.ofText path).toText = .ok (some (.file after)) ∧
      (content <+: before) ∧ (before <+: after) ∧ action.Leaves l path before after := by
  intro l
  have hstart : Ledger.OnFile path content { disk := d } :=
    ⟨fun m hm => (by cases hm), content, hfile, List.prefix_refl _⟩
  have hl := Ledger.actAll_onFile hstart actions
  obtain ⟨before, hbefore, hcontent⟩ := hl.file
  obtain ⟨after, hafter, hprefix, hleaves⟩ := Ledger.act_leaves hl.path_eq hbefore action
  exact ⟨before, after, hbefore, hafter, hcontent, hprefix, hleaves⟩

/-- A note with a lone surrogate, behind one that was taken. -/
theorem content_of_surrogate :
    let torn : Note :=
      { Note.sample with request := { url := [0xD800], context := "c", type := "image" } }
    let d : Disk := { entries := [(["m.csv"], .file Metrics.headerOctets)] }
    let l := Ledger.actAll { disk := d } "m.csv" [.prepare, .log 0 .sample]
    d.status "m.csv" = .ok (some (.file Metrics.headerOctets)) ∧
      l.notes.map Note.row = [Note.sample.row] ∧
      ∃ before, l.disk.status "m.csv" = .ok (some (.file before)) ∧
        (l.act "m.csv" (.log 0 torn)).disk.status "m.csv" = .ok (some (.file before)) ∧
        (Metrics.headerOctets <+: before) := by
  intro torn d l
  have hfile : d.status "m.csv" = .ok (some (.file Metrics.headerOctets)) := by rfl
  obtain ⟨before, after, hbefore, hafter, hheader, -, hleaves⟩ :=
    content_of_actions "m.csv" d Metrics.headerOctets hfile [.prepare, .log 0 .sample] (.log 0 torn)
  have hlogger : l.loggers[0]? = some { path := Path.ofText "m.csv" } := by decide +kernel
  have htorn : ¬ torn.IsWritable := fun h => by
    have key := h.fields [0xD800] (by simp [torn, Note.row, Metrics.row])
    exact absurd (key 0xD800 List.mem_cons_self) (by decide)
  refine ⟨hfile, by decide +kernel, before, hbefore, ?_, hheader⟩
  simp only [Ledger.Action.Leaves] at hleaves
  rw [show (Ledger.actAll { disk := d } "m.csv" [.prepare, .log 0 .sample]).loggers[0]? = _ from
    hlogger] at hleaves
  simp only at hleaves
  split at hleaves
  · rw [← hleaves.2]
    exact hafter
  · exact absurd hleaves.1 htorn

end RequestCheck
