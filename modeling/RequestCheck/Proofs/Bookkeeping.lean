import RequestCheck.Proofs.Failures
import RequestCheck.Proofs.Traces

/-!
# The books of a checker

A checker with a metrics file keeps four books: the calls to its engine, the answers that it has
given, the mark of a failure, and the rows of the file. If the rows can be written down and nothing
else writes to the file, these agree after any turns, however the streams are interleaved: there is
one call and one row for each answer, in order.

    s.Books p base notes       the file at p is left to the rows, and has those of the notes
    i.Enters p base s items s'     one call, one row and one answer for each check  (Checks.enters)
    rows = those of the answers, and the mark is one of the flags           (rows_of_checks)
-/

namespace RequestCheck

/-! ## A file that is left to the rows -/

/-- The metrics file holds some octets and the rows of some notes, and the journal does not write to
it. -/
structure Session.Books (p : Path) (base : Octets) (notes : List Note) (s : Session) : Prop where
  file : Metrics.Extends p base notes s.disk
  apart : ∀ location, s.disk.locate p.toText = .ok location → ¬ s.journal.Writes location

variable {p : Path} {base : Octets} {notes : List Note}

/-- Messages that go elsewhere leave the file as it is. -/
theorem Session.Books.traced {s s' : Session} (h : s.Books p base notes) (ht : s.Traced s') :
    s'.Books p base notes := by
  obtain ⟨location, hlocate, hentry⟩ := h.file.file
  have hlocate' := ht.disk_keeps.locate hlocate
  refine ⟨⟨ht.disk_keeps.isDirectory h.file.directory, ⟨location, hlocate', ?_⟩, h.file.encodable⟩,
    fun other hother => ?_⟩
  · rw [ht.disk_keeps.entry_eq location (h.apart location hlocate), hentry]
  · rw [hlocate'] at hother
    cases hother
    rw [ht.journal_eq]
    exact h.apart location hlocate

def Note.ofAnswer (now latency : Int) (item : Answered) : Note :=
  { now, request := item.1, type := item.1.query.type, verdict := item.2, latency }

namespace Checker

variable {c : Checker} {s s' : Session} {r : Request} {v : Verdict}

/-- A row that is written is one more row in the file. -/
theorem books_record {latency : Int} (hm : c.metrics = some { path := p })
    (h : s.Books p base notes) (hrecord : c.record r r.query.type latency v s = (.ok v, s')) :
    s'.Books p base (notes ++ [Note.ofAnswer s.now latency (r, v)]) := by
  obtain ⟨result, d', hlog, hresult⟩ := h.file.log (Note.ofAnswer s.now latency (r, v))
  have hlog' : Metrics.log { path := p } s.now r r.query.type v latency s.disk = (result, d') :=
    hlog
  obtain ⟨location, hlocate, -⟩ := h.file.file
  have hgrows := Disk.additive_grows.row { path := p } s.now r r.query.type v latency s.disk
  rw [hlog'] at hgrows
  unfold record at hrecord
  simp only [hm, hlog'] at hrecord
  cases result with
  | error failure => cases hrecord
  | ok =>
    cases hrecord
    refine ⟨hresult, fun other hother => ?_⟩
    rw [hgrows.locate hlocate] at hother
    cases hother
    exact h.apart location hlocate

/-- **A check** that comes to a verdict is one more row in the file. -/
theorem books_check (hm : c.metrics = some { path := p }) (h : s.Books p base notes)
    (hcheck : c.check r s = (.ok v, s')) :
    ∃ latency, s'.Books p base (notes ++ [Note.ofAnswer s.now latency (r, v)]) := by
  have hv := verdict?_of_check hcheck
  unfold check at hcheck
  rw [ask_eq, hv] at hcheck
  simp only at hcheck
  have hcalled : s.Traced (s.tick.2.call r.query) := Session.Traced.of_eq rfl rfl rfl rfl rfl
  have hnoted := hcalled.trans (note_traced .stream r (s.tick.2.call r.query) c v)
  generalize c.note .stream r v (s.tick.2.call r.query) = noted at hcheck hnoted
  unfold finish at hcheck
  simp only at hcheck
  split at hcheck
  · cases hcheck
  · next latency _ =>
    have hticked : noted.Traced noted.tick.2 := Session.Traced.of_eq rfl rfl rfl rfl rfl
    have hlogged := (hnoted.trans hticked).trans
      (Session.Traced.log noted.tick.2 c.runtime .stream .debug (trace r r.query.type v))
    have hbooks := books_record hm (h.traced hlogged) hcheck
    rw [hlogged.now_eq] at hbooks
    exact ⟨latency, hbooks⟩

end Checker

namespace Inspector

variable {i : Inspector} {s s' : Session} {items : List Answered}

/-- Between two sessions, there were one call and one row for each answer, in order; the mark of a
failure is the one that was there, or that of an answer. -/
structure Enters (p : Path) (base : Octets) (s : Session) (items : List Answered) (s' : Session) :
    Prop where
  calls_eq : s'.calls = s.calls ++ items.map fun item => item.1.query
  mark_iff : s'.anyFailure = true ↔ s.anyFailure = true ∨ ∃ item ∈ items, item.2.failed = true
  reports : ∀ item ∈ items, ∃ reply, item.2.Reports reply
  books : ∀ notes, s.Books p base notes →
    ∃ more, s'.Books p base (notes ++ more) ∧
      List.Forall₂ (fun item note => ∃ latency, note = Note.ofAnswer s.now latency item) items more

/-- **A run** in which each check is recorded enters all of them. -/
theorem Checks.enters (h : i.Checks Request.IsEncodable s items s')
    (hm : i.metrics = some { path := p }) (hdecides : ∀ calls q, (i.oracle calls q).Decides)
    (hs : (i.checker s).Records s) : Enters p base s items s' := by
  induction h with
  | refl s =>
    exact {
      calls_eq := (List.append_nil _).symm
      mark_iff := ⟨.inl, fun h => h.resolve_right fun ⟨_, hmem, _⟩ => by cases hmem⟩
      reports := fun item hitem => by cases hitem
      books := fun notes hbooks => ⟨[], by rw [List.append_nil]; exact hbooks, .nil⟩ }
  | @error s s1 s2 r failure items hr hcheck rest ih =>
    -- the row for a request without surrogates can be written down
    exfalso
    obtain ⟨v, hv⟩ := (hdecides s.calls r.query).verdict?
    have hok := (hs.check_result r hv).ok hr
    rw [hcheck] at hok
    cases hok
  | @ok s s1 s2 r v items hr hcheck rest ih =>
    have hreports := Engine.reports_of_verdict? (Checker.verdict?_of_check hcheck)
    have hs1 : ((i.checker s).check r s).2 = s1 := congrArg Prod.snd hcheck
    obtain ⟨hcalls, hmark⟩ := anyFailure_check hcheck
    have hnow := (i.checker s).check_now r s
    have hrecords := hs.check r
    rw [hs1] at hnow hrecords
    have hrest := ih ⟨hrecords.metrics, hrecords.now, hrecords.steady, hrecords.short⟩
    refine ⟨?_, ?_, fun item hitem => ?_, fun notes hbooks => ?_⟩
    · rw [hrest.calls_eq, hcalls, List.append_assoc]
      rfl
    · rw [hrest.mark_iff, hmark, or_assoc]
      simp only [List.mem_cons, exists_eq_or_imp, hreports.failed_iff]
      rfl
    · rcases List.mem_cons.mp hitem with rfl | hitem
      · exact ⟨_, hreports⟩
      · exact hrest.reports item hitem
    · obtain ⟨latency, hentered⟩ := Checker.books_check hm hbooks hcheck
      obtain ⟨more, hmore, hall⟩ := hrest.books _ hentered
      rw [hnow] at hall
      rw [List.append_assoc] at hmore
      exact ⟨_, hmore, .cons ⟨latency, rfl⟩ hall⟩

end Inspector

/-! ## Flags -/

theorem Metrics.flag_eq_one_iff (b : Bool) : some (flag b) = some ("1" : Text) ↔ b = true := by
  cases b <;> decide

/-- The flags in the row of an answer are those of the verdict. -/
theorem Note.flags_ofAnswer (now latency : Int) (item : Answered) :
    ((ofAnswer now latency item).row[6]? = some ("1" : Text) ↔ item.2.matched = true) ∧
      ((ofAnswer now latency item).row[7]? = some ("1" : Text) ↔ item.2.failed = true) :=
  ⟨Metrics.flag_eq_one_iff item.2.matched, Metrics.flag_eq_one_iff item.2.failed⟩

/-- Of two lists that go together, either both have one of a kind or none has. -/
theorem exists_mem_iff_of_forall₂ {α β : Type} {R : α → β → Prop} {P : α → Prop} {Q : β → Prop}
    {l : List α} {l' : List β} (h : List.Forall₂ R l l') (hR : ∀ a b, R a b → (P a ↔ Q b)) :
    (∃ a ∈ l, P a) ↔ ∃ b ∈ l', Q b := by
  induction h with
  | nil => simp
  | cons hab _ ih => simp only [List.mem_cons, exists_eq_or_imp, hR _ _ hab, ih]

/-! ## Top theorem -/

/-- **The books agree.** If the metrics file was fresh when it was made ready and nothing else writes
to it, then after any turns it holds one row for each answer, in order: what was asked, with which
type the engine was called, and what the answer was. No row says both that the request matched and
that the check failed, and the mark of a failure is set if and only if some row says that a check
failed. -/
theorem rows_of_checks (o : Oracle) (k : Runtime) (path : Text) (d : Disk) (s : Session)
    (turns : List Turn) (hfresh : Metrics.Fresh path d)
    (hdisk : s.disk = (Metrics.prepare path d).2)
    (hjournal : ∀ location, s.disk.locate (Path.ofText path).toText = .ok location →
      ¬ s.journal.Writes location)
    (hnow : Calendar.rangeError? s.now = none) (hsteady : s.clock.Steady) (hshort : s.clock.Short)
    (hdecides : ∀ calls q, (o calls q).Decides)
    (hturns : ∀ turn ∈ turns, turn.Within k.nesting Request.IsEncodable) :
    let i : Inspector :=
      { oracle := o, metrics := some { path := Path.ofText path }, runtime := k }
    let v := i.serveAll { session := s.renewed } turns
    (Metrics.prepare path d).1 = .ok { path := Path.ofText path } ∧
      v.session.calls = (v.answered.map fun item => item.1.query) ∧
      ∃ octets text rows, v.session.disk.read (Path.ofText path).toText = .ok octets ∧
        Utf8.decode octets = .ok text ∧ Csv.rows text = Metrics.columns :: rows ∧
        List.Forall₂ (fun (item : Answered) (row : Csv.Row) => ∃ latency,
          row = [Calendar.timestamp s.now, item.1.url, item.1.context, item.1.type,
            item.1.query.type, Text.ofInt latency, if item.2.matched then "1" else "0",
            if item.2.failed then "1" else "0"]) v.answered rows ∧
        (∀ row ∈ rows, ¬ (row[6]? = some ("1" : Text) ∧ row[7]? = some ("1" : Text))) ∧
        (v.session.anyFailure = true ↔ ∃ row ∈ rows, row[7]? = some ("1" : Text)) := by
  intro i v
  obtain ⟨d', hprepare, hextends⟩ := hfresh.prepare
  rw [hprepare] at hdisk
  obtain rfl : s.disk = d' := hdisk
  obtain ⟨location, hlocate, hentry⟩ := hextends.file
  have hrecords : (i.checker s.renewed).Records s.renewed :=
    { metrics := ⟨_, rfl, _, Disk.status_eq_some_iff.mpr ⟨location, hlocate, hentry⟩⟩
      now := hnow
      steady := hsteady
      short := hshort }
  obtain ⟨⟨items, hchecks, hanswered⟩, -⟩ :=
    Inspector.serveAll_checks (i := i) (v := { session := s.renewed })
      (fun k hk => by cases hk) hturns
  obtain rfl : v.answered = items := hanswered
  have henters : Inspector.Enters (Path.ofText path) Metrics.headerOctets s.renewed v.answered
      v.session := hchecks.enters rfl hdecides hrecords
  obtain ⟨notes, hbooks, hnotes⟩ := henters.books [] ⟨hextends, hjournal⟩
  have hholds := Metrics.holds_iff_extends.mpr hbooks.file
  obtain ⟨location', hlocate', hentry'⟩ := hholds.file
  have hrows : List.Forall₂ (fun (item : Answered) (row : Csv.Row) => ∃ latency,
      row = (Note.ofAnswer s.now latency item).row) v.answered (notes.map Note.row) :=
    List.forall₂_map_right_iff.mpr
      (hnotes.imp fun item note ⟨latency, hnote⟩ => ⟨latency, by rw [hnote]; rfl⟩)
  refine ⟨congrArg Prod.fst hprepare, henters.calls_eq, _, _, notes.map Note.row, ?_,
    Utf8.decode_encodePoints hholds.encodable, Metrics.rows_fileText notes, hrows, ?_, ?_⟩
  · unfold Disk.read
    rw [hlocate']
    simp only [hentry']
  · intro row hrow hboth
    obtain ⟨⟨r, verdict⟩, hitem, hmatched, hfailed⟩ :=
      (exists_mem_iff_of_forall₂ (P := fun item => item.2.matched = true ∧ item.2.failed = true)
        (Q := fun row => row[6]? = some ("1" : Text) ∧ row[7]? = some ("1" : Text)) hrows
        fun item row ⟨latency, hrow⟩ => by
          obtain ⟨hmatched, hfailed⟩ := Note.flags_ofAnswer s.now latency item
          rw [hrow, hmatched, hfailed]).mpr ⟨row, hrow, hboth⟩
    obtain ⟨reply, hreports⟩ := henters.reports _ hitem
    rw [(hreports.of_failed hfailed).2.1] at hmatched
    cases hmatched
  · have hmark : v.session.anyFailure = true ↔ ∃ item ∈ v.answered, item.2.failed = true := by
      rw [henters.mark_iff]
      exact ⟨fun h => h.resolve_left fun hs => (by cases hs), .inr⟩
    rw [hmark]
    exact exists_mem_iff_of_forall₂ hrows fun item row ⟨latency, hrow⟩ => by
      rw [hrow, (Note.flags_ofAnswer s.now latency item).2]

/-- A stream with one line, and a single request before the line is taken; the engine rejects the
first thing that it is asked, and finds a match for the second. -/
theorem rows_of_rejection_and_match :
    let o : Oracle := fun calls _ =>
      if calls = [] then .raised { kind := .invalidValue, detail := "empty host" }
      else .answered { matched := some (.boolean true) }
    let s : Session := { disk := (Metrics.prepare "m.csv" {}).2 }
    let line : Text := "\x7b\"url\": \"u\", \"context\": \"c\", \"type\": \"IMAGE\"\x7d"
    let turns : List Turn :=
      [.start [.text line], .check { url := "v", context := "", type := "x" }, .drain 0]
    let i : Inspector := { oracle := o, metrics := some { path := Path.ofText "m.csv" } }
    let v := i.serveAll { session := s.renewed } turns
    v.answered.length = 2 ∧
      ∃ octets text rows, v.session.disk.read "m.csv" = .ok octets ∧
        Utf8.decode octets = .ok text ∧ Csv.rows text = Metrics.columns :: rows ∧
        rows.length = 2 ∧ v.session.anyFailure = true ∧
        ∃ row ∈ rows, row[7]? = some ("1" : Text) := by
  intro o s line turns i v
  have hline : Line.request? i.runtime.nesting (.text line) =
      some { url := "u", context := "c", type := "IMAGE" } := by
    decide +kernel
  have hturns : ∀ turn ∈ turns, turn.Within i.runtime.nesting Request.IsEncodable := by
    intro turn hturn
    simp only [turns, List.mem_cons, List.not_mem_nil, or_false] at hturn
    rcases hturn with rfl | rfl | rfl
    · intro l hl r hr
      rw [List.mem_singleton.mp hl, hline] at hr
      cases hr
      decide
    · exact (by decide : Request.IsEncodable { url := "v", context := "", type := "x" })
    · trivial
  obtain ⟨-, -, octets, text, rows, hread, hdecode, hrows, hall, -, hmark⟩ :=
    rows_of_checks o {} "m.csv" {} s turns ⟨{}, ["m.csv"], rfl, rfl, .inl rfl⟩ rfl
      (fun _ _ hwrites => by obtain ⟨sink, hsink, -⟩ := hwrites; cases hsink) (by decide)
      (Clock.steady_whole [0]) Clock.short_still
      (fun calls q => by by_cases h : calls = [] <;> simp [o, h, Engine.Reply.Decides]) hturns
  have hanswered : v.answered.length = 2 := by decide +kernel
  have hset : v.session.anyFailure = true := by decide +kernel
  exact ⟨hanswered, octets, text, rows, hread, hdecode, hrows, hall.length_eq ▸ hanswered, hset,
    hmark.mp hset⟩

end RequestCheck
