import RequestCheck.Proofs.Extension
import RequestCheck.Proofs.MetricsFile
import RequestCheck.Proofs.Paths

/-!
# Metrics files that were there before

A file that is not empty is checked when it is made ready, and left as it is. A file that starts
with the header is only ever added to. If it ends in a complete row, the rows of the notes stand
behind its own, and the file can be made ready as often as one likes. An empty file gets the header
row first.

    rowsOf octets                                      the rows of a file
    rowsOf (after) = rowsOf (before) ++ rows of the notes         (rows_of_existing)

A file that is not empty may lack the end of its last row. Then the first note goes on with that row,
and a header that was the last row is one no more (`rows_of_unended`).
-/

namespace RequestCheck

namespace Metrics

/-- The rows of a file; what is not UTF-8 in it is read as replacement characters. -/
def rowsOf (octets : Octets) : List Csv.Row := Csv.rows (Utf8.decodeLossy octets)

variable {p : Path} {path : Text} {base content : Octets} {u : Text} {notes : List Note} {d : Disk}

/-! ## The header -/

/-- **The header** of a file that ends in a complete row is the first row whatever is added. -/
theorem checkHeader_append (hclosed : Csv.Closed (Utf8.decodeLossy base))
    (hcheck : checkHeader p base = .ok ()) (hu : Utf8.Encodable u)
    (hhead : u.head? ≠ some Text.lineFeed) :
    checkHeader p (base ++ u.flatMap Utf8.encodePoint) = .ok () := by
  have hrow : firstRow base = .ok columns := by
    unfold checkHeader at hcheck
    split at hcheck
    · cases hcheck
    · next row hrow =>
      split at hcheck
      · next heq => rw [hrow, heq]
      · cases hcheck
  have hmore : firstRow (base ++ u.flatMap Utf8.encodePoint) = .ok columns := by
    unfold firstRow at hrow ⊢
    rw [Utf8.decodeChunks_append chunkSize (Utf8.endsBetween_of_closed hclosed) hu]
    cases hchunks : Utf8.decodeChunks chunkSize base with
    | mk t error =>
      rw [hchunks] at hrow
      cases error with
      | some error => exact hrow
      | none =>
        obtain rfl : t = Utf8.decodeLossy base := Utf8.text_of_decodeChunks hchunks
        simp only [Option.isNone_none, if_true, hclosed.lines_append hhead] at hrow ⊢
        cases hfirst : Csv.firstRow {} (Text.lines (Utf8.decodeLossy base)) with
        | complete row =>
          rw [hfirst] at hrow
          rw [Csv.firstRow_append _ hfirst]
          exact hrow
        | fieldTooLong => rw [hfirst] at hrow; cases hrow
        | unfinished reader =>
          -- no row was complete, but nothing is left of one either: the text is empty
          rw [hfirst, Csv.reader_eq_of_firstRow hfirst, hclosed.reader_eq] at hrow
          cases hrow
  unfold checkHeader
  rw [hmore]
  exact if_pos rfl

theorem closed_headerOctets : Csv.Closed (Utf8.decodeLossy headerOctets) := by
  have hlines : Text.lines (Csv.writeRow columns) = [Csv.writeRow columns] := by
    have key := lines_header []
    rwa [List.append_nil] at key
  unfold headerOctets
  rw [Utf8.decodeLossy_encodePoints encodable_header]
  refine ⟨.inl (by decide), ?_⟩
  rw [hlines]
  rfl

/-! ## Rows -/

theorem rowsOf_append (hclosed : Csv.Closed (Utf8.decodeLossy base))
    (hnotes : Utf8.Encodable (rowsText notes)) :
    rowsOf (base ++ (rowsText notes).flatMap Utf8.encodePoint) =
      rowsOf base ++ notes.map Note.row := by
  have hhead : (rowsText notes).head? ≠ some Text.lineFeed := Csv.head_flatMap_writeRow _
  unfold rowsOf
  rw [Utf8.decodeLossy_append (Utf8.endsBetween_of_closed hclosed) hnotes,
    hclosed.rows_append hhead, rows_rowsText]

/-- What a file holds once it has been made ready, if it was there before: its content, or the
header row if it was empty. -/
def readyOctets (content : Octets) : Octets := if content = [] then headerOctets else content

theorem closed_readyOctets (hend : content = [] ∨ Csv.Closed (Utf8.decodeLossy content)) :
    Csv.Closed (Utf8.decodeLossy (readyOctets content)) := by
  unfold readyOctets
  split
  · exact closed_headerOctets
  · next hne => exact hend.resolve_left hne

theorem rowsOf_readyOctets (content : Octets) :
    rowsOf (readyOctets content) = if content = [] then [columns] else rowsOf content := by
  unfold readyOctets
  split
  · unfold rowsOf headerOctets
    rw [Utf8.decodeLossy_encodePoints encodable_header]
    exact rows_fileText []
  · rfl

/-! ## Making the file ready -/

/-- **A file that is not empty** is checked when it is made ready, and nothing is changed. -/
theorem prepare_of_content
    (hfile : d.status (Path.ofText path).toText = .ok (some (.file content)))
    (hcontent : content ≠ []) :
    Metrics.prepare path d =
      ((checkHeader (Path.ofText path) content).map fun _ => { path := Path.ofText path }, d) := by
  have hdirectory := Disk.isDirectory_parent (Path.isProper_ofText path) hfile
  have hensure : ensureHeader (Path.ofText path) d =
      (checkHeader (Path.ofText path) content, d) := by
    obtain ⟨b, rest, rfl⟩ := List.exists_cons_of_ne_nil hcontent
    unfold ensureHeader
    rw [hfile]
  simp only [Metrics.prepare, Disk.makeParents_of_isDirectory hdirectory, hensure]
  cases checkHeader (Path.ofText path) content <;> rfl

/-- An empty file is as good as a missing one. -/
theorem fresh_of_empty (hfile : d.status (Path.ofText path).toText = .ok (some (.file []))) :
    Fresh path d := by
  have hdirectory := Disk.isDirectory_parent (Path.isProper_ofText path) hfile
  obtain ⟨location, hlocate, hentry⟩ := Disk.status_eq_some_iff.mp hfile
  exact ⟨d, location, Disk.makeParents_of_isDirectory hdirectory, hlocate, .inr hentry⟩

/-- **Making an existing file ready** writes the header row if it is empty, and finds the header if
it is not. -/
theorem prepare_existing {m : Metrics}
    (hfile : d.status (Path.ofText path).toText = .ok (some (.file content)))
    (hready : (Metrics.prepare path d).1 = .ok m) :
    ∃ d', Metrics.prepare path d = (.ok { path := Path.ofText path }, d') ∧
      Extends (Path.ofText path) (readyOctets content) [] d' ∧
      checkHeader (Path.ofText path) (readyOctets content) = .ok () := by
  by_cases hcontent : content = []
  · subst hcontent
    obtain ⟨d', hprepare, hextends⟩ := (fresh_of_empty hfile).prepare
    refine ⟨d', hprepare, hextends, ?_⟩
    have key := @checkHeader_headerOctets (Path.ofText path) [] fun c hc => by cases hc
    rwa [show rowsText [] = [] from rfl, List.flatMap_nil, List.append_nil] at key
  · have hprepare := prepare_of_content hfile hcontent
    rw [show readyOctets content = content from if_neg hcontent]
    cases hcheck : checkHeader (Path.ofText path) content with
    | error failure => rw [hprepare, hcheck] at hready; cases hready
    | ok =>
      rw [hcheck] at hprepare
      obtain ⟨location, hlocate, hentry⟩ := Disk.status_eq_some_iff.mp hfile
      have hdirectory := Disk.isDirectory_parent (Path.isProper_ofText path) hfile
      refine ⟨d, hprepare, ⟨hdirectory, ⟨location, hlocate, ?_⟩, fun c hc => by cases hc⟩, rfl⟩
      rw [hentry]
      exact congrArg (fun octets => some (Entry.file octets)) (List.append_nil _).symm

/-- Making the file ready again changes nothing, whatever notes there are. -/
theorem prepare_again (hclosed : Csv.Closed (Utf8.decodeLossy base))
    (hcheck : checkHeader (Path.ofText path) base = .ok ())
    (h : Extends (Path.ofText path) base notes d) :
    Metrics.prepare path d = (.ok { path := Path.ofText path }, d) := by
  refine h.prepare ?_ (checkHeader_append hclosed hcheck h.encodable (Csv.head_flatMap_writeRow _))
  rintro rfl
  rcases hclosed.last with hlast | hlast <;> cases hlast

end Metrics

/-! ## Top theorem -/

/-- **A metrics file that was there before** and is empty or ends in a complete row can be made
ready again and again once it has been made ready. Its rows, or the header row if it was empty, are
followed by one row for each note that a logger has taken, in order; if it was UTF-8, it still is. -/
theorem rows_of_existing (path : Text) (d : Disk) (content : Octets) (m : Metrics)
    (hfile : d.status (Path.ofText path).toText = .ok (some (.file content)))
    (hready : (Metrics.prepare path d).1 = .ok m)
    (hend : content = [] ∨ Csv.Closed (Utf8.decodeLossy content))
    (actions : List Ledger.Action) :
    let l := Ledger.actAll { disk := d } path (.prepare :: actions)
    l.loggers.length = 1 + actions.countP Ledger.Action.isPrepare ∧
      ∃ octets, l.disk.read (Path.ofText path).toText = .ok octets ∧
        (content <+: octets) ∧
        (∀ t, Utf8.decode content = .ok t → ∃ t', Utf8.decode octets = .ok t') ∧
        Metrics.rowsOf octets =
          (if content = [] then [Metrics.columns] else Metrics.rowsOf content) ++
            l.notes.map fun note =>
              [Calendar.timestamp note.now, note.request.url, note.request.context,
                note.request.type, note.type, Text.ofInt note.latency,
                if note.verdict.matched then "1" else "0",
                if note.verdict.failed then "1" else "0"] := by
  obtain ⟨d', hprepare, hextends, hcheck⟩ := Metrics.prepare_existing hfile hready
  have hclosed := Metrics.closed_readyOctets hend
  have hfirst : Ledger.actAll { disk := d } path (.prepare :: actions) =
      Ledger.actAll { disk := d', loggers := [{ path := Path.ofText path }] } path actions := by
    show Ledger.actAll (Ledger.act { disk := d } path .prepare) path actions = _
    simp only [Ledger.act, hprepare, List.nil_append]
  obtain ⟨hfollows, hlength⟩ := Ledger.actAll_follows
    (fun notes d => Metrics.prepare_again hclosed hcheck)
    (show Ledger.Follows path (Metrics.readyOctets content)
        { disk := d', loggers := [{ path := Path.ofText path }] } from
      ⟨fun m hm => List.mem_singleton.mp hm, hextends⟩)
    actions
  rw [hfirst]
  refine ⟨hlength, ?_⟩
  generalize Ledger.actAll _ path actions = l at hfollows
  obtain ⟨location, hlocate, hentry⟩ := hfollows.file.file
  have hencodable := hfollows.file.encodable
  refine ⟨Metrics.readyOctets content ++ (Metrics.rowsText l.notes).flatMap Utf8.encodePoint,
    ?_, ?_, ?_, ?_⟩
  · unfold Disk.read
    rw [hlocate]
    simp only [hentry]
  · unfold Metrics.readyOctets
    split
    · next hnil => rw [hnil]; exact ⟨_, rfl⟩
    · exact List.prefix_append _ _
  · intro t ht
    have hready : ∃ t', Utf8.decode (Metrics.readyOctets content) = .ok t' := by
      unfold Metrics.readyOctets
      split
      · exact ⟨_, Utf8.decode_encodePoints Metrics.encodable_header⟩
      · exact ⟨t, ht⟩
    obtain ⟨t', ht'⟩ := hready
    exact ⟨_, Utf8.decode_append (Utf8.endsBetween_of_closed hclosed) hencodable ht'⟩
  · rw [Metrics.rowsOf_append hclosed hencodable, Metrics.rowsOf_readyOctets]
    rfl

def Note.sample : Note where
  now := 0
  request := { url := "u, v", context := "\r\n", type := "Image" }
  type := "image"
  verdict := { matched := true }
  latency := 7

/-- A file with the header and a row of its own, which ends in a carriage return only. -/
theorem rows_of_existing_row :
    let content : Octets :=
      Metrics.headerOctets ++ (Text.ofString "a,\"b\n\",\r").flatMap Utf8.encodePoint
    let d : Disk := { entries := [(["m.csv"], .file content)] }
    let l := Ledger.actAll { disk := d } "m.csv" [.prepare, .log 0 .sample, .prepare]
    d.status "m.csv" = .ok (some (.file content)) ∧
      (Metrics.prepare "m.csv" d).1 = .ok { path := Path.ofText "m.csv" } ∧
      Csv.Closed (Utf8.decodeLossy content) ∧ l.loggers.length = 2 ∧
      ∃ octets, l.disk.read "m.csv" = .ok octets ∧
        Metrics.rowsOf octets = Metrics.rowsOf content ++ l.notes.map Note.row := by
  intro content d l
  have hfile : d.status "m.csv" = .ok (some (.file content)) := by rfl
  have hready : (Metrics.prepare "m.csv" d).1 = .ok { path := Path.ofText "m.csv" } := by rfl
  have hclosed : Csv.Closed (Utf8.decodeLossy content) :=
    ⟨by decide +kernel, by decide +kernel⟩
  obtain ⟨hlength, octets, hread, -, -, hrows⟩ :=
    rows_of_existing "m.csv" d content _ hfile hready (.inr hclosed) [.log 0 .sample, .prepare]
  exact ⟨hfile, hready, hclosed, hlength, octets, hread, hrows⟩

/-- An empty file gets a header row before the row of the note. Where the header lacks its line end
the note goes on with the header, and the file cannot be made ready again. -/
theorem rows_of_unended :
    let unended := Metrics.headerOctets.take (Metrics.headerOctets.length - 2)
    let filled := Ledger.actAll { disk := { entries := [(["m.csv"], .file [])] } } "m.csv"
      [.prepare, .log 0 .sample]
    let torn := Ledger.actAll { disk := { entries := [(["m.csv"], .file unended)] } } "m.csv"
      [.prepare, .log 0 .sample, .prepare]
    (filled.loggers.length = 1 ∧ filled.notes.map Note.row = [Note.sample.row] ∧
      (filled.disk.read "m.csv").map Metrics.rowsOf = .ok [Metrics.columns, Note.sample.row] ∧
      (filled.disk.read "m.csv").map Metrics.rowsOf ≠
        .ok (Metrics.rowsOf [] ++ filled.notes.map Note.row)) ∧
    (torn.loggers.length = 1 ∧ torn.notes.map Note.row = [Note.sample.row] ∧
      (torn.disk.read "m.csv").map Metrics.rowsOf =
        .ok [Metrics.columns.dropLast ++
          ("failed" ++ Calendar.timestamp 0 : Text) :: Note.sample.row.tail] ∧
      (torn.disk.read "m.csv").map Metrics.rowsOf ≠
        .ok (Metrics.rowsOf unended ++ torn.notes.map Note.row)) := by
  refine ⟨⟨?_, ?_, ?_, ?_⟩, ?_, ?_, ?_, ?_⟩
  all_goals decide +kernel

end RequestCheck
