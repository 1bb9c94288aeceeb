import RequestCheck.Ledger
import RequestCheck.Proofs.Csv
import RequestCheck.Proofs.Disk
import RequestCheck.Proofs.Utf8

/-!
# What a metrics file holds

A file that was missing or empty when it was first made ready holds the header row, and a row for
every note that a logger has taken. The invariant is

    the file at p = the octets of (header row :: rows of the notes)             (Metrics.Holds)

and more generally any octets with rows behind them (`Metrics.Extends`). Making the file ready once
more finds the header and changes nothing; a note that cannot be written down changes nothing
either, and any other adds its row (`Extends.prepare`, `Extends.log`). The text of rows is read as
these rows, whatever their fields hold.
-/

namespace RequestCheck

namespace Metrics

/-! ## The header -/

theorem encodable_header : Utf8.Encodable (Csv.writeRow columns) := by
  have hall : ((Csv.writeRow columns).all fun c => !c.isSurrogate) = true := by decide
  intro c hc
  have key := List.all_eq_true.mp hall c hc
  rw [Bool.not_eq_true'] at key
  exact key

theorem rowOctets_eq_ok_iff {row : Csv.Row} {octets : Octets} :
    rowOctets row = .ok octets ↔
      Utf8.Encodable (Csv.writeRow row) ∧ octets = (Csv.writeRow row).flatMap Utf8.encodePoint :=
  Utf8.encode_eq_ok_iff

theorem checkOctets_eq_ok_iff {now latency : Int} {r : Request} {type : Text} {v : Verdict}
    {octets : Octets} :
    checkOctets now r type v latency = .ok octets ↔
      (Text.ofNat latency.natAbs).length ≤ Text.maxIntegerDigits ∧
        rowOctets (row now r type v latency) = .ok octets := by
  unfold checkOctets
  by_cases hlong : Text.maxIntegerDigits < (Text.ofNat latency.natAbs).length
  · rw [if_pos hlong]
    exact ⟨fun h => (by cases h), fun h => absurd h.1 (Nat.not_le.mpr hlong)⟩
  · rw [if_neg hlong, and_iff_right (Nat.le_of_not_lt hlong)]
    cases rowOctets (row now r type v latency) with
    | error error => exact ⟨fun h => (by cases h), fun h => (by cases h)⟩
    | ok octets' => simp only [Except.ok.injEq]

/-- A text that starts with the header row has it as its first line. -/
theorem lines_header (t : Text) :
    Text.lines (Csv.writeRow columns ++ t) = Csv.writeRow columns :: Text.lines t := by
  have hall : ((Text.joinWith [Csv.comma] columns).all fun c =>
      c != Text.carriageReturn && c != Text.lineFeed) = true := by decide
  have hline : ∀ c ∈ Text.joinWith [Csv.comma] columns,
      c ≠ Text.carriageReturn ∧ c ≠ Text.lineFeed := by
    intro c hc
    have key := List.all_eq_true.mp hall c hc
    rw [Bool.and_eq_true, bne_iff_ne, bne_iff_ne] at key
    exact key
  have hwrite : Csv.writeRow columns =
      Text.joinWith [Csv.comma] columns ++ [Text.carriageReturn, Text.lineFeed] := by rfl
  have key := @Text.linesAfter_of_line [] _ t (by simp) hline
  rw [hwrite, List.append_assoc]
  exact key

/-- The header row is the first row of a file that starts with it. -/
theorem checkHeader_of_header (p : Path) {octets : Octets} {t : Text}
    (h : Utf8.decode octets = .ok (Csv.writeRow columns ++ t)) : checkHeader p octets = .ok () := by
  have hline : Csv.Reader.line {} (Csv.writeRow columns) = { fields := columns.reverse } := by rfl
  have hrow : firstRow octets = .ok columns := by
    unfold firstRow
    rw [Utf8.decodeChunks_of_decode chunkSize h]
    simp only [Option.isNone_none, if_true, lines_header, Csv.firstRow, hline]
    rfl
  unfold checkHeader
  rw [hrow]
  exact if_pos rfl

/-! ## Files with rows behind them -/

def rowsText (notes : List Note) : Text := (notes.map Note.row).flatMap Csv.writeRow

theorem rowsText_append (notes : List Note) (note : Note) :
    rowsText (notes ++ [note]) = rowsText notes ++ Csv.writeRow note.row := by
  unfold rowsText
  rw [List.map_append, List.flatMap_append, List.map_singleton, List.flatMap_singleton]

theorem two_le_length_row (note : Note) : 2 ≤ note.row.length := by
  show 2 ≤ 8
  decide

theorem rows_rowsText (notes : List Note) : Csv.rows (rowsText notes) = notes.map Note.row := by
  apply Csv.rows_flatMap_writeRow
  intro row hrow
  obtain ⟨note, -, rfl⟩ := List.mem_map.mp hrow
  exact two_le_length_row note

/-- The file at a path holds some octets and, behind them, the rows of some notes. -/
structure Extends (p : Path) (base : Octets) (notes : List Note) (d : Disk) : Prop where
  directory : d.isDirectory p.parent.toText = .ok true
  file : ∃ location, d.locate p.toText = .ok location ∧
    d.entry? location = some (.file (base ++ (rowsText notes).flatMap Utf8.encodePoint))
  encodable : Utf8.Encodable (rowsText notes)

variable {p : Path} {path : Text} {base : Octets} {notes : List Note} {d : Disk}

/-- What is put in place of the file leaves the way to it as it is. -/
theorem Extends.put {location : Location} (hdirectory : d.isDirectory p.parent.toText = .ok true)
    (hlocate : d.locate p.toText = .ok location) (hentry : d.entry? location ≠ some .directory)
    (hencodable : Utf8.Encodable (rowsText notes)) :
    Extends p base notes
      (d.put location (.file (base ++ (rowsText notes).flatMap Utf8.encodePoint))) := by
  have hkeeps : Disk.Keeps (· = location) d
      (d.put location (.file (base ++ (rowsText notes).flatMap Utf8.encodePoint))) :=
    Disk.Keeps.put rfl hentry
  refine ⟨hkeeps.isDirectory hdirectory, ⟨location, hkeeps.locate hlocate, ?_⟩, hencodable⟩
  rw [Disk.entry_put (Disk.ne_nil_of_ne_directory hentry), if_pos rfl]

/-- **Making the file ready again** changes nothing if its header passes. -/
theorem Extends.prepare (h : Extends (Path.ofText path) base notes d) (hbase : base ≠ [])
    (hcheck : checkHeader (Path.ofText path)
      (base ++ (rowsText notes).flatMap Utf8.encodePoint) = .ok ()) :
    Metrics.prepare path d = (.ok { path := Path.ofText path }, d) := by
  obtain ⟨location, hlocate, hentry⟩ := h.file
  have hstatus : d.status (Path.ofText path).toText = .ok (d.entry? location) := by
    unfold Disk.status
    rw [hlocate]
  have hensure : ensureHeader (Path.ofText path) d = (.ok (), d) := by
    obtain ⟨b, rest, rfl⟩ := List.exists_cons_of_ne_nil hbase
    unfold ensureHeader
    rw [hstatus, hentry]
    simp only [List.cons_append] at hcheck ⊢
    rw [hcheck]
  simp only [Metrics.prepare, Disk.makeParents_of_isDirectory h.directory, hensure]

/-- **Adding a row** adds the row for a note, or nothing if the note cannot be written down. -/
theorem Extends.log (h : Extends p base notes d) (note : Note) :
    ∃ result d',
      Metrics.log { path := p } note.now note.request note.type note.verdict note.latency d =
        (result, d') ∧
      match result with
      | .ok () => Extends p base (notes ++ [note]) d'
      | .error _ => Extends p base notes d' := by
  obtain ⟨location, hlocate, hentry⟩ := h.file
  have hfile : d.entry? location ≠ some .directory := by rw [hentry]; simp
  unfold Metrics.log
  split
  · exact ⟨_, d, rfl, h⟩
  · -- the file is opened before the row is made, which adds nothing to it
    have hopened : d.append p.toText [] =
        .ok (d.put location (.file (base ++ (rowsText notes).flatMap Utf8.encodePoint))) := by
      unfold Disk.append
      rw [Disk.modify_of_file _ hlocate hentry, List.append_nil]
    have hsame := @Extends.put p base notes d location h.directory hlocate hfile h.encodable
    generalize d.put location _ = opened at hopened hsame
    simp only [hopened]
    cases hoctets : checkOctets note.now note.request note.type note.verdict note.latency with
    | error failure => exact ⟨_, opened, rfl, hsame⟩
    | ok octets =>
      obtain ⟨location', hlocate', hentry'⟩ := hsame.file
      have hrow : rowOctets note.row = .ok octets := (checkOctets_eq_ok_iff.mp hoctets).2
      obtain ⟨hencodable, hflat⟩ := rowOctets_eq_ok_iff.mp hrow
      have hadded : opened.append p.toText octets =
          .ok (opened.put location'
            (.file (base ++ (rowsText (notes ++ [note])).flatMap Utf8.encodePoint))) := by
        unfold Disk.append
        rw [hflat, Disk.modify_of_file _ hlocate' hentry', rowsText_append, List.flatMap_append,
          List.append_assoc]
      simp only [hadded]
      refine ⟨_, _, rfl, Extends.put hsame.directory hlocate' (by rw [hentry']; simp) ?_⟩
      rw [rowsText_append]
      exact h.encodable.append hencodable

/-! ## The file -/

def headerOctets : Octets := (Csv.writeRow columns).flatMap Utf8.encodePoint

def fileText (notes : List Note) : Text := (columns :: notes.map Note.row).flatMap Csv.writeRow

theorem fileText_eq (notes : List Note) :
    fileText notes = Csv.writeRow columns ++ rowsText notes := List.flatMap_cons

/-- **The text of a metrics file** is read as the header row and the rows of the notes. -/
theorem rows_fileText (notes : List Note) :
    Csv.rows (fileText notes) = columns :: notes.map Note.row := by
  rw [fileText_eq, Csv.rows_writeRow (by decide), rows_rowsText]

/-- A file is missing or empty, in a directory that is there or can be made. -/
def Fresh (path : Text) (d : Disk) : Prop :=
  ∃ made location, d.makeParents (Path.ofText path).parent = (.ok (), made) ∧
    made.locate (Path.ofText path).toText = .ok location ∧
    (made.entry? location = none ∨ made.entry? location = some (.file []))

/-- The file at a path holds the header row and the rows of some notes. -/
structure Holds (p : Path) (notes : List Note) (d : Disk) : Prop where
  directory : d.isDirectory p.parent.toText = .ok true
  file : ∃ location, d.locate p.toText = .ok location ∧
    d.entry? location = some (.file ((fileText notes).flatMap Utf8.encodePoint))
  encodable : Utf8.Encodable (fileText notes)

/-- The rows of the notes stand behind the header row. -/
theorem holds_iff_extends : Holds p notes d ↔ Extends p headerOctets notes d := by
  have hoctets : (fileText notes).flatMap Utf8.encodePoint =
      headerOctets ++ (rowsText notes).flatMap Utf8.encodePoint := by
    rw [fileText_eq, List.flatMap_append]
    rfl
  constructor
  · rintro ⟨hdirectory, hfile, hencodable⟩
    rw [hoctets] at hfile
    rw [fileText_eq] at hencodable
    exact ⟨hdirectory, hfile, fun c hc => hencodable c (List.mem_append_right _ hc)⟩
  · rintro ⟨hdirectory, hfile, hencodable⟩
    refine ⟨hdirectory, by rw [hoctets]; exact hfile, ?_⟩
    rw [fileText_eq]
    exact encodable_header.append hencodable

/-- **Making a fresh file ready** writes the header row. -/
theorem Fresh.prepare (h : Fresh path d) :
    ∃ d', Metrics.prepare path d = (.ok { path := Path.ofText path }, d') ∧
      Extends (Path.ofText path) headerOctets [] d' := by
  obtain ⟨made, location, hmade, hlocate, hentry⟩ := h
  have hfile : made.entry? location ≠ some .directory := by
    rcases hentry with hentry | hentry <;> rw [hentry] <;> simp
  have hput := @Extends.put _ headerOctets [] made location (Disk.isDirectory_of_makeParents hmade)
    hlocate hfile fun c hc => (by cases hc)
  have hoctets : headerOctets ++ (rowsText []).flatMap Utf8.encodePoint = headerOctets :=
    List.append_nil _
  rw [hoctets] at hput
  refine ⟨_, ?_, hput⟩
  have hwrite : writeHeader (Path.ofText path) made =
      (.ok (), made.put location (.file headerOctets)) := by
    have hoverwrite : made.overwrite (Path.ofText path).toText headerOctets =
        .ok (made.put location (.file headerOctets)) := by
      unfold Disk.overwrite
      rcases hentry with hentry | hentry
      · rw [Disk.modify_of_none _ hlocate hentry]
      · rw [Disk.modify_of_file _ hlocate hentry]
    have hrow : rowOctets columns = .ok headerOctets :=
      rowOctets_eq_ok_iff.mpr ⟨encodable_header, rfl⟩
    unfold writeHeader
    rw [hrow]
    simp only [hoverwrite]
  have hstatus : made.status (Path.ofText path).toText = .ok (made.entry? location) := by
    unfold Disk.status
    rw [hlocate]
  have hensure : ensureHeader (Path.ofText path) made = writeHeader (Path.ofText path) made := by
    unfold ensureHeader
    rw [hstatus]
    rcases hentry with hentry | hentry <;> rw [hentry]
  simp only [Metrics.prepare, hmade, hensure, hwrite]

/-- The header is found in front of any rows. -/
theorem checkHeader_headerOctets (h : Utf8.Encodable (rowsText notes)) :
    checkHeader p (headerOctets ++ (rowsText notes).flatMap Utf8.encodePoint) = .ok () := by
  unfold headerOctets
  rw [← List.flatMap_append]
  exact checkHeader_of_header p (Utf8.decode_encodePoints (encodable_header.append h))

end Metrics

/-! ## Ledgers -/

namespace Ledger

/-- The loggers are those of the file at a path, which holds some octets and the rows of what they
have noted. -/
structure Follows (path : Text) (base : Octets) (l : Ledger) : Prop where
  loggers_eq : ∀ m ∈ l.loggers, m = { path := Path.ofText path }
  file : Metrics.Extends (Path.ofText path) base l.notes l.disk

/-- Before the file has been made ready nothing has happened; from then on it holds what the loggers
have noted. -/
structure Sound (path : Text) (d : Disk) (l : Ledger) : Prop where
  loggers_eq : ∀ m ∈ l.loggers, m = { path := Path.ofText path }
  file : (l.loggers = [] ∧ l.notes = [] ∧ l.disk = d) ∨
    (l.loggers ≠ [] ∧ Metrics.Holds (Path.ofText path) l.notes l.disk)

variable {path : Text} {base : Octets} {d : Disk} {l : Ledger}

theorem countP_cons_isPrepare (action : Action) (actions : List Action) :
    (action :: actions).countP Action.isPrepare =
      action.isPrepare.toNat + actions.countP Action.isPrepare := by
  rw [List.countP_cons]
  cases action.isPrepare <;> simp [Nat.add_comm]

/-- **One action** adds a logger or a row, if the file can be made ready whatever rows there are. -/
theorem act_follows
    (hbase : ∀ notes d, Metrics.Extends (Path.ofText path) base notes d →
      Metrics.prepare path d = (.ok { path := Path.ofText path }, d))
    (h : l.Follows path base) (action : Action) :
    (l.act path action).Follows path base ∧
      (l.act path action).loggers.length = l.loggers.length + action.isPrepare.toNat := by
  cases action with
  | prepare =>
    simp only [act, hbase l.notes l.disk h.file]
    refine ⟨⟨fun m hm => ?_, h.file⟩, List.length_append⟩
    rcases List.mem_append.mp hm with hm | hm
    · exact h.loggers_eq m hm
    · exact List.mem_singleton.mp hm
  | log logger note =>
    simp only [act]
    cases hm : l.loggers[logger]? with
    | none => exact ⟨h, rfl⟩
    | some m =>
      obtain ⟨result, d', hlog, hresult⟩ := h.file.log note
      rw [h.loggers_eq m (List.mem_of_getElem? hm)]
      simp only [hlog]
      cases result with
      | error failure => exact ⟨⟨h.loggers_eq, hresult⟩, rfl⟩
      | ok => exact ⟨⟨h.loggers_eq, hresult⟩, rfl⟩

/-- **All actions** add loggers and rows. -/
theorem actAll_follows
    (hbase : ∀ notes d, Metrics.Extends (Path.ofText path) base notes d →
      Metrics.prepare path d = (.ok { path := Path.ofText path }, d))
    (h : l.Follows path base) (actions : List Action) :
    (l.actAll path actions).Follows path base ∧
      (l.actAll path actions).loggers.length =
        l.loggers.length + actions.countP Action.isPrepare := by
  induction actions generalizing l with
  | nil => exact ⟨h, rfl⟩
  | cons action actions ih =>
    obtain ⟨hfollows, hlength⟩ := act_follows hbase h action
    obtain ⟨hall, hlengths⟩ := ih hfollows
    refine ⟨hall, ?_⟩
    show ((l.act path action).actAll path actions).loggers.length = _
    rw [hlengths, hlength, countP_cons_isPrepare, Nat.add_assoc]

/-- **One action** keeps the ledger sound, and making the file ready gives one more logger. -/
theorem act_sound (hd : Metrics.Fresh path d) (h : l.Sound path d) (action : Action) :
    (l.act path action).Sound path d ∧
      (l.act path action).loggers.length = l.loggers.length + action.isPrepare.toNat := by
  rcases h.file with ⟨hnil, hnotes, hdisk⟩ | ⟨hne, hholds⟩
  · cases action with
    | prepare =>
      obtain ⟨d', hprepare, hextends⟩ := hd.prepare
      simp only [act, hdisk, hprepare, hnil, hnotes, List.nil_append]
      refine ⟨⟨fun m hm => List.mem_singleton.mp hm, .inr ⟨by simp, ?_⟩⟩, rfl⟩
      rw [Metrics.holds_iff_extends]
      exact hnotes ▸ hextends
    | log logger note =>
      have hnone : l.loggers[logger]? = none := by rw [hnil]; rfl
      simp only [act, hnone]
      exact ⟨h, rfl⟩
  · obtain ⟨hfollows, hlength⟩ := act_follows
      (fun notes d hextends => hextends.prepare (by decide)
        (Metrics.checkHeader_headerOctets hextends.encodable))
      ⟨h.loggers_eq, Metrics.holds_iff_extends.mp hholds⟩ action
    refine ⟨⟨hfollows.loggers_eq, .inr ⟨?_, Metrics.holds_iff_extends.mpr hfollows.file⟩⟩, hlength⟩
    intro hnil
    rw [hnil, List.length_nil] at hlength
    exact hne (List.length_eq_zero_iff.mp (by omega))

/-- **All actions** keep the ledger sound. -/
theorem actAll_sound (hd : Metrics.Fresh path d) (h : l.Sound path d) (actions : List Action) :
    (l.actAll path actions).Sound path d ∧
      (l.actAll path actions).loggers.length =
        l.loggers.length + actions.countP Action.isPrepare := by
  induction actions generalizing l with
  | nil => exact ⟨h, rfl⟩
  | cons action actions ih =>
    obtain ⟨hsound, hlength⟩ := act_sound hd h action
    obtain ⟨hsounds, hlengths⟩ := ih hsound
    refine ⟨hsounds, ?_⟩
    show ((l.act path action).actAll path actions).loggers.length = _
    rw [hlengths, hlength, countP_cons_isPrepare, Nat.add_assoc]

end Ledger

/-! ## Top theorem -/

/-- **A metrics file** that was missing or empty can be made ready any number of times. It is then
read as the header row, and one row for each note that a logger has taken, in order. -/
theorem rows_of_ledger (path : Text) (d : Disk) (h : Metrics.Fresh path d)
    (actions : List Ledger.Action) :
    let l := Ledger.actAll { disk := d } path actions
    l.loggers.length = actions.countP Ledger.Action.isPrepare ∧
      (l.loggers = [] → l.notes = [] ∧ l.disk = d) ∧
      (l.loggers ≠ [] →
        ∃ octets text, l.disk.read (Path.ofText path).toText = .ok octets ∧
          Utf8.decode octets = .ok text ∧
          Csv.rows text = Metrics.columns :: l.notes.map fun note =>
            [Calendar.timestamp note.now, note.request.url, note.request.context,
              note.request.type, note.type, Text.ofInt note.latency,
              if note.verdict.matched then "1" else "0",
              if note.verdict.failed then "1" else "0"]) := by
  obtain ⟨hsound, hlength⟩ := Ledger.actAll_sound h
    (show Ledger.Sound path d { disk := d } from ⟨fun m hm => (by cases hm), .inl ⟨rfl, rfl, rfl⟩⟩)
    actions
  refine ⟨by rw [hlength, List.length_nil, Nat.zero_add], fun hnil => ?_, fun hne => ?_⟩
  · exact (hsound.file.resolve_right fun hne => hne.1 hnil).2
  generalize Ledger.actAll { disk := d } path actions = l at hsound hne
  obtain ⟨-, hholds⟩ := hsound.file.resolve_left fun hnil => hne hnil.1
  obtain ⟨location, hlocate, hentry⟩ := hholds.file
  refine ⟨_, _, ?_, Utf8.decode_encodePoints hholds.encodable, Metrics.rows_fileText l.notes⟩
  unfold Disk.read
  rw [hlocate]
  simp only [hentry]

/-- A url with quotes, a comma and a line end, and one that cannot be written down; the file is made
ready once more between the two. -/
theorem rows_of_quoted_url :
    Metrics.Fresh "out/m.csv" {} ∧
      let actions : List Ledger.Action :=
        [.prepare,
          .log 0 { now := 0, request := { url := "\"a,\r\nb\"", context := "", type := "image" },
                   type := "image", verdict := { matched := true }, latency := -3 },
          .prepare,
          .log 1 { now := 0, request := { url := [0xD800], context := "", type := "" },
                   type := "other", verdict := {}, latency := 0 }]
      let l := Ledger.actAll { disk := {} } "out/m.csv" actions
      l.loggers.length = 2 ∧
        ∃ octets text, l.disk.read "out/m.csv" = .ok octets ∧ Utf8.decode octets = .ok text ∧
          Csv.rows text = Metrics.columns :: l.notes.map Note.row := by
  have hfresh : Metrics.Fresh "out/m.csv" {} :=
    ⟨{ entries := [(["out"], .directory)] }, ["out", "m.csv"], rfl, rfl, .inl rfl⟩
  refine ⟨hfresh, ?_⟩
  intro actions l
  obtain ⟨hlength, -, hrows⟩ := rows_of_ledger "out/m.csv" {} hfresh actions
  refine ⟨hlength, hrows fun hnil => ?_⟩
  rw [hnil] at hlength
  exact absurd hlength (by decide)

end RequestCheck
