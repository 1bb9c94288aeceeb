import RequestCheck.Proofs.Growth
import RequestCheck.Proofs.Quotation
import RequestCheck.Proofs.Runs
import RequestCheck.Proofs.Shapes
import RequestCheck.Proofs.SingleRequest
import RequestCheck.Proofs.Successive

/-!
# What a log file tells of a rejection

The diagnostic of a rejection shows the request and the message of the engine as they are. So it is
one line of the log file if and only if there is no line feed in them; and the file gets nothing at
all if there is a surrogate in them. Each of those who have the same log file open brings a copy.

    j.adds l now level message    what a message adds to the file at l               (write_entry)
    n.ComesOf j                   n comes of the journal j by actions, while others add to files
    Diagnoses r now octets        the octets are one line that shows the request r
    check_of_rejection            when what a rejection adds to a log file is such a line
-/

namespace RequestCheck

/-! ## Texts -/

theorem Text.plain_ofNat (n : Nat) : Plain (ofNat n) := by
  intro c hc
  have hdigit := isDecimalDigit_of_mem_ofNat hc
  simp only [isDecimalDigit, Bool.and_eq_true, decide_eq_true_eq] at hdigit
  omega

theorem Text.plain_ofInt (n : Int) : Plain (ofInt n) := by
  cases n with
  | ofNat n => exact plain_ofNat n
  | negSucc n => exact .cons (by decide) (plain_ofNat (n + 1))

theorem Calendar.plain_twoDigits (n : Nat) : Text.Plain (twoDigits n) := by
  refine .append (fun c hc => ?_) (Text.plain_ofNat n)
  rw [List.eq_of_mem_replicate hc]
  decide

theorem Calendar.plain_timestamp (seconds : Int) : Text.Plain (timestamp seconds) := by
  have hmark : ∀ mark ∈ (["-", " ", ":"] : List Text), mark.Plain := by
    intro mark hmark
    simp only [List.mem_cons, List.not_mem_nil, or_false] at hmark
    rcases hmark with rfl | rfl | rfl <;> exact .of_all (by decide)
  simp only [List.forall_mem_cons] at hmark
  obtain ⟨hdash, hspace, hcolon, -⟩ := hmark
  unfold timestamp
  exact (((((((((Text.plain_ofInt _).append hdash).append (plain_twoDigits _)).append hdash).append
    (plain_twoDigits _)).append hspace).append (plain_twoDigits _)).append hcolon).append
    (plain_twoDigits _) |>.append hcolon).append (plain_twoDigits _)

theorem Utf8.flatMap_replicate (n : Nat) (t : Text) :
    (List.replicate n t).flatten.flatMap encodePoint =
      (List.replicate n (t.flatMap encodePoint)).flatten := by
  induction n with
  | zero => rfl
  | succ n ih =>
    rw [List.replicate_succ, List.replicate_succ, List.flatten_cons, List.flatten_cons,
      List.flatMap_append, ih]

namespace Journal

variable {j : Journal} {now : Int} {level : Level} {message : Text} {location : Location} {d : Disk}

/-- What stands in front of a message on its line. -/
def heading (now : Int) (level : Level) : Text :=
  Calendar.timestamp now ++ " - " ++ level.name ++ " - "

theorem plain_heading (now : Int) (level : Level) : (heading now level).Plain := by
  have hdash : Text.Plain " - " := .of_all (by decide)
  have hname : Text.Plain level.name := by cases level <;> exact .of_all (by decide)
  exact (((Calendar.plain_timestamp now).append hdash).append hname).append hdash

theorem shownEntry_eq (now : Int) (level : Level) (message : Text) :
    shownEntry now level message = heading now level ++ message := rfl

theorem encodable_entry_iff (now : Int) (level : Level) (message : Text) :
    Utf8.Encodable (entry now level message) ↔ Utf8.Encodable message := by
  rw [entry_eq, shownEntry_eq]
  constructor
  · exact fun h c hc => h c (List.mem_append_left _ (List.mem_append_right _ hc))
  · exact fun h => ((plain_heading now level).encodable.append h).append (by decide)

/-! ## What a message adds to a file -/

/-- What a message adds to the file at a location: its line, once for each sink that takes it there,
if it reaches the level of the journal and has no surrogate. -/
def adds (j : Journal) (location : Location) (now : Int) (level : Level) (message : Text) :
    Octets :=
  if level.reaches j.currentLevel = true ∧ Utf8.Encodable message then
    copies (.file location) level j.sinks ((entry now level message).flatMap Utf8.encodePoint)
  else []

/-- A line with a surrogate gets into no file. -/
theorem deliverAll_of_not_encodable {line : Text} (h : ¬ Utf8.Encodable line) (notice : Notice)
    (level : Level) (sinks : List Sink) (d : Disk) :
    (deliverAll (some line) notice level sinks d).1 = d := by
  obtain ⟨error, herror⟩ : ∃ error, Utf8.encode line = .error error := by
    cases hencode : Utf8.encode line with
    | error error => exact ⟨error, rfl⟩
    | ok octets => exact absurd (Utf8.encode_eq_ok_iff.mp hencode).1 h
  have hdeliver : ∀ sink d, (deliver (some line) notice sink d).1 = d := by
    intro sink d
    unfold deliver
    cases sink.target with
    | console => rfl
    | file location => simp only [herror]
  induction sinks generalizing d with
  | nil => rfl
  | cons sink rest ih =>
    rw [deliverAll]
    split
    · simp only [ih, hdeliver]
    · exact ih d

/-- **What a message adds to a file.** -/
theorem write_entry (j : Journal) (now : Int) (level : Level) (message : Text) (notice : Notice)
    (d : Disk) (location : Location) :
    Disk.entry? (j.write now level { text := message, notice } d).1 location =
      (d.entry? location).map (Entry.extended (j.adds location now level message)) := by
  have hid : Entry.extended [] = id := funext Entry.extended_nil
  unfold adds
  by_cases hlevel : level.reaches j.currentLevel = true
  · by_cases hmessage : Utf8.Encodable message
    · rw [if_pos ⟨hlevel, hmessage⟩]
      exact (write_of_reaches hlevel now hmessage notice d).1 location
    · rw [if_neg fun h => hmessage h.2, hid, Option.map_id]
      have hentry := mt (encodable_entry_iff now level message).mp hmessage
      unfold write
      rw [show j.level.getD .warning = j.currentLevel from rfl, if_pos hlevel]
      cases j.sinks with
      | nil => rfl
      | cons sink rest =>
        simp only [Option.map_some, deliverAll_of_not_encodable hentry, id]
  · rw [if_neg fun h => hlevel h.1, hid, Option.map_id,
      write_of_not_reaches (Bool.eq_false_iff.mpr hlevel)]
    rfl

/-- A message leaves all files where they are. -/
theorem write_sameShape (j : Journal) (now : Int) (level : Level) (message : Message) (d : Disk) :
    d.SameShape (j.write now level message d).1 := by
  apply write_relates Disk.SameShape.refl Disk.SameShape.trans
  intro location octets d _
  constructor
  · unfold extend
    split <;> rfl
  · intro other
    rw [extend_entry]
    split
    · rw [Option.map_map]
      congr 1
      funext entry
      cases entry <;> rfl
    · rfl

end Journal

/-! ## Checks -/

namespace Disk

variable {d d' : Disk} {path : Text} {octets : Octets} {location : Location}

/-- A file stays what it is when something is added to it. -/
theorem append_endures (h : d.append path octets = .ok d') : d.Endures d' := by
  unfold append modify at h
  cases hlocate : d.locate path with
  | error error => rw [hlocate] at h; cases h
  | ok at' =>
    rw [hlocate] at h
    simp only at h
    have hput : ∀ {content}, d.entry? at' ≠ some .directory → (∀ entry, d.entry? at' = some entry →
        Entry.file content = entry.extended octets) → d.Endures (d.put at' (.file content)) := by
      intro content hplace hentry
      refine ⟨rfl, fun other entry hother => ?_⟩
      rw [entry_put (ne_nil_of_ne_directory hplace)]
      split
      · next heq => exact ⟨octets, congrArg some (hentry entry (heq ▸ hother))⟩
      · exact ⟨[], by rw [entry.extended_nil, hother]⟩
    split at h
    · next hnone =>
      cases h
      exact hput (by rw [hnone]; nofun) fun entry hentry => by rw [hnone] at hentry; cases hentry
    · cases h
    · cases h; exact .refl d
    · next content hfile =>
      cases h
      refine hput (by rw [hfile]; nofun) fun entry hentry => ?_
      rw [hfile] at hentry
      cases hentry
      rfl

/-- A file elsewhere is not concerned. -/
theorem append_elsewhere (h : d.append path octets = .ok d')
    (hpath : d.locate path ≠ .ok location) : d'.entry? location = d.entry? location := by
  obtain ⟨at', hlocate, hagrees⟩ := modify_agrees h
  exact hagrees.forth.entry_eq location fun heq => hpath (by rw [hlocate, heq])

end Disk

theorem Disk.additive_endures : Additive Endures where
  refl := .refl
  trans := .trans
  append := append_endures
  extend := Journal.extend_endures

/-- A metrics row leaves another file as it is. -/
theorem Metrics.log_elsewhere {m : Metrics} {d : Disk} {location : Location}
    (hplace : d.locate m.path.toText ≠ .ok location) (now : Int) (r : Request) (type : Text)
    (v : Verdict) (latency : Int) :
    Disk.entry? (m.log now r type v latency d).2 location = d.entry? location := by
  unfold log
  split
  · rfl
  · split
    · rfl
    · next opened hopen =>
      have hopened := Disk.append_elsewhere hopen hplace
      split
      · exact hopened
      · split
        · exact hopened
        · next hrow =>
          obtain ⟨at', hlocate, -⟩ := Disk.modify_agrees hopen
          have hplace' : opened.locate m.path.toText ≠ .ok location := by
            rw [(Disk.append_endures hopen).locate hlocate, ← hlocate]
            exact hplace
          exact (Disk.append_elsewhere hrow hplace').trans hopened

namespace Checker

variable {c : Checker} {r : Request} {s : Session} {location : Location} {entry : Entry}

/-- The metrics of a checker are kept in another file than the one at a location. -/
def MetricsElsewhere (c : Checker) (d : Disk) (location : Location) : Prop :=
  ∀ m, c.metrics = some m → d.locate m.path.toText ≠ .ok location

theorem record_elsewhere (hplace : c.MetricsElsewhere s.disk location) (type : Text)
    (latency : Int) (v : Verdict) :
    Disk.entry? (c.record r type latency v s).2.disk location = s.disk.entry? location := by
  unfold record
  cases hmetrics : c.metrics with
  | none => rfl
  | some m =>
    have hlog := m.log_elsewhere (hplace m hmetrics) s.now r type v latency
    simp only
    split
    · next heq => rw [heq] at hlog; exact hlog
    · next heq => rw [heq] at hlog; exact hlog

/-- The end of a check adds the trace to a log file, if the clock can be read. -/
theorem finish_entry (c : Checker) (origin : Origin) (r : Request) (v : Verdict) (type : Text)
    (start : Reading) (hentry : s.disk.entry? location = some entry) :
    ∃ more,
      Disk.entry? (c.finish origin r type start v s).2.disk location = some (entry.extended more) ∧
      (c.MetricsElsewhere s.disk location →
        more = [] ∨ more = s.journal.adds location s.now .debug (trace r type v)) := by
  unfold finish
  simp only
  split
  · exact ⟨[], by rw [entry.extended_nil]; exact hentry, fun _ => .inl rfl⟩
  · next latency _ =>
    let traced := s.tick.2.log c.runtime origin .debug (trace r type v)
    have htraced : traced.disk.entry? location =
        some (entry.extended (s.journal.adds location s.now .debug (trace r type v))) := by
      show Disk.entry? (s.journal.write s.now .debug _ s.disk).1 location = _
      rw [Journal.write_entry, hentry]
      rfl
    have hshape : s.disk.SameShape traced.disk := s.journal.write_sameShape s.now .debug _ s.disk
    by_cases hplace : c.MetricsElsewhere s.disk location
    · have hplace' : c.MetricsElsewhere traced.disk location := fun m hm => by
        rw [hshape.locate]
        exact hplace m hm
      exact ⟨_, (record_elsewhere hplace' type latency v).trans htraced, fun _ => .inr rfl⟩
    · have hrecord := Disk.additive_endures.record c r type latency v traced
      obtain ⟨row, hrow⟩ := hrecord.entry location _ htraced
      rw [Entry.extended_extended] at hrow
      exact ⟨_, hrow, fun h => absurd h hplace⟩

/-- **What a rejection adds to a log file**: the diagnostic, and then the trace. -/
theorem check_entry {message : Text} {cause : Option Engine.FaultKind}
    (hreject : c.engine.check r.query = .error (.rejected message cause))
    (hentry : s.disk.entry? location = some entry) :
    ∃ more, Disk.entry? (c.check r s).2.disk location = some (entry.extended
        (s.journal.adds location s.now .error (rejection r message) ++ more)) ∧
      (c.MetricsElsewhere s.disk location → more = [] ∨ more = s.journal.adds location s.now .debug
        (trace r (RequestType.normalize r.type) (.failure message))) := by
  let told : Session :=
    { (s.tick.2.call r.query).log c.runtime .stream .error (rejection r message) with
      anyFailure := true }
  have hcheck : c.check r s =
      c.finish .stream r (RequestType.normalize r.type) s.tick.1 (.failure message) told := by
    unfold check ask
    rw [hreject]
    rfl
  have htold : told.disk.entry? location =
      some (entry.extended (s.journal.adds location s.now .error (rejection r message))) := by
    show Disk.entry? (s.journal.write s.now .error _ s.disk).1 location = _
    rw [Journal.write_entry, hentry]
    rfl
  have hshape : s.disk.SameShape told.disk := s.journal.write_sameShape s.now .error _ s.disk
  obtain ⟨more, hmore, htrace⟩ := c.finish_entry .stream r (.failure message)
    (RequestType.normalize r.type) s.tick.1 htold
  rw [Entry.extended_extended] at hmore
  refine ⟨more, by rw [hcheck]; exact hmore, fun hplace => htrace fun m hm => ?_⟩
  rw [hshape.locate]
  exact hplace m hm

/-! ## Runs -/

/-- No check takes anything away from a file. -/
theorem carries_endures (c : Checker) : c.Carries fun s s' => s.disk.Endures s'.disk where
  refl := fun s => .refl s.disk
  trans := .trans
  ask := Disk.additive_endures.ask c

end Checker

namespace Newsroom

variable {j : Journal} {n : Newsroom}

/-- What comes of a journal by actions, while others add to files between them. -/
inductive ComesOf (j : Journal) : Newsroom → Prop where
  | start (d : Disk) (console : Text) : ComesOf j { journal := j, disk := d, console }
  | act {n : Newsroom} (h : ComesOf j n) (action : Action) : ComesOf j (n.act action)
  | others {n : Newsroom} {d : Disk} (h : ComesOf j n) (hd : n.disk.Endures d) (console : Text) :
      ComesOf j { n with disk := d, console }

theorem ComesOf.orderly (h : n.ComesOf j) : n.Orderly j := by
  induction h with
  | start d console => exact orderly_start j d console
  | act _ action ih => exact act_orderly ih action
  | others _ hd console ih => exact ih.endures hd console

/-- Whoever has a log file open gets messages there. -/
theorem Orderly.exists_logFile (h : n.Orderly j) {k : Subscriber} (hk : k ∈ n.subscribers)
    (hopen : k.isOpen = true) {p : Path} (hp : Journal.filePath? k.path = some p) :
    ∃ location entry, n.disk.locate (p.absolute n.disk.home).toText = .ok location ∧
      n.disk.entry? location = some entry ∧ entry ≠ .directory ∧
      ∀ level, 1 ≤ n.takers j (.file location) level := by
  obtain ⟨location, hlocate, entry, hentry, hplace⟩ := h.logFile k hk hopen p hp
  refine ⟨location, entry, hlocate, hentry, hplace, fun level => ?_⟩
  have htakes : k.takes n.disk (.file location) level = true := by
    simp [Subscriber.takes, Subscriber.logFile?, hopen, hp, hlocate, Except.toOption]
  have hpos := List.countP_pos_iff.mpr ⟨k, hk, htakes⟩
  unfold takers
  omega

theorem Orderly.adds_eq (h : n.Orderly j) (location : Location) (now : Int) (level : Journal.Level)
    (message : Text) :
    n.journal.adds location now level message =
      if level.reaches n.journal.currentLevel = true ∧ Utf8.Encodable message then
        (List.replicate (n.takers j (.file location) level)
          ((Journal.entry now level message).flatMap Utf8.encodePoint)).flatten
      else [] := by
  unfold Journal.adds
  rw [h.copies_eq]

/-- Checks are such others. -/
theorem ComesOf.serveAll (h : n.ComesOf j) {s : Session} (hdisk : s.disk = n.disk) (i : Inspector)
    (turns : List Turn) (console : Text) :
    ComesOf j { n with disk := (i.serveAll { session := s } turns).session.disk, console } := by
  have hendures := i.serveAll_carries Checker.carries_endures s turns
  rw [hdisk] at hendures
  exact h.others hendures console

end Newsroom

/-! ## Diagnoses -/

/-- The octets are one line with its end, at the level of an error, on which the url, the context
and the type of a request are shown as they are. -/
def Diagnoses (r : Request) (now : Int) (octets : Octets) : Prop :=
  ∃ line : Text, Utf8.encode (line ++ [Text.lineFeed]) = .ok octets ∧ Text.lineFeed ∉ line ∧
    Journal.heading now .error <+: line ∧ r.url <:+: line ∧ r.context <:+: line ∧ r.type <:+: line

/-- A diagnosis is not empty, and there is no line feed in its request. -/
theorem Diagnoses.spec {r : Request} {now : Int} {octets : Octets} (h : Diagnoses r now octets) :
    octets ≠ [] ∧ Text.lineFeed ∉ r.url ∧ Text.lineFeed ∉ r.context ∧ Text.lineFeed ∉ r.type := by
  obtain ⟨line, hencode, hline, -, hurl, hcontext, htype⟩ := h
  refine ⟨?_, fun h => hline (hurl.subset h), fun h => hline (hcontext.subset h),
    fun h => hline (htype.subset h)⟩
  rintro rfl
  have hoctets := (Utf8.encode_eq_ok_iff.mp hencode).2
  rw [List.flatMap_append, eq_comm, List.append_eq_nil_iff] at hoctets
  exact absurd hoctets.2 (by decide)

/-- The request stands on the line of its diagnostic. -/
theorem infix_shownEntry (r : Request) (now : Int) (message : Text) :
    let line := Journal.shownEntry now .error (Checker.rejection r message)
    Journal.heading now .error <+: line ∧ r.url <:+: line ∧ r.context <:+: line ∧
      r.type <:+: line := by
  intro line
  have hbehind : ∀ {t : Text}, t <:+: Checker.rejection r message → t <:+: line := fun h =>
    h.trans (List.suffix_append _ _).isInfix
  refine ⟨List.prefix_append _ _, hbehind ⟨"Failed to check url=", ?_⟩,
    hbehind ⟨"Failed to check url=" ++ r.url ++ " context=", ?_⟩,
    hbehind ⟨"Failed to check url=" ++ r.url ++ " context=" ++ r.context ++ " type=", ?_⟩⟩
  · exact ⟨" context=" ++ r.context ++ " type=" ++ r.type ++ ": " ++ message, by
      simp only [Checker.rejection, List.append_assoc]⟩
  · exact ⟨" type=" ++ r.type ++ ": " ++ message, by
      simp only [Checker.rejection, List.append_assoc]⟩
  · exact ⟨": " ++ message, by simp only [Checker.rejection, List.append_assoc]⟩

theorem lineFeed_notMem_shownEntry_iff (r : Request) (now : Int) (message : Text) :
    Text.lineFeed ∉ Journal.shownEntry now .error (Checker.rejection r message) ↔
      (Text.lineFeed ∉ r.url ∧ Text.lineFeed ∉ r.context ∧ Text.lineFeed ∉ r.type) ∧
        Text.lineFeed ∉ message := by
  have hplain : ∀ t : Text, t.Plain → ∀ c ∈ t, ¬ Text.lineFeed = c := fun t ht =>
    List.forall_mem_ne.mpr ht.lineFeed_notMem
  have hheading := (Journal.plain_heading now .error).lineFeed_notMem
  have key := Checker.forall_mem_rejection hplain r message
  simp only [List.forall_mem_ne] at key
  rw [Journal.shownEntry_eq, List.mem_append, not_or, key]
  exact and_iff_right hheading

/-- **Copies of the line of a rejection** are one line if there is one copy and no line feed in what
is told. -/
theorem diagnoses_copies_iff {r : Request} {message : Text} (hr : r.IsEncodable)
    (hmessage : Utf8.Encodable message) (now : Int) (n : Nat) :
    Diagnoses r now (List.replicate n
        ((Journal.entry now .error (Checker.rejection r message)).flatMap
          Utf8.encodePoint)).flatten ↔
      n = 1 ∧ (Text.lineFeed ∉ r.url ∧ Text.lineFeed ∉ r.context ∧ Text.lineFeed ∉ r.type) ∧
        Text.lineFeed ∉ message := by
  have hencodable : Utf8.Encodable (Journal.entry now .error (Checker.rejection r message)) :=
    (Journal.encodable_entry_iff now .error _).mpr
      ((Checker.encodable_rejection_iff r message).mpr ⟨hr, hmessage⟩)
  rw [Journal.entry_eq] at hencodable ⊢
  rw [← lineFeed_notMem_shownEntry_iff r now]
  have hshown := infix_shownEntry r now message
  simp only at hshown
  generalize Journal.shownEntry now .error (Checker.rejection r message) = shown at *
  constructor
  · rintro ⟨line, hencode, hline, -⟩
    -- the same octets are encoded from one text only, and it has as many line feeds as lines
    have hcopies : Utf8.encode (List.replicate n (shown ++ [Text.lineFeed])).flatten =
        .ok (List.replicate n ((shown ++ [Text.lineFeed]).flatMap Utf8.encodePoint)).flatten := by
      refine Utf8.encode_eq_ok_iff.mpr ⟨fun c hc => ?_, ?_⟩
      · obtain ⟨copy, hcopy, hc⟩ := List.mem_flatten.mp hc
        rw [List.eq_of_mem_replicate hcopy] at hc
        exact hencodable c hc
      · rw [Utf8.flatMap_replicate]
    have htext := Except.ok.inj
      ((Utf8.decode_of_encode hcopies).symm.trans (Utf8.decode_of_encode hencode))
    have hcount := congrArg (List.count Text.lineFeed) htext
    rw [List.count_flatten, List.map_replicate, List.sum_replicate_nat, List.count_append,
      List.count_append, List.count_eq_zero.mpr hline, List.count_singleton_self] at hcount
    have hn : n = 1 := Nat.eq_one_of_mul_eq_one_right hcount
    rw [hn] at hcount
    exact ⟨hn, List.count_eq_zero.mp (by omega)⟩
  · rintro ⟨rfl, hnone⟩
    refine ⟨shown, ?_, hnone, hshown⟩
    rw [List.replicate_one, List.flatten_singleton]
    exact Utf8.encode_eq_ok_iff.mpr ⟨hencodable, rfl⟩

/-! ## Top theorem -/

/-- **A rejection in a log file.** Subscribers come and go, others add to files, and streams take
turns. Whoever has a log file open after all this has it where its path leads to. A rejection adds
its line there, once for each who has the file open, if errors reach the level of the journal and
there is no surrogate in what is told; else it adds nothing. This is one line that shows the request
if and only if there is one such copy and no line feed in what is told. If the metrics are kept
elsewhere, nothing follows but the trace, and that only if the journal takes it. -/
theorem check_of_rejection (j : Journal) (n : Newsroom) (hn : n.ComesOf j) (s : Session)
    (hjournal : s.journal = n.journal) (hdisk : s.disk = n.disk) (k : Subscriber)
    (hk : k ∈ n.subscribers) (hopen : k.isOpen = true) (p : Path)
    (hp : Journal.filePath? k.path = some p) :
    (∀ (i : Inspector) (turns : List Turn) (console : Text),
      let s' := (i.serveAll { session := s } turns).session
      s'.journal = n.journal ∧ Newsroom.ComesOf j { n with disk := s'.disk, console }) ∧
    ∃ location entry, n.disk.locate (p.absolute n.disk.home).toText = .ok location ∧
      n.disk.entry? location = some entry ∧ entry ≠ .directory ∧
      1 ≤ n.takers j (.file location) .error ∧
      ∀ (c : Checker) (r : Request) (message : Text) (cause : Option Engine.FaultKind),
        c.engine.check r.query = .error (.rejected message cause) →
        let isTold := Journal.Level.error.reaches n.journal.currentLevel = true ∧ r.IsEncodable ∧
          Utf8.Encodable message
        let line := Journal.entry s.now .error (Checker.rejection r message)
        ∃ added more,
          Disk.entry? (c.check r s).2.disk location = some (entry.extended (added ++ more)) ∧
          (isTold → added = (List.replicate (n.takers j (.file location) .error)
            (line.flatMap Utf8.encodePoint)).flatten) ∧
          (¬ isTold → added = []) ∧
          (Diagnoses r s.now added ↔ isTold ∧ n.takers j (.file location) .error = 1 ∧
            (Text.lineFeed ∉ r.url ∧ Text.lineFeed ∉ r.context ∧ Text.lineFeed ∉ r.type) ∧
            Text.lineFeed ∉ message) ∧
          (c.MetricsElsewhere n.disk location → more = [] ∨
            Journal.Level.debug.reaches n.journal.currentLevel = true ∧
            more = n.journal.adds location s.now .debug
              (Checker.trace r (RequestType.normalize r.type) (.failure message))) := by
  have horderly := hn.orderly
  refine ⟨fun i turns console =>
    ⟨(i.serveAll_carries Checker.carries_journal s turns).trans hjournal,
      hn.serveAll hdisk i turns console⟩, ?_⟩
  obtain ⟨location, entry, hlocate, hentry, hplace, htakers⟩ :=
    horderly.exists_logFile hk hopen hp
  refine ⟨location, entry, hlocate, hentry, hplace, htakers .error, ?_⟩
  intro c r message cause hreject isTold line
  rw [← hdisk] at hentry
  obtain ⟨more, hmore, htrace⟩ := Checker.check_entry hreject hentry
  rw [hjournal] at hmore htrace
  rw [hdisk] at htrace
  have hadds := horderly.adds_eq location s.now .error (Checker.rejection r message)
  have hall : isTold ↔ Journal.Level.error.reaches n.journal.currentLevel = true ∧
      Utf8.Encodable (Checker.rejection r message) :=
    and_congr_right fun _ => (Checker.encodable_rejection_iff r message).symm
  have hsilent : ¬ isTold →
      n.journal.adds location s.now .error (Checker.rejection r message) = [] := fun h => by
    rw [hadds, if_neg (mt hall.mpr h)]
  have htold : isTold → n.journal.adds location s.now .error (Checker.rejection r message) =
      (List.replicate (n.takers j (.file location) .error)
        (line.flatMap Utf8.encodePoint)).flatten :=
    fun h => by rw [hadds, if_pos (hall.mp h)]
  refine ⟨_, more, hmore, htold, hsilent, ?_, fun helsewhere => ?_⟩
  · by_cases h : isTold
    · rw [htold h, diagnoses_copies_iff h.2.1 h.2.2]
      exact (and_iff_right h).symm
    · rw [hsilent h]
      exact ⟨fun hdiagnoses => absurd rfl hdiagnoses.spec.1, fun hboth => absurd hboth.1 h⟩
  · rcases htrace helsewhere with hnone | htraced
    · exact .inl hnone
    · by_cases hlevel : Journal.Level.debug.reaches n.journal.currentLevel = true
      · exact .inr ⟨hlevel, htraced⟩
      · exact .inl (htraced.trans (if_neg fun h => hlevel h.1))

/-- A request whose rejection is one line of the log file. -/
theorem check_of_rejection_of_plain_request :
    let n := ({} : Newsroom).act (.subscribe (some "x.log") .info)
    let s : Session := { journal := n.journal, disk := n.disk }
    let c : Checker := { engine := fun _ => .raised { kind := .invalidValue, detail := "bad" } }
    let r : Request := { url := "u", context := "\u00fc", type := "Image" }
    let line : Text :=
      "1970-01-01 00:00:00 - ERROR - Failed to check url=u context=\u00fc type=Image: bad\n"
    Disk.entry? (c.check r s).2.disk ["x.log"] = some (.file (line.flatMap Utf8.encodePoint)) ∧
      Diagnoses r 0 (line.flatMap Utf8.encodePoint) := by
  intro n s c r line
  obtain ⟨-, location, entry, hlocate, hentry, -, -, hcheck⟩ :=
    check_of_rejection {} n (.act (.start {} []) _) s rfl rfl
      { path := some "x.log", level := .info, subscription := [0, 1] } (by decide +kernel) rfl
      (Path.ofText "x.log") (by decide +kernel)
  have hlocate' : n.disk.locate ((Path.ofText "x.log").absolute n.disk.home).toText =
      .ok ["x.log"] := by decide +kernel
  obtain rfl : location = ["x.log"] := Except.ok.inj (hlocate.symm.trans hlocate')
  have hentry' : n.disk.entry? ["x.log"] = some (.file []) := by decide +kernel
  obtain rfl : entry = .file [] := Option.some.inj (hentry.symm.trans hentry')
  obtain ⟨added, more, hafter, htold, -, hdiagnoses, hmore⟩ :=
    hcheck c r "bad" (some .invalidValue) rfl
  have hadded : added = line.flatMap Utf8.encodePoint := by
    refine (htold ⟨by decide +kernel, by decide, by decide⟩).trans ?_
    decide +kernel
  have hnone : more = [] := by
    rcases hmore nofun with hnone | ⟨hdebug, -⟩
    · exact hnone
    · exact absurd hdebug (by decide +kernel)
  subst hadded hnone
  exact ⟨hafter.trans (by rw [List.append_nil]; rfl), hdiagnoses.mpr
    ⟨⟨by decide +kernel, by decide, by decide⟩, by decide +kernel, by decide, by decide⟩⟩

/-- The rejection of a request with a line feed in its url takes two lines of the log file, and that
of a request with a surrogate in its url takes none. -/
theorem check_without_diagnosis :
    let n := ({} : Newsroom).act (.subscribe (some "x.log") .info)
    let s : Session := { journal := n.journal, disk := n.disk }
    let c : Checker := { engine := fun _ => .raised { kind := .invalidValue, detail := "bad" } }
    let broken : Request := { url := "a\nb", context := "c", type := "image" }
    let strange : Request := { url := [0xD800], context := "c", type := "image" }
    let lines : Text :=
      "1970-01-01 00:00:00 - ERROR - Failed to check url=a\nb context=c type=image: bad\n"
    Request.parse c.runtime.nesting 1
        "\x7b\"url\": \"a\\nb\", \"context\": \"c\", \"type\": \"image\"\x7d" =
        .ok broken ∧
      Request.parse c.runtime.nesting 1
        "\x7b\"url\": \"\\ud800\", \"context\": \"c\", \"type\": \"image\"\x7d" =
        .ok strange ∧
      Disk.entry? (c.check broken s).2.disk ["x.log"] =
        some (.file (lines.flatMap Utf8.encodePoint)) ∧
      ¬ Diagnoses broken 0 (lines.flatMap Utf8.encodePoint) ∧
      Disk.entry? (c.check strange s).2.disk ["x.log"] = some (.file []) ∧
      ¬ Diagnoses strange 0 [] := by
  intro n s c broken strange lines
  refine ⟨by decide +kernel, by decide +kernel, by decide +kernel, fun h => ?_, by decide +kernel,
    fun h => h.spec.1 rfl⟩
  exact h.spec.2.1 (by decide)

end RequestCheck
