import RequestCheck.Journal.Basic
import RequestCheck.Proofs.Disk
import RequestCheck.Proofs.Utf8
import RequestCheck.Text.Lines

/-!
# What messages leave behind

A message adds octets to the files of the sinks, and whole lines to the console. A sink on the
console shows every message that reaches it on a line of its own.

    j.Writes l                the journal j has a sink that writes to l
    j.write n l m d           a disk that keeps all but what j writes to, and whole lines
-/

namespace RequestCheck

/-! ## Texts for the console -/

namespace Utf8

/-- Characters are no surrogates. -/
theorem encodable_ofChars (l : List Char) : Encodable (l.map CodePoint.ofChar) := by
  intro c hc
  obtain ⟨x, -, rfl⟩ := List.mem_map.mp hc
  have hx : x.toNat.isValidChar := x.valid
  unfold Nat.isValidChar at hx
  have hlt : ¬ (0xD800 ≤ x.toNat ∧ x.toNat ≤ 0xDFFF) := by omega
  unfold CodePoint.isSurrogate CodePoint.ofChar
  simpa using hlt

theorem encodable_ofString (s : String) : Encodable (Text.ofString s) := encodable_ofChars s.toList

theorem encodable_ofNat (n : Nat) : Encodable (Text.ofNat n) := encodable_ofChars (Nat.toDigits 10 n)

theorem showSurrogates_append (a b : Text) :
    showSurrogates (a ++ b) = showSurrogates a ++ showSurrogates b := List.flatMap_append

/-- The console shows a text without surrogates as it is. -/
theorem showSurrogates_eq {t : Text} (h : Encodable t) : showSurrogates t = t := by
  induction t with
  | nil => rfl
  | cons c t ih =>
    unfold showSurrogates at ih ⊢
    rw [List.flatMap_cons, h c List.mem_cons_self, ih fun x hx => h x (List.mem_cons_of_mem c hx)]
    rfl

end Utf8

theorem Calendar.encodable_twoDigits (n : Nat) : Utf8.Encodable (twoDigits n) := by
  have hzeros : Utf8.Encodable (List.replicate (2 - (Text.ofNat n).length) ('0' : CodePoint)) := by
    intro c hc
    rw [List.eq_of_mem_replicate hc]
    rfl
  exact hzeros.append (Utf8.encodable_ofNat n)

theorem Utf8.encodable_ofInt (n : Int) : Encodable (Text.ofInt n) := by
  cases n with
  | ofNat n => exact encodable_ofNat n
  | negSucc n =>
    intro c hc
    rcases List.mem_cons.mp hc with rfl | hc
    · rfl
    · exact encodable_ofNat (n + 1) c hc

theorem Calendar.encodable_timestamp (seconds : Int) : Utf8.Encodable (timestamp seconds) := by
  unfold timestamp
  exact (((((((((((Utf8.encodable_ofInt _).append (Utf8.encodable_ofString _)).append
    (encodable_twoDigits _)).append (Utf8.encodable_ofString _)).append
    (encodable_twoDigits _)).append (Utf8.encodable_ofString _)).append
    (encodable_twoDigits _)).append (Utf8.encodable_ofString _)).append
    (encodable_twoDigits _)).append (Utf8.encodable_ofString _)).append (encodable_twoDigits _))

theorem Text.ofString_lineFeed : ofString "\n" = [lineFeed] := by decide

/-- A text of lines, each with its end. -/
def Text.WholeLines (t : Text) : Prop := ∃ lines : List Text, t = lines.flatMap (· ++ [lineFeed])

namespace Text.WholeLines

theorem nil : WholeLines [] := ⟨[], rfl⟩

theorem singleton (line : Text) : WholeLines (line ++ [lineFeed]) :=
  ⟨[line], by rw [List.flatMap_singleton]⟩

theorem append {a b : Text} (ha : WholeLines a) (hb : WholeLines b) : WholeLines (a ++ b) := by
  obtain ⟨as, rfl⟩ := ha
  obtain ⟨bs, rfl⟩ := hb
  exact ⟨as ++ bs, by rw [List.flatMap_append]⟩

end Text.WholeLines

namespace Journal

/-! ## Sinks -/

def Writes (j : Journal) (location : Location) : Prop :=
  ∃ sink ∈ j.sinks, sink.target = .file location

theorem extend_keeps {W : Location → Prop} {location : Location} (hW : W location) (d : Disk)
    (octets : Octets) : Disk.Keeps W d (extend d location octets) := by
  unfold extend
  split
  · next content hentry => exact Disk.Keeps.put hW (by rw [hentry]; simp)
  · exact Disk.Keeps.refl d

theorem Notice.wholeLines (notice : Notice) : Text.WholeLines notice.text :=
  ⟨notice.lines, by rw [Notice.text, Text.ofString_lineFeed]⟩

theorem showSurrogates_wholeLines (t : Text) :
    Text.WholeLines (Utf8.showSurrogates (t ++ [Text.lineFeed])) := by
  rw [Utf8.showSurrogates_append]
  exact Text.WholeLines.singleton _

theorem extend_agrees {W : Location → Prop} {location : Location} (hW : W location) (d : Disk)
    (octets : Octets) : Disk.Agrees W d (extend d location octets) := by
  unfold extend
  split
  · next content hentry => exact Disk.Agrees.put hW (by rw [hentry]; simp)
  · exact Disk.Agrees.refl d

/-- A sink does nothing to the disk but to add to its file. -/
theorem deliver_relates {R : Disk → Disk → Prop} (hrefl : ∀ d, R d d) {sink : Sink}
    (hextend : ∀ location octets d, sink.target = .file location → R d (extend d location octets))
    (line : Option Text) (notice : Notice) (d : Disk) : R d (deliver line notice sink d).1 := by
  cases line with
  | none => exact hrefl d
  | some line =>
    simp only [deliver]
    cases htarget : sink.target with
    | console => exact hrefl d
    | file location =>
      simp only
      split
      · exact hextend location _ d htarget
      · exact hrefl d

theorem deliverAll_relates {R : Disk → Disk → Prop} (hrefl : ∀ d, R d d)
    (htrans : ∀ {d d' d''}, R d d' → R d' d'' → R d d'') {sinks : List Sink}
    (hextend : ∀ sink ∈ sinks, ∀ location octets d, sink.target = .file location →
      R d (extend d location octets))
    (line : Option Text) (notice : Notice) (level : Level) (d : Disk) :
    R d (deliverAll line notice level sinks d).1 := by
  induction sinks generalizing d with
  | nil => exact hrefl d
  | cons sink rest ih =>
    have hrest := ih fun sink' h => hextend sink' (List.mem_cons_of_mem _ h)
    rw [deliverAll]
    split
    · exact htrans (deliver_relates hrefl (hextend sink List.mem_cons_self) line notice d)
        (hrest _)
    · exact hrest d

/-- **A message** does nothing to the disk but to add to files that the journal writes to. So a
relation that this gives, and that is passed on, holds of the disks before and after it. -/
theorem write_relates {R : Disk → Disk → Prop} (hrefl : ∀ d, R d d)
    (htrans : ∀ {d d' d''}, R d d' → R d' d'' → R d d'') {j : Journal}
    (hextend : ∀ location octets d, j.Writes location → R d (extend d location octets))
    (now : Int) (level : Level) (message : Message) (d : Disk) :
    R d (j.write now level message d).1 := by
  unfold write
  split
  · split
    · exact hrefl d
    · apply deliverAll_relates hrefl htrans
      intro sink hsink location octets d' htarget
      exact hextend location octets d' ⟨sink, hsink, htarget⟩
  · exact hrefl d

/-- A sink shows a line or nothing. -/
theorem deliver_wholeLines (line : Option Text) (notice : Notice) (sink : Sink) (d : Disk) :
    Text.WholeLines (deliver (line.map (· ++ [Text.lineFeed])) notice sink d).2 := by
  cases line with
  | none => exact notice.wholeLines
  | some line =>
    simp only [Option.map_some, deliver]
    cases sink.target with
    | console => exact showSurrogates_wholeLines line
    | file location =>
      simp only
      split
      · exact Text.WholeLines.nil
      · exact notice.wholeLines

theorem deliverAll_wholeLines (line : Option Text) (notice : Notice) (level : Level)
    (sinks : List Sink) (d : Disk) :
    Text.WholeLines (deliverAll (line.map (· ++ [Text.lineFeed])) notice level sinks d).2 := by
  induction sinks generalizing d with
  | nil => exact Text.WholeLines.nil
  | cons sink rest ih =>
    rw [deliverAll]
    split
    · exact (deliver_wholeLines line notice sink d).append (ih _)
    · exact ih d

/-- The line for a message, without its end. -/
def shownEntry (now : Int) (level : Level) (message : Text) : Text :=
  Calendar.timestamp now ++ " - " ++ level.name ++ " - " ++ message

theorem entry_eq (now : Int) (level : Level) (message : Text) :
    entry now level message = shownEntry now level message ++ [Text.lineFeed] := by
  unfold entry shownEntry
  rw [Text.ofString_lineFeed]

/-- **A message** changes only files that the journal writes to, and adds whole lines to the
console. -/
theorem write_traces (j : Journal) (now : Int) (level : Level) (message : Message) (d : Disk) :
    Disk.Keeps j.Writes d (j.write now level message d).1 ∧
      Text.WholeLines (j.write now level message d).2 := by
  constructor
  · apply write_relates Disk.Keeps.refl Disk.Keeps.trans
    intro location octets d' hwrites
    exact extend_keeps hwrites d' octets
  · unfold write
    split
    · split
      · unfold lastResort
        split
        · split
          · rw [Text.ofString_lineFeed]
            exact showSurrogates_wholeLines _
          · exact message.notice.wholeLines
        · exact Text.WholeLines.nil
      · have hentry : message.text.map (entry now level) =
            (message.text.map (shownEntry now level)).map (· ++ [Text.lineFeed]) := by
          rw [Option.map_map]
          exact congrArg (message.text.map ·) (funext (entry_eq now level))
        rw [hentry]
        exact deliverAll_wholeLines _ message.notice level _ d
    · exact Text.WholeLines.nil

/-- A sink on the console shows a message that reaches it, on a line of its own. -/
theorem deliverAll_shows {sinks : List Sink} {sink : Sink} (line : Text) (notice : Notice)
    (level : Level) (d : Disk) (hsink : sink ∈ sinks) (htarget : sink.target = .console)
    (hlevel : level.reaches sink.threshold = true) :
    ∃ before after, Text.WholeLines before ∧
      (deliverAll (some (line ++ [Text.lineFeed])) notice level sinks d).2 =
        before ++ Utf8.showSurrogates (line ++ [Text.lineFeed]) ++ after := by
  induction sinks generalizing d with
  | nil => cases hsink
  | cons first rest ih =>
    rw [deliverAll]
    rcases List.mem_cons.mp hsink with rfl | hsink
    · rw [if_pos hlevel]
      simp only [deliver, htarget]
      exact ⟨[], _, Text.WholeLines.nil, rfl⟩
    · split
      · have hlines := deliver_wholeLines (some line) notice first d
        obtain ⟨before, after, hbefore, heq⟩ :=
          ih (deliver (some (line ++ [Text.lineFeed])) notice first d).1 hsink
        refine ⟨_, after, hlines.append hbefore, ?_⟩
        simp only [heq, Option.map_some, List.append_assoc]
      · exact ih d hsink

/-! ## Subscriptions -/

/-- A subscription sets the level, and attaches a sink on the console. -/
theorem subscribe_console {j j' : Journal} {path : Option Text} {level : Level} {d d' : Disk}
    {subscription : Subscription}
    (h : j.subscribe path level d = (.ok subscription, j', d')) :
    j'.level = some level ∧
      ∃ sink ∈ j'.sinks, sink.target = .console ∧ sink.threshold = level := by
  unfold subscribe at h
  split at h
  · cases h
  · simp only at h
    split at h
    · cases h
      exact ⟨rfl, _, List.mem_append_right _ List.mem_cons_self, rfl, rfl⟩
    · split at h
      · cases h
      · cases h
        exact ⟨rfl, _, List.mem_append_right _ List.mem_cons_self, rfl, rfl⟩

/-- A message that reaches the level of a subscription is shown on the console. -/
theorem write_shows {j : Journal} {level threshold : Level} (now : Int) (text : Text)
    (notice : Notice) (d : Disk)
    (hlevel : j.level = some threshold) (hreaches : level.reaches threshold = true)
    (hsink : ∃ sink ∈ j.sinks, sink.target = .console ∧ sink.threshold = threshold) :
    ∃ before after, Text.WholeLines before ∧
      (j.write now level { text, notice } d).2 =
        before ++ Utf8.showSurrogates (entry now level text) ++ after := by
  obtain ⟨sink, hmem, htarget, hthreshold⟩ := hsink
  unfold write
  rw [hlevel, Option.getD_some, if_pos hreaches]
  split
  · next hnil => rw [hnil] at hmem; cases hmem
  · rw [← hthreshold] at hreaches
    rw [Option.map_some, entry_eq]
    exact deliverAll_shows (shownEntry now level text) notice level d hmem htarget hreaches

end Journal

end RequestCheck
