import RequestCheck.Proofs.Journal

/-!
# What a message adds

A message that reaches the level of the journal is handed to every sink whose own level it reaches.
So a file gets its line once for each such sink that writes to it, and the console shows it once for
each such sink on the console. Below the level of the journal nothing is written.

    (deliverAll line n level sinks d).1    gives a file the line as often       (deliverAll_entry)
    (deliverAll line n level sinks d).2    is the line as often                 (deliverAll_shown)
    j.write now level message d            (write_of_reaches, write_of_not_reaches)
    j and j' with the same routes write the same                                (write_both)
    the notice of a message shows only where the message is lost  (write_disk, write_notice)
-/

namespace RequestCheck

/-- An entry with octets added to it; only a file takes them. -/
def Entry.extended (octets : Octets) : Entry → Entry
  | .file content => .file (content ++ octets)
  | .directory => .directory
  | .void => .void

namespace Entry

theorem extended_nil (entry : Entry) : entry.extended [] = entry := by
  cases entry with
  | file content => exact congrArg Entry.file (List.append_nil content)
  | directory => rfl
  | void => rfl

theorem extended_extended (a b : Octets) (entry : Entry) :
    (entry.extended a).extended b = entry.extended (a ++ b) := by
  cases entry with
  | file content => exact congrArg Entry.file (List.append_assoc content a b)
  | directory => rfl
  | void => rfl

end Entry

namespace Journal

/-- A message of a level gets through a sink that writes to a target. -/
def Sink.takes (target : Target) (level : Level) (sink : Sink) : Bool :=
  sink.target == target && level.reaches sink.threshold

/-- The same octets or code points as many times as there are sinks that take a message. -/
def copies {α : Type} (target : Target) (level : Level) (sinks : List Sink) (line : List α) :
    List α :=
  (List.replicate (sinks.countP (Sink.takes target level)) line).flatten

variable {line : Text} {octets : Octets} {level : Level} {sink : Sink} {sinks : List Sink}
  {location : Location} {notice : Notice}

theorem copies_nil {α : Type} (target : Target) (level : Level) (line : List α) :
    copies target level [] line = [] := rfl

theorem copies_cons {α : Type} (target : Target) (line : List α) :
    copies target level (sink :: sinks) line =
      (if sink.takes target level then line else []) ++ copies target level sinks line := by
  unfold copies
  rw [List.countP_cons]
  split
  · rw [List.replicate_succ, List.flatten_cons]
  · rw [List.nil_append, Nat.add_zero]

/-- A debug sink takes messages of every level. -/
theorem Level.reaches_debug (level : Level) : level.reaches .debug = true := by cases level <;> rfl

/-! ## Handing a message over -/

/-- Only the file that octets are added to changes. -/
theorem extend_entry (d : Disk) (location other : Location) (octets : Octets) :
    Disk.entry? (extend d location octets) other =
      if other = location then (d.entry? other).map (Entry.extended octets)
      else d.entry? other := by
  unfold extend
  split
  · next content hentry =>
    have hfile : d.entry? location ≠ some .directory := by rw [hentry]; simp
    rw [Disk.entry_put (Disk.ne_nil_of_ne_directory hfile)]
    split
    · next h => rw [h, hentry]; rfl
    · rfl
  · next hother =>
    split
    · next h =>
      rw [h]
      -- what is no file stays as it is
      cases hentry : d.entry? location with
      | none => rfl
      | some entry =>
        cases entry with
        | file content => exact absurd hentry (hother content)
        | directory => rfl
        | void => rfl
    · rfl

/-- What one sink does to a file with a line that it can take. -/
theorem deliver_entry (hline : Utf8.encode line = .ok octets) (sink : Sink) (d : Disk)
    (location : Location) :
    Disk.entry? (deliver (some line) notice sink d).1 location =
      if sink.target = .file location then (d.entry? location).map (Entry.extended octets)
      else d.entry? location := by
  unfold deliver
  cases htarget : sink.target with
  | console => rfl
  | file other =>
    simp only [hline, extend_entry, Target.file.injEq, eq_comm (a := location)]

theorem deliver_shown (hline : Utf8.encode line = .ok octets) (sink : Sink) (d : Disk) :
    (deliver (some line) notice sink d).2 = if sink.target = .console then line else [] := by
  unfold deliver
  cases sink.target with
  | console => exact Utf8.showSurrogates_eq (Utf8.encode_eq_ok_iff.mp hline).1
  | file other => simp only [hline, reduceCtorEq, if_false]

/-- **What sinks add to a file.** -/
theorem deliverAll_entry (hline : Utf8.encode line = .ok octets) (level : Level)
    (sinks : List Sink) (d : Disk) (location : Location) :
    Disk.entry? (deliverAll (some line) notice level sinks d).1 location =
      (d.entry? location).map (Entry.extended (copies (.file location) level sinks octets)) := by
  induction sinks generalizing d with
  | nil =>
    have hid : Entry.extended [] = id := funext Entry.extended_nil
    rw [copies_nil, hid, Option.map_id]
    rfl
  | cons sink rest ih =>
    rw [deliverAll, copies_cons, Sink.takes]
    cases level.reaches sink.threshold with
    | false =>
      simp only [Bool.and_false, Bool.false_eq_true, if_false, List.nil_append]
      exact ih d
    | true =>
      simp only [Bool.and_true, if_true, ih, deliver_entry hline, beq_iff_eq]
      split
      · rw [Option.map_map]
        congr 1
        exact funext fun entry => entry.extended_extended _ _
      · rw [List.nil_append]

/-- **What sinks show on the console.** -/
theorem deliverAll_shown (hline : Utf8.encode line = .ok octets) (level : Level)
    (sinks : List Sink) (d : Disk) :
    (deliverAll (some line) notice level sinks d).2 = copies .console level sinks line := by
  induction sinks generalizing d with
  | nil => rfl
  | cons sink rest ih =>
    rw [deliverAll, copies_cons, Sink.takes]
    cases level.reaches sink.threshold with
    | false =>
      simp only [Bool.and_false, Bool.false_eq_true, if_false, List.nil_append]
      exact ih d
    | true => simp only [Bool.and_true, if_true, ih, deliver_shown hline, beq_iff_eq]

/-! ## Two journals -/

/-- Where a sink writes to, and the level that a message has to reach. -/
def Sink.route (sink : Sink) : Target × Level := (sink.target, sink.threshold)

theorem route_numbered (serial : Nat) (targets : List (Target × Level)) :
    (numbered serial targets).map Sink.route = targets := by
  induction targets generalizing serial with
  | nil => rfl
  | cons target rest ih => rw [numbered, List.map_cons, ih, Sink.route]

/-- Sinks with the same routes do the same: a relation of two disks that is kept when octets are
added to a file on both holds behind them, and the console shows the same. -/
theorem deliverAll_both {R : Disk → Disk → Prop} {sinks' : List Sink}
    (hroutes : sinks.map Sink.route = sinks'.map Sink.route)
    (hextend : ∀ sink ∈ sinks, ∀ location octets d d', sink.target = .file location → R d d' →
      R (extend d location octets) (extend d' location octets))
    (line : Option Text) (notice : Notice) (level : Level) {d d' : Disk} (h : R d d') :
    R (deliverAll line notice level sinks d).1 (deliverAll line notice level sinks' d').1 ∧
      (deliverAll line notice level sinks d).2 = (deliverAll line notice level sinks' d').2 := by
  induction sinks generalizing sinks' d d' with
  | nil =>
    rw [List.map_nil, eq_comm, List.map_eq_nil_iff] at hroutes
    rw [hroutes]
    exact ⟨h, rfl⟩
  | cons sink rest ih =>
    rw [List.map_cons, eq_comm, List.map_eq_cons_iff] at hroutes
    obtain ⟨sink', rest', rfl, hroute, hrest⟩ := hroutes
    obtain ⟨htarget, hthreshold⟩ := Prod.mk.inj hroute
    have ih := @ih rest' hrest.symm fun sink h => hextend sink (List.mem_cons_of_mem _ h)
    rw [deliverAll, deliverAll, hthreshold]
    split
    · have hfirst : R (deliver line notice sink d).1 (deliver line notice sink' d').1 ∧
          (deliver line notice sink d).2 = (deliver line notice sink' d').2 := by
        unfold deliver
        rw [htarget]
        cases line with
        | none => exact ⟨h, rfl⟩
        | some line =>
          cases hplace : sink.target with
          | console => exact ⟨h, rfl⟩
          | file location =>
            simp only
            split
            · exact ⟨hextend sink List.mem_cons_self location _ d d' hplace h, rfl⟩
            · exact ⟨h, rfl⟩
      obtain ⟨hdisk, hshown⟩ := ih hfirst.1
      exact ⟨hdisk, by simp only [hfirst.2, hshown]⟩
    · exact ih h

/-! ## Writing a message -/

def currentLevel (j : Journal) : Level := j.level.getD .warning

theorem encode_entry (now : Int) (level : Level) {message : Text} (h : Utf8.Encodable message) :
    Utf8.encode (entry now level message) =
      .ok ((entry now level message).flatMap Utf8.encodePoint) := by
  have hname : Utf8.Encodable level.name := by cases level <;> exact Utf8.encodable_ofString _
  refine Utf8.encode_eq_ok_iff.mpr ⟨?_, rfl⟩
  exact ((((Calendar.encodable_timestamp now).append (Utf8.encodable_ofString _)).append
    hname).append (Utf8.encodable_ofString _)).append h |>.append (Utf8.encodable_ofString _)

/-- **Two journals with the same routes** do the same with a message that both take or neither. -/
theorem write_both {R : Disk → Disk → Prop} {j j' : Journal}
    (hlevel : level.reaches j.currentLevel = level.reaches j'.currentLevel)
    (hroutes : j.sinks.map Sink.route = j'.sinks.map Sink.route)
    (hextend : ∀ sink ∈ j.sinks, ∀ location octets d d', sink.target = .file location → R d d' →
      R (extend d location octets) (extend d' location octets))
    (now : Int) (message : Message) {d d' : Disk} (h : R d d') :
    R (j.write now level message d).1 (j'.write now level message d').1 ∧
      (j.write now level message d).2 = (j'.write now level message d').2 := by
  unfold currentLevel at hlevel
  unfold write
  rw [hlevel]
  split
  · cases hsinks : j.sinks with
    | nil =>
      rw [hsinks, List.map_nil, eq_comm, List.map_eq_nil_iff] at hroutes
      rw [hroutes]
      exact ⟨h, rfl⟩
    | cons sink rest =>
      cases hsinks' : j'.sinks with
      | nil => rw [hsinks, hsinks'] at hroutes; cases hroutes
      | cons sink' rest' =>
        rw [hsinks] at hextend
        rw [hsinks, hsinks'] at hroutes
        exact deliverAll_both hroutes hextend _ message.notice level h
  · exact ⟨h, rfl⟩

/-- **A message below the level of the journal** is written nowhere. -/
theorem write_of_not_reaches {j : Journal} (h : level.reaches j.currentLevel = false) (now : Int)
    (message : Message) (d : Disk) : j.write now level message d = (d, []) := by
  unfold write
  rw [show j.level.getD .warning = j.currentLevel from rfl, h]
  rfl

/-- **A message that reaches it** goes to the sinks, or without any to the last resort. -/
theorem write_of_reaches {j : Journal} (h : level.reaches j.currentLevel = true) (now : Int)
    {message : Text} (hmessage : Utf8.Encodable message) (notice : Notice) (d : Disk) :
    let line := entry now level message
    (∀ location, Disk.entry? (j.write now level { text := message, notice } d).1 location =
        (d.entry? location).map (Entry.extended
          (copies (.file location) level j.sinks (line.flatMap Utf8.encodePoint)))) ∧
      (j.write now level { text := message, notice } d).2 =
        if j.sinks = [] then lastResort level { text := message, notice }
        else copies .console level j.sinks line := by
  intro line
  have hline := encode_entry now level hmessage
  unfold write
  rw [show j.level.getD .warning = j.currentLevel from rfl, h]
  simp only [if_true]
  cases hsinks : j.sinks with
  | nil =>
    have hid : Entry.extended [] = id := funext Entry.extended_nil
    simp only [copies_nil, hid, Option.map_id, id, if_true, implies_true, and_self]
  | cons sink rest =>
    simp only [reduceCtorEq, if_false, Option.map_some]
    exact ⟨deliverAll_entry hline level _ d, deliverAll_shown hline level _ d⟩

/-! ## Two notices -/

theorem deliver_disk (line : Option Text) (notice notice' : Notice) (sink : Sink) (d : Disk) :
    (deliver line notice sink d).1 = (deliver line notice' sink d).1 := by
  unfold deliver
  split
  · rfl
  · rfl
  · split <;> rfl

/-- The notice of a message has no part in what sinks do to the disk. -/
theorem deliverAll_disk (line : Option Text) (notice notice' : Notice) (level : Level)
    (sinks : List Sink) (d : Disk) :
    (deliverAll line notice level sinks d).1 = (deliverAll line notice' level sinks d).1 := by
  induction sinks generalizing d with
  | nil => rfl
  | cons sink rest ih =>
    rw [deliverAll, deliverAll]
    split
    · simp only [deliver_disk line notice notice' sink d, ih]
    · exact ih d

/-- **A message does the same to the disk** whatever its notice. -/
theorem write_disk (j : Journal) (now : Int) (level : Level) (text : Option Text)
    (notice notice' : Notice) (d : Disk) :
    (j.write now level { text, notice } d).1 =
      (j.write now level { text, notice := notice' } d).1 := by
  unfold write
  split
  · split
    · rfl
    · exact deliverAll_disk _ notice notice' level _ d
  · rfl

end Journal

end RequestCheck
