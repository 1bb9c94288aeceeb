import Mathlib.Data.List.Basic
import RequestCheck.Newsroom
import RequestCheck.Proofs.Delivery

/-!
# Who is subscribed

Subscribers come and go, some of them fail to come, and anybody writes at any time. At every moment
the sinks of the journal are those that were there before, and behind them those of the subscribers
that are there, in the order in which they came. A message goes to each of them that it reaches, and
files are only ever added to.

    d.Endures d'          each entry of d is in d', with octets added if it is a file
    n.Orderly j           the sinks of n are those of j and those of the open subscribers
    act_orderly           one action
    newsroom_of_actions   any number of actions, and one more
-/

namespace RequestCheck

/-! ## Disks that only grow -/

namespace Disk

variable {d d' d'' : Disk} {location : Location} {path : Text}

/-- Every entry stays where it is; a file may get more behind what it holds. -/
structure Endures (d d' : Disk) : Prop where
  home_eq : d'.home = d.home
  entry : ∀ location entry, d.entry? location = some entry →
    ∃ more, d'.entry? location = some (entry.extended more)

namespace Endures

theorem refl (d : Disk) : Endures d d :=
  ⟨rfl, fun _ entry h => ⟨[], by rw [entry.extended_nil]; exact h⟩⟩

theorem trans (h : Endures d d') (h' : Endures d' d'') : Endures d d'' where
  home_eq := by rw [h'.home_eq, h.home_eq]
  entry := by
    intro location entry hentry
    obtain ⟨more, hmore⟩ := h.entry location entry hentry
    obtain ⟨rest, hrest⟩ := h'.entry location _ hmore
    exact ⟨more ++ rest, by rw [hrest, Entry.extended_extended]⟩

/-- Ways through directories are kept. -/
theorem locate (h : Endures d d') (hlocate : d.locate path = .ok location) :
    d'.locate path = .ok location := by
  have hkeeps : Keeps (fun _ => True) d d' := {
    home_eq := h.home_eq
    entry_eq := fun _ hnot => absurd trivial hnot
    directory := fun location hd => (h.entry location .directory hd).choose_spec }
  exact hkeeps.locate hlocate

theorem of_readies (h : Readies d d') : Endures d d' where
  home_eq := h.home_eq
  entry := by
    intro location entry hentry
    refine ⟨[], ?_⟩
    rw [entry.extended_nil]
    rcases h.entry location with heq | ⟨hnone, -⟩
    · rw [heq, hentry]
    · rw [hnone] at hentry; cases hentry

end Endures

/-- Something lies at a location, and it is no directory. -/
def Holds (d : Disk) (location : Location) : Prop :=
  ∃ entry, d.entry? location = some entry ∧ entry ≠ .directory

theorem Holds.endures (h : d.Holds location) (hd : Endures d d') : d'.Holds location := by
  obtain ⟨entry, hentry, hplace⟩ := h
  obtain ⟨more, hmore⟩ := hd.entry location entry hentry
  refine ⟨_, hmore, fun hdirectory => hplace ?_⟩
  cases entry with
  | directory => rfl
  | file content => cases hdirectory
  | void => cases hdirectory

/-- A file that has been opened is there, and it has been made if it was missing. -/
theorem append_nil_readies (h : d.append path [] = .ok d') :
    Readies d d' ∧ ∃ location, d.locate path = .ok location ∧ d'.Holds location := by
  unfold append modify at h
  cases hlocate : d.locate path with
  | error error => rw [hlocate] at h; cases h
  | ok location =>
    rw [hlocate] at h
    simp only at h
    cases hentry : d.entry? location with
    | none =>
      rw [hentry] at h
      cases h
      have hplace : d.entry? location ≠ some .directory := by rw [hentry]; simp
      refine ⟨.put hentry (.inr rfl), location, rfl, .file [], ?_, nofun⟩
      rw [entry_put (ne_nil_of_ne_directory hplace), if_pos rfl]
      rfl
    | some entry =>
      rw [hentry] at h
      cases entry with
      | directory => cases h
      | void => cases h; exact ⟨.refl d, location, rfl, .void, hentry, nofun⟩
      | file content =>
        cases h
        have hplace : d.entry? location ≠ some .directory := by rw [hentry]; simp
        have hput : ∀ other, Disk.entry? (d.put location (.file (content ++ []))) other =
            d.entry? other := by
          intro other
          rw [entry_put (ne_nil_of_ne_directory hplace), List.append_nil]
          split
          · next h => rw [h, hentry]
          · rfl
        exact ⟨⟨rfl, fun other => .inl (hput other)⟩, location, rfl, .file content,
          (hput location).trans hentry, nofun⟩

end Disk

namespace Journal

/-! ## Subscribing -/

theorem serial_numbered (serial : Nat) (targets : List (Target × Level)) :
    (numbered serial targets).map (·.serial) = List.range' serial targets.length := by
  induction targets generalizing serial with
  | nil => rfl
  | cons target rest ih =>
    rw [numbered, List.map_cons, ih, List.length_cons, List.range'_succ]

/-- Where a log file lies that has been opened. -/
theorem openFile_readies {p : Path} {d d' : Disk} {location : Location}
    (h : openFile p d = .ok (location, d')) :
    d.Readies d' ∧ d'.locate (p.absolute d'.home).toText = .ok location ∧ d'.Holds location := by
  unfold openFile at h
  simp only at h
  split at h
  · cases h
  · next opened happend =>
    obtain ⟨hreadies, location', hlocate', hholds⟩ := Disk.append_nil_readies happend
    split at h
    · cases h
    · next location'' hlocate =>
      cases h
      obtain rfl : location' = location :=
        Except.ok.inj ((hreadies.keeps.locate hlocate').symm.trans hlocate)
      rw [hreadies.home_eq]
      exact ⟨hreadies, hlocate, hholds⟩

end Journal

def Subscriber.HasLogFile (d : Disk) (k : Subscriber) : Prop :=
  ∀ p, Journal.filePath? k.path = some p → ∃ location,
    d.locate (p.absolute d.home).toText = .ok location ∧ d.Holds location

namespace Journal

/-- What comes of a subscription: it fails and leaves the sinks as they are, or the console and the
log file are attached. Either way nothing is done to the disk but to make what is missing. -/
inductive Subscribes (j : Journal) (path : Option Text) (level : Level) (d : Disk) :
    Except FileError Subscription × Journal × Disk → Prop where
  | failed {error : FileError} {j' : Journal} {d' : Disk} (hsinks : j'.sinks = j.sinks)
      (hserial : j'.serial = j.serial) (hlevel : j'.level = j.level ∨ j'.level = some level)
      (hd : d.Readies d') : Subscribes j path level d (.error error, j', d')
  | attached {k : Subscriber} {d' : Disk} {subscription : Subscription}
      (hk : k = { path, level, subscription })
      (hsubscription : subscription = List.range' j.serial (k.targets d').length)
      (hd : d.Readies d') (hfile : k.HasLogFile d') :
      Subscribes j path level d
        (.ok subscription, ({ j with level := some level }.attach (k.targets d')).2, d')

/-- **Every subscription** goes one of these ways. -/
theorem subscribe_subscribes (j : Journal) (path : Option Text) (level : Level) (d : Disk) :
    Subscribes j path level d (j.subscribe path level d) := by
  have hmade : ∀ {result d'}, makeDirectory (filePath? path) d = (result, d') → d.Readies d' := by
    intro result d' h
    unfold makeDirectory at h
    split at h
    · cases h
      exact .refl d
    · exact Disk.readies_of_makeParents h
  unfold subscribe
  split
  · next h => exact .failed rfl rfl (.inl rfl) (hmade h)
  · next d1 h =>
    simp only
    split
    · next hpath =>
      have htargets : ∀ subscription, Subscriber.targets { path, level, subscription } d1 =
          [(.console, level)] := by
        intro subscription
        unfold Subscriber.targets Subscriber.logFile?
        simp only [hpath, Option.bind_none, Option.toList_none, List.map_nil]
      have key := @Subscribes.attached j path level d _ d1 [j.serial] rfl
        (by rw [htargets]; rfl) (hmade h) (fun p hp => by rw [hpath] at hp; cases hp)
      rw [htargets] at key
      exact key
    · next p hpath =>
      split
      · exact .failed rfl rfl (.inr rfl) (hmade h)
      · next location d2 hopen =>
        obtain ⟨hreadies, hlocate, hholds⟩ := openFile_readies hopen
        have htargets : ∀ subscription, Subscriber.targets { path, level, subscription } d2 =
            [(.console, level), (.file location, .debug)] := by
          intro subscription
          unfold Subscriber.targets Subscriber.logFile?
          simp only [hpath, Option.bind_some, hlocate]
          rfl
        have key := @Subscribes.attached j path level d _ d2 [j.serial, j.serial + 1] rfl
          (by rw [htargets]; rfl) ((hmade h).trans hreadies) (by
            intro p' hp'
            rw [hpath] at hp'
            cases hp'
            exact ⟨location, hlocate, hholds⟩)
        rw [htargets] at key
        exact key

/-- Whoever leaves takes along what it has brought. -/
theorem unsubscribe_attach (j : Journal) (targets : List (Target × Level)) :
    ((j.attach targets).2.unsubscribe (List.range' j.serial targets.length)).sinks = j.sinks := by
  show (j.sinks ++ numbered j.serial targets).filter _ = j.sinks
  have hold : ∀ sink ∈ j.sinks,
      (!(List.range' j.serial targets.length).contains sink.serial) = true := by
    intro sink hsink
    have hlt := j.serial_lt sink hsink
    simp only [Bool.not_eq_true', List.contains_eq_mem, decide_eq_false_iff_not,
      List.mem_range'_1]
    omega
  have hnew : ∀ sink ∈ numbered j.serial targets,
      ¬ (!(List.range' j.serial targets.length).contains sink.serial) = true := by
    intro sink hsink
    have hbounds := serial_of_mem_numbered hsink
    simp only [Bool.not_eq_true', Bool.not_eq_false, List.contains_eq_mem, decide_eq_true_eq,
      List.mem_range'_1]
    exact hbounds
  rw [List.filter_append, List.filter_eq_self.mpr hold, List.filter_eq_nil_iff.mpr hnew,
    List.append_nil]

theorem extend_endures (location : Location) (octets : Octets) (d : Disk) :
    d.Endures (extend d location octets) where
  home_eq := by
    unfold extend
    split <;> rfl
  entry := by
    intro other entry hentry
    rw [extend_entry, hentry]
    split
    · exact ⟨octets, rfl⟩
    · exact ⟨[], by rw [entry.extended_nil]⟩

theorem write_endures (j : Journal) (now : Int) (level : Level) (message : Message) (d : Disk) :
    d.Endures (j.write now level message d).1 :=
  write_relates Disk.Endures.refl Disk.Endures.trans
    (fun location octets d' _ => extend_endures location octets d') now level message d

end Journal

/-! ## One action -/

namespace Subscriber

variable {k : Subscriber} {d d' : Disk}

theorem HasLogFile.endures (h : k.HasLogFile d) (hd : d.Endures d') : k.HasLogFile d' := by
  intro p hp
  obtain ⟨location, hlocate, hholds⟩ := h p hp
  rw [hd.home_eq]
  exact ⟨location, hd.locate hlocate, hholds.endures hd⟩

theorem HasLogFile.targets_eq (h : k.HasLogFile d) (hd : d.Endures d') :
    k.targets d' = k.targets d := by
  unfold targets logFile?
  cases hpath : Journal.filePath? k.path with
  | none => rfl
  | some p =>
    obtain ⟨location, hlocate, -⟩ := h p hpath
    simp only [Option.bind_some, hd.home_eq, hlocate, hd.locate hlocate]

end Subscriber

namespace Newsroom

/-- **Good order.** The sinks are those of a journal and behind them those of the subscribers that are
there, in the order in which they came. The serial numbers increase, so none of the sinks is there
twice. A subscriber holds its own sinks, and its log file is there. -/
structure Orderly (j : Journal) (n : Newsroom) : Prop where
  sinks_eq : n.journal.sinks = j.sinks ++ n.subscribers.flatMap (Subscriber.sinks n.disk)
  subscription_eq : ∀ k ∈ n.subscribers, k.subscription = (k.sinks n.disk).map (·.serial)
  increasing : (n.subscribers.flatMap Subscriber.subscription).Pairwise (· < ·)
  serial_le : j.serial ≤ n.journal.serial
  bounds : ∀ serial ∈ n.subscribers.flatMap Subscriber.subscription,
    j.serial ≤ serial ∧ serial < n.journal.serial
  logFile : ∀ k ∈ n.subscribers, k.isOpen = true → k.HasLogFile n.disk

variable {j : Journal} {n : Newsroom}

theorem orderly_start (j : Journal) (d : Disk) (console : Text) :
    Orderly j { journal := j, disk := d, console } where
  sinks_eq := (List.append_nil _).symm
  subscription_eq := nofun
  increasing := .nil
  serial_le := Nat.le_refl _
  bounds := nofun
  logFile := nofun

/-- An action only adds to files. -/
theorem act_endures (n : Newsroom) (action : Action) : n.disk.Endures (n.act action).disk := by
  cases action with
  | subscribe path level =>
    have key := n.journal.subscribe_subscribes path level n.disk
    simp only [act]
    generalize n.journal.subscribe path level n.disk = after at key ⊢
    cases key with
    | failed _ _ _ hd => exact .of_readies hd
    | attached _ _ hd _ => exact .of_readies hd
  | write subscriber now level message =>
    simp only [act]
    split
    · exact Disk.Endures.refl _
    · exact n.journal.write_endures now level message n.disk
  | unsubscribe subscriber =>
    simp only [act]
    split <;> exact Disk.Endures.refl _

/-- Good order does not depend on what is added to files. -/
theorem Orderly.endures (h : n.Orderly j) {d : Disk} (hd : n.disk.Endures d) (console : Text) :
    Orderly j { n with disk := d, console } := by
  have hsinks : ∀ k ∈ n.subscribers, k.sinks d = k.sinks n.disk := by
    intro k hk
    unfold Subscriber.sinks
    split
    · next hopen => rw [(h.logFile k hk hopen).targets_eq hd]
    · rfl
  exact {
    sinks_eq := by rw [List.flatMap_congr hsinks]; exact h.sinks_eq
    subscription_eq := fun k hk => by rw [hsinks k hk]; exact h.subscription_eq k hk
    increasing := h.increasing
    serial_le := h.serial_le
    bounds := h.bounds
    logFile := fun k hk hopen => (h.logFile k hk hopen).endures hd }

/-- Good order depends on nothing of the journal but its sinks, as long as numbers are not used
again. -/
theorem Orderly.of_sinks (h : n.Orderly j) {j' : Journal} (hsinks : j'.sinks = n.journal.sinks)
    (hserial : n.journal.serial ≤ j'.serial) : Orderly j { n with journal := j' } where
  sinks_eq := by rw [hsinks]; exact h.sinks_eq
  subscription_eq := h.subscription_eq
  increasing := h.increasing
  serial_le := Nat.le_trans h.serial_le hserial
  bounds := fun serial hmem =>
    ⟨(h.bounds serial hmem).1, Nat.lt_of_lt_of_le (h.bounds serial hmem).2 hserial⟩
  logFile := h.logFile

/-- A new subscriber comes behind those that are there. -/
theorem Orderly.attach (h : n.Orderly j) (level : Journal.Level) {k : Subscriber}
    (hopen : k.isOpen = true)
    (hsubscription : k.subscription = List.range' n.journal.serial (k.targets n.disk).length)
    (hfile : k.HasLogFile n.disk) :
    Orderly j { n with
      journal := ({ n.journal with level := some level }.attach (k.targets n.disk)).2
      subscribers := n.subscribers ++ [k] } := by
  have hhead : k.subscription.headD 0 = n.journal.serial := by rw [hsubscription]; rfl
  have hsinks : k.sinks n.disk = Journal.numbered n.journal.serial (k.targets n.disk) := by
    unfold Subscriber.sinks
    rw [if_pos hopen, hhead]
  have hsubscriptions : (n.subscribers ++ [k]).flatMap Subscriber.subscription =
      n.subscribers.flatMap Subscriber.subscription ++ k.subscription := by
    rw [List.flatMap_append, List.flatMap_singleton]
  have hbounds : ∀ serial ∈ k.subscription, n.journal.serial ≤ serial ∧
      serial < n.journal.serial + (k.targets n.disk).length := by
    intro serial hserial
    rw [hsubscription, List.mem_range'_1] at hserial
    exact hserial
  exact {
    sinks_eq := by
      show n.journal.sinks ++ Journal.numbered n.journal.serial (k.targets n.disk) = _
      rw [List.flatMap_append, List.flatMap_singleton, hsinks, h.sinks_eq, List.append_assoc]
    subscription_eq := by
      intro k' hk'
      rcases List.mem_append.mp hk' with hk' | hk'
      · exact h.subscription_eq k' hk'
      · rw [List.mem_singleton.mp hk', hsinks, Journal.serial_numbered]
        exact hsubscription
    increasing := by
      rw [hsubscriptions, List.pairwise_append]
      refine ⟨h.increasing, ?_, fun x hx y hy => ?_⟩
      · rw [hsubscription]
        exact List.pairwise_lt_range' 1
      · exact Nat.lt_of_lt_of_le (h.bounds x hx).2 (hbounds y hy).1
    serial_le := Nat.le_trans h.serial_le (Nat.le_add_right _ _)
    bounds := by
      intro serial hserial
      rw [hsubscriptions] at hserial
      rcases List.mem_append.mp hserial with hserial | hserial
      · exact ⟨(h.bounds serial hserial).1, Nat.lt_add_right _ (h.bounds serial hserial).2⟩
      · exact ⟨Nat.le_trans h.serial_le (hbounds serial hserial).1, (hbounds serial hserial).2⟩
    logFile := by
      intro k' hk' hopen'
      rcases List.mem_append.mp hk' with hk' | hk'
      · exact h.logFile k' hk' hopen'
      · rw [List.mem_singleton.mp hk']
        exact hfile }

/-- A subscriber holds its own sinks. -/
theorem Orderly.mem_subscription (h : n.Orderly j) {k : Subscriber} (hk : k ∈ n.subscribers)
    {sink : Journal.Sink} (hsink : sink ∈ k.sinks n.disk) : sink.serial ∈ k.subscription := by
  rw [h.subscription_eq k hk]
  exact List.mem_map_of_mem hsink

/-- Nobody holds a sink that was there before. -/
theorem Orderly.notMem_of_mem (h : n.Orderly j) {k : Subscriber} (hk : k ∈ n.subscribers)
    {sink : Journal.Sink} (hsink : sink ∈ j.sinks) : sink.serial ∉ k.subscription := by
  intro hmem
  have hlt := j.serial_lt sink hsink
  have hle := (h.bounds sink.serial (List.mem_flatMap.mpr ⟨k, hk, hmem⟩)).1
  omega

/-- Nobody holds a sink of somebody else. -/
theorem Orderly.notMem_of_split (h : n.Orderly j) {before after : List Subscriber}
    {k k' : Subscriber} (hsplit : n.subscribers = before ++ k :: after) (hk' : k' ∈ before ++ after)
    {sink : Journal.Sink} (hsink : sink ∈ k'.sinks n.disk) : sink.serial ∉ k.subscription := by
  intro hmem
  have hincreasing := h.increasing
  rw [hsplit, List.flatMap_append, List.flatMap_cons, List.pairwise_append,
    List.pairwise_append] at hincreasing
  obtain ⟨-, ⟨-, -, hbehind⟩, hahead⟩ := hincreasing
  have hthere : k' ∈ n.subscribers := by
    rw [hsplit]
    exact (List.sublist_append_right [k] after).append_left before |>.subset hk'
  have hmem' := h.mem_subscription hthere hsink
  rcases List.mem_append.mp hk' with hk' | hk'
  · have hlt := hahead sink.serial (List.mem_flatMap.mpr ⟨k', hk', hmem'⟩) sink.serial
      (List.mem_append_left _ hmem)
    omega
  · have hlt := hbehind sink.serial hmem sink.serial (List.mem_flatMap.mpr ⟨k', hk', hmem'⟩)
    omega

/-- The serial numbers that a subscriber holds are those of its own sinks and of no others. -/
theorem Orderly.filter_sinks (h : n.Orderly j) {before after : List Subscriber} {k : Subscriber}
    (hsplit : n.subscribers = before ++ k :: after) :
    n.journal.sinks.filter (fun sink => !k.subscription.contains sink.serial) =
      j.sinks ++ (before ++ after).flatMap (Subscriber.sinks n.disk) := by
  have hk : k ∈ n.subscribers := by rw [hsplit]; exact List.mem_append_right _ List.mem_cons_self
  have hkeep : ∀ {sinks : List Journal.Sink}, (∀ sink ∈ sinks, sink.serial ∉ k.subscription) →
      sinks.filter (fun sink => !k.subscription.contains sink.serial) = sinks := by
    intro sinks hsinks
    rw [List.filter_eq_self]
    intro sink hsink
    simpa using hsinks sink hsink
  have hown : (k.sinks n.disk).filter (fun sink => !k.subscription.contains sink.serial) = [] := by
    rw [List.filter_eq_nil_iff]
    intro sink hsink
    simpa using h.mem_subscription hk hsink
  have hothers : ∀ {ks : List Subscriber}, (∀ k' ∈ ks, k' ∈ before ++ after) →
      ∀ sink ∈ ks.flatMap (Subscriber.sinks n.disk), sink.serial ∉ k.subscription := by
    intro ks hks sink hsink
    obtain ⟨k', hk', hsink⟩ := List.mem_flatMap.mp hsink
    exact h.notMem_of_split hsplit (hks k' hk') hsink
  rw [h.sinks_eq, hsplit]
  simp only [List.flatMap_append, List.flatMap_cons, List.filter_append]
  rw [hkeep fun sink hsink => h.notMem_of_mem hk hsink,
    hkeep (hothers fun k' => List.mem_append_left after), hown, List.nil_append,
    hkeep (hothers fun k' => List.mem_append_right before)]

/-- A subscriber that leaves takes its own sinks with it, and leaves all others. -/
theorem Orderly.leave (h : n.Orderly j) {before after : List Subscriber} {k : Subscriber}
    (hsplit : n.subscribers = before ++ k :: after) :
    Orderly j { n with
      journal := n.journal.unsubscribe k.subscription
      subscribers := before ++ k.left :: after } := by
  have hleft : k.left.sinks n.disk = [] := rfl
  have hothers : ∀ k' ∈ before ++ k.left :: after, k' = k.left ∨ k' ∈ n.subscribers := by
    intro k' hk'
    rw [hsplit]
    simp only [List.mem_append, List.mem_cons] at hk' ⊢
    tauto
  have hsublist : ((before ++ k.left :: after).flatMap Subscriber.subscription).Sublist
      (n.subscribers.flatMap Subscriber.subscription) := by
    rw [hsplit]
    simp only [List.flatMap_append, List.flatMap_cons]
    exact (List.Sublist.refl _).append (List.sublist_append_right _ _)
  exact {
    sinks_eq := by
      show n.journal.sinks.filter _ = _
      rw [h.filter_sinks hsplit]
      simp only [List.flatMap_append, List.flatMap_cons, hleft, List.nil_append]
    subscription_eq := by
      intro k' hk'
      rcases hothers k' hk' with rfl | hk'
      · rfl
      · exact h.subscription_eq k' hk'
    increasing := h.increasing.sublist hsublist
    serial_le := h.serial_le
    bounds := fun serial hserial => h.bounds serial (hsublist.subset hserial)
    logFile := by
      intro k' hk' hopen
      rcases hothers k' hk' with rfl | hk'
      · cases hopen
      · exact h.logFile k' hk' hopen }

/-- **One action** keeps good order. -/
theorem act_orderly (h : n.Orderly j) (action : Action) : (n.act action).Orderly j := by
  cases action with
  | subscribe path level =>
    have key := n.journal.subscribe_subscribes path level n.disk
    simp only [act]
    generalize n.journal.subscribe path level n.disk = after at key ⊢
    cases key with
    | failed hsinks hserial _ hd =>
      exact (h.of_sinks hsinks (Nat.le_of_eq hserial.symm)).endures (.of_readies hd) n.console
    | attached hk hsubscription hd hfile =>
      have hrest := h.endures (.of_readies hd) n.console
      subst hk
      exact hrest.attach level rfl hsubscription hfile
  | write subscriber now level message =>
    simp only [act]
    split
    · exact h
    · exact h.endures (n.journal.write_endures now level message n.disk) _
  | unsubscribe subscriber =>
    simp only [act]
    split
    · exact h
    · next k hk =>
      obtain ⟨hlt, rfl⟩ := List.getElem?_eq_some_iff.mp hk
      obtain ⟨before, after, hsplit, -, hset⟩ :=
        @List.exists_of_set _ _ n.subscribers[subscriber].left _ hlt
      rw [hset]
      exact h.leave hsplit

/-- **All actions** keep good order. -/
theorem actAll_orderly (h : n.Orderly j) (actions : List Action) :
    (n.actAll actions).Orderly j := by
  induction actions generalizing n with
  | nil => exact h
  | cons action actions ih => exact ih (act_orderly h action)

/-- Further actions only add to files. -/
theorem actAll_endures (n : Newsroom) (actions : List Action) :
    n.disk.Endures (n.actAll actions).disk := by
  induction actions generalizing n with
  | nil => exact Disk.Endures.refl _
  | cons action actions ih => exact (act_endures n action).trans (ih (n.act action))

end Newsroom

/-! ## Who gets a message -/

namespace Subscriber

/-- A subscriber gets a message on a target: the console shows what reaches the level of the
subscriber, and its log file takes everything. -/
def takes (d : Disk) (target : Journal.Target) (level : Journal.Level) (k : Subscriber) : Bool :=
  k.isOpen && match target with
    | .console => level.reaches k.level
    | .file location => k.logFile? d == some location

theorem countP_sinks (d : Disk) (target : Journal.Target) (level : Journal.Level)
    (k : Subscriber) :
    (k.sinks d).countP (Journal.Sink.takes target level) =
      if k.takes d target level then 1 else 0 := by
  unfold sinks takes
  cases k.isOpen with
  | false => rfl
  | true =>
    unfold targets
    cases target with
    | console =>
      cases k.logFile? d <;> simp [Journal.numbered, Journal.Sink.takes, List.countP_cons]
    | file location =>
      cases k.logFile? d <;>
        simp [Journal.numbered, Journal.Sink.takes, List.countP_cons, Journal.Level.reaches_debug]

theorem countP_flatMap_sinks (d : Disk) (target : Journal.Target) (level : Journal.Level)
    (subscribers : List Subscriber) :
    (subscribers.flatMap (sinks d)).countP (Journal.Sink.takes target level) =
      subscribers.countP (takes d target level) := by
  induction subscribers with
  | nil => rfl
  | cons k rest ih =>
    rw [List.flatMap_cons, List.countP_append, List.countP_cons, ih, countP_sinks, Nat.add_comm]

end Subscriber

namespace Newsroom

variable {j : Journal} {n : Newsroom}

/-- How often a message is written to a target: once for each sink there was before and for each
subscriber that gets it there. -/
def takers (j : Journal) (n : Newsroom) (target : Journal.Target) (level : Journal.Level) : Nat :=
  j.sinks.countP (Journal.Sink.takes target level) +
    n.subscribers.countP (Subscriber.takes n.disk target level)

theorem Orderly.copies_eq (h : n.Orderly j) {α : Type} (target : Journal.Target)
    (level : Journal.Level) (line : List α) :
    Journal.copies target level n.journal.sinks line =
      (List.replicate (n.takers j target level) line).flatten := by
  unfold Journal.copies takers
  rw [h.sinks_eq, List.countP_append, Subscriber.countP_flatMap_sinks]

/-- A message that the journal takes is written as often as there is somebody to get it. -/
theorem Orderly.write_reaches (h : n.Orderly j) {i : Nat} (hi : i < n.subscribers.length)
    {level : Journal.Level} (hlevel : level.reaches n.journal.currentLevel = true) (now : Int)
    {message : Text} (hmessage : Utf8.Encodable message) (notice : Journal.Notice) :
    let line := Journal.entry now level message
    let m := n.act (.write i now level { text := message, notice })
    (∀ location, m.disk.entry? location = (n.disk.entry? location).map (Entry.extended
        (List.replicate (n.takers j (.file location) level)
          (line.flatMap Utf8.encodePoint)).flatten)) ∧
      m.console = n.console ++
        if n.journal.sinks = [] then Journal.lastResort level { text := message, notice }
        else (List.replicate (n.takers j .console level) line).flatten := by
  have hwrite := Journal.write_of_reaches hlevel now hmessage notice n.disk
  simp only [act, List.getElem?_eq_getElem hi]
  constructor
  · intro location
    rw [hwrite.1, h.copies_eq]
  · rw [hwrite.2, h.copies_eq]

/-- A message that the journal does not take is written nowhere. -/
theorem write_not_reaches {level : Journal.Level}
    (hlevel : level.reaches n.journal.currentLevel = false) (i : Nat) (now : Int)
    (message : Journal.Message) : n.act (.write i now level message) = n := by
  simp only [act]
  split
  · rfl
  · rw [Journal.write_of_not_reaches hlevel]
    simp only [List.append_nil]

/-! ## Leaving -/

/-- Who leaves takes nothing with it but its own sinks. -/
theorem Orderly.sinks_unsubscribe (h : n.Orderly j) (i : Nat) :
    (n.act (.unsubscribe i)).journal.sinks =
      j.sinks ++ (n.subscribers.eraseIdx i).flatMap (Subscriber.sinks n.disk) := by
  simp only [act]
  split
  · next hnone =>
    rw [List.eraseIdx_of_length_le (List.getElem?_eq_none_iff.mp hnone)]
    exact h.sinks_eq
  · next k hk =>
    obtain ⟨hlt, rfl⟩ := List.getElem?_eq_some_iff.mp hk
    obtain ⟨before, after, hsplit, rfl, -⟩ :=
      @List.exists_of_set _ _ n.subscribers[i].left _ hlt
    show n.journal.sinks.filter _ = _
    rw [h.filter_sinks hsplit]
    congr 2
    conv_rhs => rw [hsplit]
    rw [List.eraseIdx_append_of_length_le (Nat.le_refl _), Nat.sub_self, List.eraseIdx_cons_zero]

/-- Who has left leaves for good. -/
theorem unsubscribe_again (n : Newsroom) (i : Nat) :
    (n.act (.unsubscribe i)).act (.unsubscribe i) = n.act (.unsubscribe i) := by
  simp only [act]
  cases hk : n.subscribers[i]? with
  | none => simp only [hk]
  | some k =>
    have hlt : i < n.subscribers.length := (List.getElem?_eq_some_iff.mp hk).1
    simp only [List.getElem?_set_self hlt, List.set_set]
    simp [Journal.unsubscribe, Subscriber.left]

/-! ## Any number of actions -/

/-- **Subscribers do not get in each other's way.** After any actions the sinks are those of the
journal in the beginning and of the subscribers that are there. Who leaves leaves all others, and
leaving again changes nothing. A message that reaches the level of the journal goes to each of those
that get it, and otherwise nowhere. Files are only added to. -/
theorem newsroom_of_actions (j : Journal) (d : Disk) (console : Text) (actions : List Action) :
    let n := actAll { journal := j, disk := d, console } actions
    n.Orderly j ∧
    (∀ i,
      let m := n.act (.unsubscribe i)
      m.journal.sinks = j.sinks ++ (n.subscribers.eraseIdx i).flatMap (Subscriber.sinks n.disk) ∧
      m.journal.level = n.journal.level ∧ m.disk = n.disk ∧ m.console = n.console ∧
      m.act (.unsubscribe i) = m) ∧
    (∀ i < n.subscribers.length, ∀ now level message notice, Utf8.Encodable message →
      let line := Journal.entry now level message
      let m := n.act (.write i now level { text := message, notice })
      m.journal = n.journal ∧ m.subscribers = n.subscribers ∧
      (level.reaches n.journal.currentLevel = true →
        (∀ location, m.disk.entry? location = (n.disk.entry? location).map (Entry.extended
          (List.replicate (n.takers j (.file location) level)
            (line.flatMap Utf8.encodePoint)).flatten)) ∧
        m.console = n.console ++
          if n.journal.sinks = [] then Journal.lastResort level { text := message, notice }
          else (List.replicate (n.takers j .console level) line).flatten) ∧
      (level.reaches n.journal.currentLevel = false → m = n)) ∧
    ∀ later, n.disk.Endures (n.actAll later).disk := by
  intro n
  have horderly : n.Orderly j := actAll_orderly (orderly_start j d console) actions
  refine ⟨horderly, fun i => ?_, fun i hi now level message notice hmessage => ?_,
    actAll_endures n⟩
  · refine ⟨horderly.sinks_unsubscribe i, ?_, ?_, ?_, unsubscribe_again n i⟩
    all_goals
      simp only [act]
      split <;> rfl
  · refine ⟨?_, ?_, fun hlevel => horderly.write_reaches hi hlevel now hmessage notice,
      fun hlevel => write_not_reaches hlevel i now { text := message, notice }⟩
    all_goals simp only [act, List.getElem?_eq_getElem hi]

/-- Two subscribers share a log file, a third one has left, and a fourth one has failed to come. The
one that has left writes a message: the file gets it twice, and so does the console, which has a sink
of its own for warnings. -/
theorem newsroom_of_shared_file :
    let j : Journal := (({} : Journal).attach [(.console, .warning)]).2
    let d : Disk := { entries := [(["a.log"], .file []), (["d"], .directory)] }
    let n := actAll { journal := j, disk := d } [.subscribe (some "a.log") .debug,
      .subscribe none .error, .subscribe (some "a.log") .info, .subscribe (some "d") .info,
      .unsubscribe 1]
    let line := Journal.entry 0 .info "m"
    let m := n.act (.write 1 0 .info { text := some "m" })
    n.subscribers.map Subscriber.isOpen = [true, false, true] ∧
      m.disk.entry? ["a.log"] = some (.file ((line ++ line).flatMap Utf8.encodePoint)) ∧
      m.console = line ++ line ∧
      n.journal.sinks.map (fun sink => (sink.serial, sink.target, sink.threshold)) =
        [(0, .console, .warning), (1, .console, .debug), (2, .file ["a.log"], .debug),
          (4, .console, .info), (5, .file ["a.log"], .debug)] := by
  intro j d n line m
  obtain ⟨horderly, -, hwrite, -⟩ := newsroom_of_actions j d []
    [.subscribe (some "a.log") .debug, .subscribe none .error, .subscribe (some "a.log") .info,
      .subscribe (some "d") .info, .unsubscribe 1]
  obtain ⟨-, -, hreaches, -⟩ :=
    hwrite 1 (by decide +kernel) 0 .info "m" {} (Utf8.encodable_ofString "m")
  obtain ⟨hentry, hconsole⟩ := hreaches (by decide +kernel)
  refine ⟨by decide +kernel, ?_, ?_, ?_⟩
  · refine (hentry ["a.log"]).trans ?_
    decide +kernel
  · refine hconsole.trans ?_
    decide +kernel
  · rw [horderly.sinks_eq]
    decide +kernel

end Newsroom

end RequestCheck
