import RequestCheck.Proofs.Newsroom

/-!
# What an attempt leaves behind

Somebody comes and leaves again, or fails to come. The sinks are then those that were there before.
What stays is the level of the journal, and on the disk directories and empty files. So the others
write what they would have written at that level, and a message that reaches both levels or neither
is written as if nobody had come.

    n.attempted p l        the newsroom n once somebody with the path p and the level l has been there
    d.Near d'              d and d' differ in directories and empty files alone
    Parallel m n           m and n have the same subscribers, near disks, and have shown the same
    Alike j d m n          so do they, and the sinks of each are those of j and of its subscribers
    act_alike              one action that comes out alike in both
    later_of_attempt       any number of actions after an attempt
-/

namespace RequestCheck

/-! ## Disks that differ in empty things -/

namespace Disk

variable {d d' d'' : Disk} {location : Location} {path : Text}

/-- There is nothing at a location, or a directory, or a file that holds nothing. -/
def IsBare (d : Disk) (location : Location) : Prop :=
  ∀ entry, d.entry? location = some entry → entry = .directory ∨ entry = .file []

/-- The disks differ only where both have nothing, a directory, or a file that holds nothing. -/
structure Near (d d' : Disk) : Prop where
  home_eq : d.home = d'.home
  entry : ∀ location, d.entry? location = d'.entry? location ∨
    d.IsBare location ∧ d'.IsBare location

namespace Near

theorem symm (h : Near d d') : Near d' d :=
  ⟨h.home_eq.symm, fun location => (h.entry location).imp Eq.symm And.symm⟩

theorem trans (h : Near d d') (h' : Near d' d'') : Near d d'' where
  home_eq := h.home_eq.trans h'.home_eq
  entry := by
    intro location
    rcases h.entry location with heq | ⟨hbare, hbare'⟩
    · unfold IsBare
      rw [heq]
      exact h'.entry location
    · rcases h'.entry location with heq | ⟨-, hbare''⟩
      · exact .inr ⟨hbare, by unfold IsBare; rw [← heq]; exact hbare'⟩
      · exact .inr ⟨hbare, hbare''⟩

theorem of_readies (h : Readies d d') : Near d d' where
  home_eq := h.home_eq.symm
  entry := by
    intro location
    rcases h.entry location with heq | ⟨hnone, hnew⟩
    · exact .inl heq.symm
    · refine .inr ⟨fun entry hentry => ?_, fun entry hentry => ?_⟩
      · rw [hnone] at hentry; cases hentry
      · rw [hentry, Option.some.injEq, Option.some.injEq] at hnew
        exact hnew

/-- Octets that are added to a file on both disks. -/
theorem extend (h : Near d d') (hentry : d.entry? location = d'.entry? location)
    (octets : Octets) :
    Near (Journal.extend d location octets) (Journal.extend d' location octets) where
  home_eq := by
    have hhome : ∀ d : Disk, (Journal.extend d location octets).home = d.home := by
      intro d
      unfold Journal.extend
      split <;> rfl
    rw [hhome, hhome, h.home_eq]
  entry := by
    intro other
    unfold IsBare
    rw [Journal.extend_entry, Journal.extend_entry]
    split
    · next hother => rw [hother, hentry]; exact .inl rfl
    · exact h.entry other

/-- A file that lies on both disks holds the same on both. -/
theorem entry_eq (h : Near d d') (hd : d.Holds location) (hd' : d'.Holds location) :
    d.entry? location = d'.entry? location := by
  rcases h.entry location with heq | ⟨hbare, hbare'⟩
  · exact heq
  · obtain ⟨entry, hentry, hplace⟩ := hd
    obtain ⟨entry', hentry', hplace'⟩ := hd'
    rw [hentry, hentry', (hbare entry hentry).resolve_left hplace,
      (hbare' entry' hentry').resolve_left hplace']

/-- What lay on a disk is the same on two disks that come from it. -/
theorem entry_eq_of_endures {base : Disk} (h : Near d d') (hd : base.Endures d)
    (hd' : base.Endures d') {entry : Entry} (hentry : base.entry? location = some entry) :
    d.entry? location = d'.entry? location := by
  by_cases hplace : entry = .directory
  · subst hplace
    obtain ⟨more, hmore⟩ := hd.entry location _ hentry
    obtain ⟨more', hmore'⟩ := hd'.entry location _ hentry
    rw [hmore, hmore']
    rfl
  · have hholds : base.Holds location := ⟨entry, hentry, hplace⟩
    exact h.entry_eq (hholds.endures hd) (hholds.endures hd')

end Near

/-! ## Ways on two disks -/

theorem enter_unique {part : Text} {next next' : Location}
    (h : d.enter location part = .ok next) (h' : d'.enter location part = .ok next') :
    next = next' := by
  unfold enter at h h'
  cases hentry : d.entry? location with
  | none => rw [hentry] at h; cases h
  | some entry =>
    cases hentry' : d'.entry? location with
    | none => rw [hentry'] at h'; cases h'
    | some entry' =>
      rw [hentry] at h
      rw [hentry'] at h'
      cases entry with
      | file content => cases h
      | void => cases h
      | directory =>
        cases entry' with
        | file content => cases h'
        | void => cases h'
        | directory => exact Except.ok.inj (h.symm.trans h')

theorem walk_unique {parts : List Text} {place place' : Location}
    (h : d.walk location parts = .ok place) (h' : d'.walk location parts = .ok place') :
    place = place' := by
  induction parts generalizing location with
  | nil => exact Except.ok.inj (h.symm.trans h')
  | cons part rest ih =>
    rw [walk] at h h'
    split at h
    · cases h
    · next next hnext =>
      split at h'
      · cases h'
      · next next' hnext' =>
        rw [← enter_unique hnext hnext'] at h'
        exact ih h h'

/-- A path that leads somewhere on two disks leads to the same place on both. -/
theorem locate_unique {place place' : Location} (hhome : d.home = d'.home)
    (h : d.locate path = .ok place) (h' : d'.locate path = .ok place') : place = place' := by
  have hwalk := (locate_eq_ok_iff.mp h).2.2.2.2
  have hwalk' := (locate_eq_ok_iff.mp h').2.2.2.2
  rw [← hhome] at hwalk'
  exact walk_unique hwalk hwalk'

end Disk

/-! ## Subscribers of two newsrooms -/

/-- The log files of the sinks are there. -/
def Journal.HasFiles (j : Journal) (d : Disk) : Prop :=
  ∀ sink ∈ j.sinks, ∀ location, sink.target = .file location → d.Holds location

namespace Subscriber

variable {k k' : Subscriber} {d d' : Disk}

/-- What a subscriber has asked for, and whether it is there. -/
def terms (k : Subscriber) : Option Text × Journal.Level × Bool := (k.path, k.level, k.isOpen)

theorem path_of_terms (h : k.terms = k'.terms) : k.path = k'.path := congrArg (·.1) h

theorem level_of_terms (h : k.terms = k'.terms) : k.level = k'.level := congrArg (·.2.1) h

theorem isOpen_of_terms (h : k.terms = k'.terms) : k.isOpen = k'.isOpen := congrArg (·.2.2) h

theorem terms_left (h : k.terms = k'.terms) : k.left.terms = k'.left.terms := by
  unfold terms left
  rw [path_of_terms h, level_of_terms h]

/-- The log file that a subscriber has on a disk. -/
theorem HasLogFile.holds (h : k.HasLogFile d) {location : Location}
    (hfile : k.logFile? d = some location) : d.Holds location := by
  unfold Subscriber.logFile? at hfile
  cases hpath : Journal.filePath? k.path with
  | none => rw [hpath] at hfile; cases hfile
  | some p =>
    obtain ⟨place, hlocate, hholds⟩ := h p hpath
    simp only [hpath, Option.bind_some, hlocate] at hfile
    cases hfile
    exact hholds

/-- Subscribers on the same terms have their log files in the same place. -/
theorem logFile_eq_of_terms (h : k.terms = k'.terms) (hd : k.HasLogFile d) (hd' : k'.HasLogFile d')
    (hhome : d.home = d'.home) : k.logFile? d = k'.logFile? d' := by
  unfold Subscriber.logFile?
  rw [path_of_terms h, ← hhome]
  cases hpath : Journal.filePath? k'.path with
  | none => rfl
  | some p =>
    obtain ⟨place, hlocate, -⟩ := hd p (by rw [path_of_terms h]; exact hpath)
    obtain ⟨place', hlocate', -⟩ := hd' p hpath
    rw [← hhome] at hlocate'
    simp only [Option.bind_some, hlocate, hlocate', Disk.locate_unique hhome hlocate hlocate']

/-- What there is of the routes of a subscriber. -/
theorem map_route_sinks (d : Disk) (k : Subscriber) :
    (k.sinks d).map Journal.Sink.route = if k.isOpen then k.targets d else [] := by
  unfold sinks
  split
  · exact Journal.route_numbered _ _
  · rfl

/-- Subscribers on the same terms get their messages on the same routes. -/
theorem map_route_flatMap {ks ks' : List Subscriber} (hterms : ks.map terms = ks'.map terms)
    (hd : ∀ k ∈ ks, k.isOpen = true → k.HasLogFile d)
    (hd' : ∀ k ∈ ks', k.isOpen = true → k.HasLogFile d') (hhome : d.home = d'.home) :
    (ks.flatMap (sinks d)).map Journal.Sink.route =
      (ks'.flatMap (sinks d')).map Journal.Sink.route := by
  induction ks generalizing ks' with
  | nil =>
    rw [List.map_nil, eq_comm, List.map_eq_nil_iff] at hterms
    rw [hterms]
    rfl
  | cons k ks ih =>
    rw [List.map_cons, eq_comm, List.map_eq_cons_iff] at hterms
    obtain ⟨k', rest, rfl, hk, hrest⟩ := hterms
    have ih := ih hrest.symm (fun x hx => hd x (List.mem_cons_of_mem _ hx))
      fun x hx => hd' x (List.mem_cons_of_mem _ hx)
    rw [List.flatMap_cons, List.flatMap_cons, List.map_append, List.map_append, map_route_sinks,
      map_route_sinks, ih, isOpen_of_terms hk]
    split
    · next hopen =>
      have hlog := hd k List.mem_cons_self hopen
      have hlog' := hd' k' List.mem_cons_self (by rw [isOpen_of_terms hk]; exact hopen)
      unfold targets
      rw [logFile_eq_of_terms hk.symm hlog hlog' hhome, level_of_terms hk]
    · rfl

theorem sinks_eq_route {sink : Journal.Sink} {location : Location} (hsink : sink ∈ k.sinks d)
    (htarget : sink.target = .file location) : k.isOpen = true ∧ k.logFile? d = some location := by
  have hroute : sink.route ∈ (k.sinks d).map Journal.Sink.route := List.mem_map_of_mem hsink
  rw [map_route_sinks] at hroute
  split at hroute
  · next hopen =>
    refine ⟨hopen, ?_⟩
    unfold targets Journal.Sink.route at hroute
    rw [htarget] at hroute
    cases hfile : k.logFile? d with
    | none => rw [hfile] at hroute; simp at hroute
    | some place =>
      rw [hfile] at hroute
      simp only [Option.toList_some, List.map_cons, List.map_nil, List.mem_cons, Prod.mk.injEq,
        reduceCtorEq, false_and, Journal.Target.file.injEq, List.not_mem_nil, or_false,
        false_or] at hroute
      rw [hroute.1]
  · cases hroute

end Subscriber

namespace Newsroom

def atLevel (n : Newsroom) (level : Option Journal.Level) : Newsroom :=
  { n with journal := { n.journal with level } }

/-- The newsroom once somebody has come and left, or has failed to come. Nobody asks for them any
more. -/
def attempted (n : Newsroom) (path : Option Text) (level : Journal.Level) : Newsroom :=
  { (n.act (.subscribe path level)).act (.unsubscribe n.subscribers.length) with
    subscribers := n.subscribers }

/-! ## Two newsrooms -/

/-- Two newsrooms have the same subscribers, on disks that differ in empty things alone, and have
shown the same. -/
structure Parallel (m n : Newsroom) : Prop where
  near : m.disk.Near n.disk
  console_eq : m.console = n.console
  terms_eq : m.subscribers.map Subscriber.terms = n.subscribers.map Subscriber.terms

/-- The subscribers stand behind the sinks of one journal, and the disks come from one disk. -/
structure Alike (j : Journal) (d : Disk) (m n : Newsroom) : Prop extends Parallel m n where
  left : m.Orderly j
  right : n.Orderly j
  left_endures : d.Endures m.disk
  right_endures : d.Endures n.disk

variable {j : Journal} {d : Disk} {m n : Newsroom}

namespace Alike

/-- A subscriber of one newsroom has its like in the other. -/
theorem exists_right (h : Alike j d m n) {k : Subscriber} (hk : k ∈ m.subscribers) :
    ∃ k' ∈ n.subscribers, k.terms = k'.terms := by
  have hterms : k.terms ∈ n.subscribers.map Subscriber.terms := by
    rw [← h.terms_eq]
    exact List.mem_map_of_mem hk
  obtain ⟨k', hk', heq⟩ := List.mem_map.mp hterms
  exact ⟨k', hk', heq.symm⟩

/-- Messages take the same routes in both. -/
theorem routes_eq (h : Alike j d m n) :
    m.journal.sinks.map Journal.Sink.route = n.journal.sinks.map Journal.Sink.route := by
  rw [h.left.sinks_eq, h.right.sinks_eq, List.map_append, List.map_append,
    Subscriber.map_route_flatMap h.terms_eq h.left.logFile h.right.logFile h.near.home_eq]

/-- The files of the sinks hold the same in both. -/
theorem entry_eq (h : Alike j d m n) (hj : j.HasFiles d) {sink : Journal.Sink}
    (hsink : sink ∈ m.journal.sinks) {location : Location} (htarget : sink.target = .file location) :
    m.disk.entry? location = n.disk.entry? location := by
  rw [h.left.sinks_eq, List.mem_append] at hsink
  rcases hsink with hsink | hsink
  · have hholds := hj sink hsink location htarget
    exact h.near.entry_eq (hholds.endures h.left_endures) (hholds.endures h.right_endures)
  · obtain ⟨k, hk, hsink⟩ := List.mem_flatMap.mp hsink
    obtain ⟨k', hk', hterms⟩ := h.exists_right hk
    obtain ⟨hopen, hfile⟩ := Subscriber.sinks_eq_route hsink htarget
    have hlog := h.left.logFile k hk hopen
    have hlog' := h.right.logFile k' hk' (by rw [← Subscriber.isOpen_of_terms hterms]; exact hopen)
    have hfile' : k'.logFile? n.disk = some location := by
      rw [← Subscriber.logFile_eq_of_terms hterms hlog hlog' h.near.home_eq]
      exact hfile
    exact h.near.entry_eq (hlog.holds hfile) (hlog'.holds hfile')

end Alike

/-! ## One action in both -/

/-- An action comes out alike in two newsrooms: a message reaches the level of both journals or of
neither, and somebody who comes is let in at both or at neither. -/
def Action.ComesOutAlike (m n : Newsroom) : Action → Prop
  | .subscribe path level =>
    (m.journal.subscribe path level m.disk).1.isOk = (n.journal.subscribe path level n.disk).1.isOk
  | .write _ _ level _ =>
    level.reaches m.journal.currentLevel = level.reaches n.journal.currentLevel
  | .unsubscribe _ => True

/-- A number stands for the same subscriber in both. -/
theorem Parallel.lookup (h : Parallel m n) (i : Nat) :
    m.subscribers[i]? = none ∧ n.subscribers[i]? = none ∨
      ∃ k k', m.subscribers[i]? = some k ∧ n.subscribers[i]? = some k' ∧ k.terms = k'.terms := by
  have hlookup : (m.subscribers[i]?).map Subscriber.terms =
      (n.subscribers[i]?).map Subscriber.terms := by
    rw [← List.getElem?_map, ← List.getElem?_map, h.terms_eq]
  cases hm : m.subscribers[i]? with
  | none =>
    rw [hm, Option.map_none, eq_comm, Option.map_eq_none_iff] at hlookup
    exact .inl ⟨rfl, hlookup⟩
  | some k =>
    rw [hm, Option.map_some, eq_comm, Option.map_eq_some_iff] at hlookup
    obtain ⟨k', hk', hterms⟩ := hlookup
    exact .inr ⟨k, k', rfl, hk', hterms.symm⟩

theorem Alike.write (h : Alike j d m n) (hj : j.HasFiles d) {level : Journal.Level}
    (hlevel : level.reaches m.journal.currentLevel = level.reaches n.journal.currentLevel)
    (i : Nat) (now : Int) (message : Journal.Message) :
    Parallel (m.act (.write i now level message)) (n.act (.write i now level message)) := by
  have hwrite := Journal.write_both
    (R := fun d' d'' => d'.Near d'' ∧ ∀ sink ∈ m.journal.sinks, ∀ location,
      sink.target = .file location → d'.entry? location = d''.entry? location)
    hlevel h.routes_eq (by
      intro sink hsink location octets d' d'' htarget ⟨hnear, hsame⟩
      refine ⟨hnear.extend (hsame sink hsink location htarget) octets, ?_⟩
      intro other hother place hplace
      rw [Journal.extend_entry, Journal.extend_entry, hsame other hother place hplace])
    now message ⟨h.near, fun sink hsink location => h.entry_eq hj hsink⟩
  simp only [act]
  rcases h.lookup i with ⟨hm, hn⟩ | ⟨k, k', hm, hn, -⟩
  · rw [hm, hn]
    exact h.toParallel
  · rw [hm, hn]
    exact ⟨hwrite.1.1, congrArg₂ (· ++ ·) h.console_eq hwrite.2, h.terms_eq⟩

theorem Parallel.unsubscribe (h : Parallel m n) (i : Nat) :
    Parallel (m.act (.unsubscribe i)) (n.act (.unsubscribe i)) := by
  simp only [act]
  rcases h.lookup i with ⟨hm, hn⟩ | ⟨k, k', hm, hn, hterms⟩
  · rw [hm, hn]
    exact h
  · rw [hm, hn]
    refine ⟨h.near, h.console_eq, ?_⟩
    rw [List.map_set, List.map_set, h.terms_eq, Subscriber.terms_left hterms]

theorem Parallel.subscribe (h : Parallel m n) {path : Option Text} {level : Journal.Level}
    (hcomes : Action.ComesOutAlike m n (.subscribe path level)) :
    Parallel (m.act (.subscribe path level)) (n.act (.subscribe path level)) := by
  have hm := m.journal.subscribe_subscribes path level m.disk
  have hn := n.journal.subscribe_subscribes path level n.disk
  have hnear : ∀ {d d'}, m.disk.Readies d → n.disk.Readies d' → d.Near d' := fun hd hd' =>
    ((Disk.Near.of_readies hd).symm.trans h.near).trans (.of_readies hd')
  simp only [Action.ComesOutAlike] at hcomes
  simp only [act]
  generalize m.journal.subscribe path level m.disk = after at hm hcomes ⊢
  generalize n.journal.subscribe path level n.disk = after' at hn hcomes ⊢
  cases hm with
  | failed _ _ _ hd =>
    cases hn with
    | failed _ _ _ hd' => exact ⟨hnear hd hd', h.console_eq, h.terms_eq⟩
    | attached => cases hcomes
  | attached hk _ hd _ =>
    cases hn with
    | failed => cases hcomes
    | attached hk' _ hd' _ =>
      refine ⟨hnear hd hd', h.console_eq, ?_⟩
      simp only [List.map_append, h.terms_eq, List.map_cons, List.map_nil]
      rfl

/-- **One action** that comes out alike in two newsrooms that are alike. -/
theorem act_alike (h : Alike j d m n) (hj : j.HasFiles d) {action : Action}
    (hcomes : action.ComesOutAlike m n) : Alike j d (m.act action) (n.act action) where
  toParallel := by
    cases action with
    | subscribe path level => exact h.toParallel.subscribe hcomes
    | write i now level message => exact h.write hj hcomes i now message
    | unsubscribe i => exact h.toParallel.unsubscribe i
  left := act_orderly h.left action
  right := act_orderly h.right action
  left_endures := h.left_endures.trans (act_endures m action)
  right_endures := h.right_endures.trans (act_endures n action)

/-! ## Any number of actions -/

/-- Actions come out alike one after the other. -/
def ComeOutAlike (m n : Newsroom) : List Action → Prop
  | [] => True
  | action :: rest => action.ComesOutAlike m n ∧ ComeOutAlike (m.act action) (n.act action) rest

/-- **Actions** that come out alike in two newsrooms that are alike. -/
theorem actAll_alike (h : Alike j d m n) (hj : j.HasFiles d) {actions : List Action}
    (hcome : ComeOutAlike m n actions) : Alike j d (m.actAll actions) (n.actAll actions) := by
  induction actions generalizing m n with
  | nil => exact h
  | cons action actions ih => exact ih (act_alike h hj hcome.1) hcome.2

def Action.BringsNobody : Action → Prop
  | .subscribe .. => False
  | _ => True

/-- The level of the journal changes only when somebody comes. -/
theorem level_act {action : Action} (h : action.BringsNobody) :
    (n.act action).journal.level = n.journal.level := by
  cases action with
  | subscribe path level => exact h.elim
  | write i now level message => simp only [act]; split <;> rfl
  | unsubscribe i => simp only [act]; split <;> rfl

/-- As long as nobody comes, all comes out alike at one level. -/
theorem comeOutAlike_of_level (hlevel : m.journal.level = n.journal.level) {actions : List Action}
    (hactions : ∀ action ∈ actions, action.BringsNobody) : ComeOutAlike m n actions := by
  induction actions generalizing m n with
  | nil => trivial
  | cons action actions ih =>
    have haction := hactions action List.mem_cons_self
    refine ⟨?_, ih (by rw [level_act haction, level_act haction, hlevel])
      fun x hx => hactions x (List.mem_cons_of_mem _ hx)⟩
    cases action with
    | subscribe path level => exact haction.elim
    | write i now level message =>
      simp only [Action.ComesOutAlike, Journal.currentLevel, hlevel]
    | unsubscribe i => trivial

/-! ## After an attempt -/

theorem attempted_of_error {path : Option Text} {level : Journal.Level} {error : FileError}
    {j' : Journal} {d' : Disk} (h : n.journal.subscribe path level n.disk = (.error error, j', d')) :
    n.attempted path level = { n with journal := j', disk := d' } := by
  unfold attempted
  simp only [act, h, List.getElem?_eq_none (Nat.le_refl _)]

theorem attempted_of_ok {path : Option Text} {level : Journal.Level}
    {subscription : Journal.Subscription} {j' : Journal} {d' : Disk}
    (h : n.journal.subscribe path level n.disk = (.ok subscription, j', d')) :
    n.attempted path level = { n with journal := j'.unsubscribe subscription, disk := d' } := by
  unfold attempted
  simp only [act, h, List.getElem?_concat_length]

/-- What an attempt leaves: all but the level of the journal, and on the disk what has been made. -/
structure Recovers (n : Newsroom) (path : Option Text) (level : Journal.Level) (m : Newsroom) :
    Prop where
  sinks_eq : m.journal.sinks = n.journal.sinks
  serial_le : n.journal.serial ≤ m.journal.serial
  level_eq : m.journal.level = some level ∨
    (n.journal.subscribe path level n.disk).1.isOk = false ∧ m.journal.level = n.journal.level
  readies : n.disk.Readies m.disk
  console_eq : m.console = n.console
  subscribers_eq : m.subscribers = n.subscribers

/-- **An attempt**, whether it fails or is given up later. -/
theorem attempted_recovers (n : Newsroom) (path : Option Text) (level : Journal.Level) :
    n.Recovers path level (n.attempted path level) := by
  have key := n.journal.subscribe_subscribes path level n.disk
  rcases hafter : n.journal.subscribe path level n.disk with ⟨result, j', d'⟩
  rw [hafter] at key
  cases key with
  | failed hsinks hserial hlevel hd =>
    rw [attempted_of_error hafter]
    exact {
      sinks_eq := hsinks
      serial_le := Nat.le_of_eq hserial.symm
      level_eq := hlevel.symm.imp_right fun h => ⟨by rw [hafter]; rfl, h⟩
      readies := hd
      console_eq := rfl
      subscribers_eq := rfl }
  | attached hk hsubscription hd hfile =>
    rw [attempted_of_ok hafter, hsubscription]
    exact {
      sinks_eq := Journal.unsubscribe_attach { n.journal with level := some level } _
      serial_le := Nat.le_add_right _ _
      level_eq := .inl rfl
      readies := hd
      console_eq := rfl
      subscribers_eq := rfl }

/-- After an attempt all is alike but the level of the journal. -/
theorem Recovers.alike {path : Option Text} {level : Journal.Level} (h : n.Recovers path level m)
    (hn : n.Orderly j) (hd : d.Endures n.disk) (other : Option Journal.Level) :
    Alike j d (n.atLevel other) m where
  left := hn.of_sinks rfl (Nat.le_refl _)
  right := by
    have hm : m = { n with journal := m.journal, disk := m.disk } := by
      obtain ⟨journal, disk, console, subscribers⟩ := m
      rw [show n.console = console from h.console_eq.symm,
        show n.subscribers = subscribers from h.subscribers_eq.symm]
    rw [hm]
    exact (hn.of_sinks h.sinks_eq h.serial_le).endures (.of_readies h.readies) n.console
  left_endures := hd
  right_endures := hd.trans (.of_readies h.readies)
  near := .of_readies h.readies
  console_eq := h.console_eq.symm
  terms_eq := by rw [h.subscribers_eq]; rfl

/-- Two newsrooms that come from one disk have written the same: on the console, to all that lay on
the disk, and but for directories and empty files everywhere. -/
structure WrittenAlike (d : Disk) (m n : Newsroom) : Prop where
  console_eq : m.console = n.console
  entry_eq : ∀ location entry, d.entry? location = some entry →
    m.disk.entry? location = n.disk.entry? location
  near : m.disk.Near n.disk

theorem Alike.writtenAlike (h : Alike j d m n) : WrittenAlike d m n where
  console_eq := h.console_eq
  entry_eq := fun _ _ hentry => h.near.entry_eq_of_endures h.left_endures h.right_endures hentry
  near := h.near

/-- **Later messages after an attempt**, after any actions and whether it failed or was given up. The
sinks are those from before, and the level is the one asked for, or still the old one if the attempt
failed. The others write what they would have written at this level without the attempt. At their
old level they would have written the same, as long as each message reaches both levels or neither,
and whoever comes is let in with and without the attempt or is not. -/
theorem later_of_attempt (j : Journal) (d : Disk) (console : Text) (hj : j.HasFiles d)
    (actions : List Action) (path : Option Text) (level : Journal.Level) :
    let n := actAll { journal := j, disk := d, console } actions
    let m := n.attempted path level
    n.Recovers path level m ∧
    (∀ later, (∀ action ∈ later, action.BringsNobody) →
      WrittenAlike n.disk ((n.atLevel m.journal.level).actAll later) (m.actAll later)) ∧
    ∀ later, ComeOutAlike n m later → WrittenAlike n.disk (n.actAll later) (m.actAll later) := by
  intro n m
  have hn : n.Orderly j := actAll_orderly (orderly_start j d console) actions
  have hfiles : j.HasFiles n.disk := fun sink hsink location htarget =>
    (hj sink hsink location htarget).endures
      (actAll_endures { journal := j, disk := d, console } actions)
  have hm : n.Recovers path level m := n.attempted_recovers path level
  refine ⟨hm, fun later hlater => ?_, fun later hlater => ?_⟩
  · have halike := hm.alike hn (Disk.Endures.refl n.disk) m.journal.level
    have hlevel : (n.atLevel m.journal.level).journal.level = m.journal.level := rfl
    exact (actAll_alike halike hfiles (comeOutAlike_of_level hlevel hlater)).writtenAlike
  · have halike := hm.alike hn (Disk.Endures.refl n.disk) n.journal.level
    exact (actAll_alike halike hfiles hlater).writtenAlike

/-- There is a sink with a file of its own, and a subscriber with a log file. Another one asks for the
warning level and fails to come. An error is written as if nothing had happened. -/
theorem later_of_failed_attempt :
    let j : Journal := (({} : Journal).attach [(.file ["old.log"], .error)]).2
    let d : Disk := { entries := [(["old.log"], .file []), (["d"], .directory)] }
    let n := actAll { journal := j, disk := d } [.subscribe (some "a.log") .info]
    let m := n.attempted (some "d") .warning
    let later := [Action.write 0 0 .error { text := some "m" }]
    let line := Journal.entry 0 .error "m"
    (n.journal.subscribe (some "d") .warning n.disk).1.isOk = false ∧
      m.journal.sinks = n.journal.sinks ∧ m.journal.level = some .warning ∧
      (m.actAll later).console = line ∧
      Disk.entry? (m.actAll later).disk ["a.log"] = some (.file (line.flatMap Utf8.encodePoint)) ∧
      Disk.entry? (m.actAll later).disk ["old.log"] = some (.file (line.flatMap Utf8.encodePoint)) := by
  intro j d n m later line
  have hj : j.HasFiles d := by
    intro sink hsink location htarget
    rw [show j.sinks = [⟨0, .file ["old.log"], .error⟩] from rfl, List.mem_singleton] at hsink
    subst hsink
    cases htarget
    exact ⟨.file [], rfl, nofun⟩
  obtain ⟨(hm : n.Recovers (some "d") .warning m), -, hlater⟩ :=
    later_of_attempt j d [] hj [.subscribe (some "a.log") .info] (some "d") .warning
  have halike := hlater later (by
    show (_ = _) ∧ True
    decide +kernel)
  refine ⟨by decide +kernel, hm.sinks_eq, by decide +kernel, ?_, ?_, ?_⟩
  · refine halike.console_eq.symm.trans ?_
    decide +kernel
  · refine (halike.entry_eq ["a.log"] (.file []) (by decide +kernel)).symm.trans ?_
    decide +kernel
  · refine (halike.entry_eq ["old.log"] (.file []) (by decide +kernel)).symm.trans ?_
    decide +kernel

/-- A subscriber at the info level has a log file. Another one asks for the error level and leaves, or
cannot open its log file. The next info message of the first one is written nowhere. A directory that
an attempt has made is in the way of one who comes later, and misses the message. -/
theorem attempt_silences :
    let d : Disk := { entries := [(["d"], .directory)] }
    let n := actAll { disk := d } [.subscribe (some "a.log") .info]
    let given := (n.act (.subscribe none .error)).act (.unsubscribe 1)
    let failed := n.act (.subscribe (some "d") .error)
    let message := Action.write 0 0 .info { text := some "m" }
    let line := Journal.entry 0 .info "m"
    let later := [Action.subscribe (some "x") .info, message]
    (n.journal.subscribe (some "d") .error n.disk).1.isOk = false ∧
      given.journal.sinks = n.journal.sinks ∧ failed.journal.sinks = n.journal.sinks ∧
      (n.act message).console = line ∧
      Disk.entry? (n.act message).disk ["a.log"] = some (.file (line.flatMap Utf8.encodePoint)) ∧
      (given.act message).console = [] ∧
      Disk.entry? (given.act message).disk ["a.log"] = some (.file []) ∧
      (failed.act message).console = [] ∧
      Disk.entry? (failed.act message).disk ["a.log"] = some (.file []) ∧
      (n.actAll later).console = line ++ line ∧
      ((n.attempted (some "x/y.log") .info).actAll later).console = line := by
  decide +kernel

end Newsroom

end RequestCheck
