import RequestCheck.Proofs.Repair
import RequestCheck.Proofs.Shapes
import RequestCheck.Proofs.Unusable

/-!
# Building from rule files

An engine is built from all of the rule files or not at all. If some of them cannot be read, the
first one is complained about and no step of building is taken; if its path is not handed to the
system, that is no complaint. The default files are looked for before any of them is read, and those
that are missing are named. But if the path of one is too long, looking for it fails, and that is no
complaint either.

    t.Unifies u               u is t with each end of a line as one line feed      (unifies_iff)
    Holds d path rules        rules are the text of the file at path, with unified line ends
    Builds e paths b s x      x is an engine built from all files, or the failure with the first
                              that cannot be read
-/

namespace RequestCheck

/-! ## Line ends -/

namespace Text

/-- Each end of a line in a text, be it a carriage return, a line feed or the two in this order, is
a line feed in another text, and all else is the same. -/
inductive Unifies : Text → Text → Prop where
  | nil : Unifies [] []
  | pair {t u : Text} (h : Unifies t u) : Unifies (carriageReturn :: lineFeed :: t) (lineFeed :: u)
  | lone {t u : Text} (hnext : t.head? ≠ some lineFeed) (h : Unifies t u) :
      Unifies (carriageReturn :: t) (lineFeed :: u)
  | other {c : CodePoint} {t u : Text} (hc : c ≠ carriageReturn) (h : Unifies t u) :
      Unifies (c :: t) (c :: u)

variable {t u : Text} {c before : CodePoint}

theorem carriageReturn_ne_lineFeed : carriageReturn ≠ lineFeed := by decide

/-- The line ends of a text unified, when the text follows a code point. -/
def unifyBehind (before : CodePoint) (t : Text) : Text :=
  (t.zip (before :: t)).filterMap fun (c, before) =>
    if c = lineFeed ∧ before = carriageReturn then none
    else some (if c = carriageReturn then lineFeed else c)

theorem unifyBehind_pair (t : Text) :
    unifyBehind carriageReturn (lineFeed :: t) = unifyBehind lineFeed t :=
  List.filterMap_cons_none (if_pos ⟨rfl, rfl⟩)

theorem unifyBehind_cons (h : c = lineFeed → before ≠ carriageReturn) :
    unifyBehind before (c :: t) =
      (if c = carriageReturn then lineFeed else c) :: unifyBehind c t :=
  List.filterMap_cons_some (if_neg fun hboth => h hboth.1 hboth.2)

/-- The unified text is the one that is computed, unless the text goes on with a line end that has
begun in front of it. -/
theorem Unifies.eq_unifyBehind (h : Unifies t u)
    (hbefore : before = carriageReturn → t.head? ≠ some lineFeed) : u = unifyBehind before t := by
  induction h generalizing before with
  | nil => rfl
  | pair _ ih =>
    rw [unifyBehind_cons fun hc => absurd hc carriageReturn_ne_lineFeed, if_pos rfl,
      unifyBehind_pair, ih fun hlineFeed => absurd hlineFeed.symm carriageReturn_ne_lineFeed]
  | lone hnext _ ih =>
    rw [unifyBehind_cons fun hc => absurd hc carriageReturn_ne_lineFeed, if_pos rfl,
      ih fun _ => hnext]
  | other hc _ ih =>
    rw [unifyBehind_cons fun hlineFeed hreturn => hbefore hreturn (congrArg some hlineFeed),
      if_neg hc, ih fun hreturn => absurd hreturn hc]

theorem exists_unifies : ∀ t : Text, ∃ u, Unifies t u
  | [] => ⟨[], .nil⟩
  | [c] => by
    by_cases hc : c = carriageReturn
    · subst hc
      exact ⟨_, .lone nofun .nil⟩
    · exact ⟨_, .other hc .nil⟩
  | c :: next :: t => by
    obtain ⟨u, hu⟩ := exists_unifies (next :: t)
    by_cases hc : c = carriageReturn
    · subst hc
      by_cases hnext : next = lineFeed
      · subst hnext
        obtain ⟨u, hu⟩ := exists_unifies t
        exact ⟨_, .pair hu⟩
      · exact ⟨_, .lone (fun h => hnext (Option.some.inj h)) hu⟩
    · exact ⟨_, .other hc hu⟩

/-- **Unified line ends** are those that are computed. -/
theorem unifies_iff : Unifies t u ↔ u = t.unifyLineEnds := by
  have hfunction : ∀ {u}, Unifies t u → u = t.unifyLineEnds := fun h =>
    h.eq_unifyBehind fun hreturn => absurd hreturn.symm carriageReturn_ne_lineFeed
  refine ⟨hfunction, ?_⟩
  rintro rfl
  obtain ⟨u, hu⟩ := exists_unifies t
  rwa [hfunction hu] at hu

/-- No carriage return is left. -/
theorem Unifies.carriageReturn_notMem (h : Unifies t u) : carriageReturn ∉ u := by
  induction h with
  | nil => exact List.not_mem_nil
  | pair _ ih => exact List.not_mem_cons_of_ne_of_not_mem carriageReturn_ne_lineFeed ih
  | lone _ _ ih => exact List.not_mem_cons_of_ne_of_not_mem carriageReturn_ne_lineFeed ih
  | other hc _ ih => exact List.not_mem_cons_of_ne_of_not_mem (Ne.symm hc) ih

/-- What is no carriage return stays at the front. -/
theorem Unifies.exists_of_cons (h : Unifies (c :: t) u) (hc : c ≠ carriageReturn) :
    ∃ rest, u = c :: rest := by
  cases h with
  | pair _ => exact absurd rfl hc
  | lone _ _ => exact absurd rfl hc
  | other _ _ => exact ⟨_, rfl⟩

end Text

/-! ## Files -/

namespace Rules

variable {d : Disk} {path rules : Text}

/-- The rules that a disk holds at a path: the text that is encoded in the file there, with its line
ends unified. -/
def Holds (d : Disk) (path rules : Text) : Prop :=
  ∃ octets text, d.read (Path.ofText path).toText = .ok octets ∧ Utf8.encode text = .ok octets ∧
    text.Unifies rules

theorem readFile_eq_ok_iff : readFile d path = .ok rules ↔ Holds d path rules := by
  unfold readFile Holds
  cases hread : d.read (Path.ofText path).toText with
  | error error => cases error <;> simp
  | ok octets =>
    simp only [← Utf8.decode_eq_ok_iff, Text.unifies_iff]
    cases hdecode : Utf8.decode octets with
    | error error =>
      refine ⟨nofun, ?_⟩
      rintro ⟨_, text, hoctets, htext, -⟩
      cases hoctets
      rw [hdecode] at htext
      cases htext
    | ok text =>
      constructor
      · rintro h
        cases h
        exact ⟨octets, text, rfl, hdecode, rfl⟩
      · rintro ⟨_, text', hoctets, htext, rfl⟩
        cases hoctets
        rw [hdecode] at htext
        cases htext
        rfl

/-- No rules have a carriage return, and a byte order mark stays in front of them. -/
theorem Holds.rules_clean (h : Holds d path rules) :
    Text.carriageReturn ∉ rules ∧
      ∀ rest, d.read (Path.ofText path).toText =
          .ok (Utf8.encodePoint Json.byteOrderMark ++ rest) →
        ∃ t, rules = Json.byteOrderMark :: t := by
  obtain ⟨octets, text, hread, hencode, hunifies⟩ := h
  refine ⟨hunifies.carriageReturn_notMem, fun rest hmark => ?_⟩
  rw [hread] at hmark
  obtain ⟨hencodable, hoctets⟩ := Utf8.encode_eq_ok_iff.mp hencode
  rw [Except.ok.injEq, hoctets] at hmark
  cases text with
  | nil => cases hmark
  | cons c text =>
    obtain rfl : c = Json.byteOrderMark :=
      Utf8.eq_of_prefix (hencodable c List.mem_cons_self) (by decide) hmark
    exact hunifies.exists_of_cons (by decide)

/-- All files give rules, or there is a first one that gives none, with which reading fails. -/
theorem readFiles_cases (d : Disk) (paths : List Text) :
    (∃ texts, List.Forall₂ (Holds d) paths texts ∧ readFiles d paths = .ok texts) ∨
      ∃ before path after failure, paths = before ++ path :: after ∧
        (∀ p ∈ before, ∃ rules, Holds d p rules) ∧ (∀ rules, ¬ Holds d path rules) ∧
        readFile d path = .error failure ∧ readFiles d paths = .error failure := by
  induction paths with
  | nil => exact .inl ⟨[], .nil, rfl⟩
  | cons path rest ih =>
    cases hfile : readFile d path with
    | error failure =>
      have hnone : ∀ rules, ¬ Holds d path rules := by
        intro rules hrules
        rw [readFile_eq_ok_iff.mpr hrules] at hfile
        cases hfile
      refine .inr ⟨[], path, rest, failure, rfl, List.forall_mem_nil _, hnone, hfile, ?_⟩
      simp only [readFiles, hfile]
    | ok rules =>
      have hrules : Holds d path rules := readFile_eq_ok_iff.mp hfile
      rcases ih with
        ⟨texts, htexts, hread⟩ | ⟨before, bad, after, failure, rfl, hbefore, hbad, hfails, hread⟩
      · refine .inl ⟨rules :: texts, .cons hrules htexts, ?_⟩
        simp only [readFiles, hfile, hread]
      · refine .inr ⟨path :: before, bad, after, failure, rfl,
          List.forall_mem_cons.mpr ⟨⟨rules, hrules⟩, hbefore⟩, hbad, hfails, ?_⟩
        simp only [readFiles, hfile, hread]

/-- The files that are missing, or the refusal of the first path that is too long. -/
theorem missing_eq {ps : List Path} (h : ∀ p ∈ ps, p.toText.IsPassable) :
    missing d ps =
      match ps.find? fun p => p.toText.IsOverlong with
      | some p => .error (.refused .nameTooLong p.toText)
      | none => .ok (ps.filter fun p => !d.hasFile p.toText) := by
  induction ps with
  | nil => rfl
  | cons p rest ih =>
    obtain ⟨hp, hrest⟩ := List.forall_mem_cons.mp h
    rw [missing, Disk.isFile_of_passable hp, ih hrest, List.find?_cons]
    by_cases hlong : p.toText.IsOverlong
    · simp only [hlong, if_true, decide_true]
    · simp only [hlong, if_false, decide_false]
      cases rest.find? fun p => p.toText.IsOverlong with
      | some q => rfl
      | none => cases hfile : d.hasFile p.toText <;> simp [hfile]

/-- The names of the default files can be parts of a path. -/
theorem isPassable_defaultPaths {config : Config} (h : config.directory.toText.IsPassable) :
    ∀ p ∈ config.defaultPaths, p.toText.IsPassable := by
  have hnames : ∀ name ∈ defaultNames, name.IsPassable := by decide
  intro p hp
  obtain ⟨name, hname, rfl⟩ := List.mem_map.mp hp
  exact Path.isPassable_child h (hnames name hname)

/-- **The default rules** are read if no path is too long and no file is missing. -/
theorem load_default {config : Config} (h : config.directory.toText.IsPassable) :
    load d config none =
      match config.defaultPaths.find? fun p => p.toText.IsOverlong with
      | some p => .error (.file (.refused .nameTooLong p.toText))
      | none =>
        match config.defaultPaths.filter fun p => !d.hasFile p.toText with
        | [] => readFiles d (config.defaultPaths.map Path.toText)
        | gone => .error (.configuration (.missingDefaults gone)) := by
  unfold load
  rw [missing_eq (isPassable_defaultPaths h)]
  cases config.defaultPaths.find? fun p => p.toText.IsOverlong with
  | some p => rfl
  | none => cases config.defaultPaths.filter fun p => !d.hasFile p.toText <;> rfl

end Rules

/-! ## Building -/

/-- What comes of building an engine from rule files in a session. Either all of them give rules,
and the steps are those of building from them in order; or there is a first one that gives none, and
nothing is done: it is complained about, unless its path is not handed to the system. -/
inductive Builds (e : Environment) (paths : List Text) (debug : Bool) (s : Session) :
    Except Failure Engine × Session → Prop where
  | built {texts : List Text} {steps : List Engine.BuildStep} {s' : Session}
      (hall : List.Forall₂ (Rules.Holds s.disk) paths texts)
      (hsteps : steps = .openSet debug :: texts.map .addRules ++ [.compile (!debug)])
      (hbuilt : s'.built = s.built ++ steps) (hcalls : s'.calls = s.calls) :
      Builds e paths debug s (.ok (e.matcher steps), s')
  | unreadable {before after : List Text} {path : Text} {why : ReadError}
      (hpaths : paths = before ++ path :: after)
      (hbefore : ∀ p ∈ before, ∃ rules, Rules.Holds s.disk p rules)
      (hpath : ∀ rules, ¬ Rules.Holds s.disk path rules)
      (hgiven : (Path.ofText path).toText.pathError? = none) :
      Builds e paths debug s (.error (.configuration (.unreadableRules path why)), s)
  | unfollowed {before after : List Text} {path : Text} {error : FileError}
      (hpaths : paths = before ++ path :: after)
      (hbefore : ∀ p ∈ before, ∃ rules, Rules.Holds s.disk p rules)
      (herror : (Path.ofText path).toText.pathError? = some error) :
      Builds e paths debug s (.error (.file error), s)

section

variable {e : Environment} {rules : Option (List Text)} {debug : Bool} {s : Session}

/-- Where the default files of a run are. -/
def Environment.config (e : Environment) : Rules.Config :=
  Rules.Config.ofSetting e.project e.dataDirectory

theorem createEngine_eq (e : Environment) (rules : Option (List Text)) (debug : Bool)
    (s : Session) :
    createEngine e rules debug s =
      match Rules.load s.disk e.config rules with
      | .error failure => (.error failure, s)
      | .ok sources =>
        let steps := Engine.buildSteps sources debug debug
        (.ok (e.matcher steps), { announce e.runtime sources s with built := s.built ++ steps }) := rfl

/-- The engine is built from all files, or building fails with the first bad one. -/
theorem builds_of_load {paths : List Text}
    (hload : Rules.load s.disk e.config rules = Rules.readFiles s.disk paths) :
    Builds e paths debug s (createEngine e rules debug s) := by
  rw [createEngine_eq, hload]
  rcases Rules.readFiles_cases s.disk paths with
    ⟨texts, htexts, hread⟩ |
    ⟨before, path, after, failure, hpaths, hbefore, hpath, hfile, hread⟩
  · rw [hread]
    exact .built htexts rfl rfl (announce_traced e.runtime texts s).2.1
  · rw [hread]
    cases herror : (Path.ofText path).toText.pathError? with
    | some error =>
      rw [Rules.readFile_of_pathError? herror] at hfile
      cases hfile
      exact .unfollowed hpaths hbefore herror
    | none =>
      rcases Rules.readFile_cases s.disk herror with ⟨text, hok⟩ | ⟨why, hwhy⟩
      · rw [hok] at hfile
        cases hfile
      · rw [hwhy] at hfile
        cases hfile
        exact .unreadable hpaths hbefore hpath herror

theorem find?_overlong_eq_none {ps : List Path} (h : ∀ p ∈ ps, ¬ p.toText.IsOverlong) :
    (ps.find? fun p => p.toText.IsOverlong) = none :=
  List.find?_eq_none.mpr fun p hp => by simpa using h p hp

variable (hdirectory : e.config.directory.toText.IsPassable)

include hdirectory

/-- The default files are not read if one of them is missing. -/
theorem createEngine_of_missing (hshort : ∀ p ∈ e.config.defaultPaths, ¬ p.toText.IsOverlong)
    {gone : List Path}
    (hgone : gone = e.config.defaultPaths.filter fun p => !s.disk.hasFile p.toText)
    (hsome : gone ≠ []) {d : Disk} (hd : s.disk.SameShape d) :
    createEngine e none debug { s with disk := d } =
      (.error (.configuration (.missingDefaults gone)), { s with disk := d }) := by
  have hfind := find?_overlong_eq_none hshort
  have hgone' : (e.config.defaultPaths.filter fun p => !d.hasFile p.toText) = gone := by
    rw [hgone]
    simp only [hd.hasFile]
  rw [createEngine_eq, Rules.load_default hdirectory]
  -- this is the second case of the match, since some files are missing
  simp only [hfind, hgone']

/-- A path that is too long is not complained about. -/
theorem createEngine_of_overlong_default {p : Path}
    (hp : (e.config.defaultPaths.find? fun p => p.toText.IsOverlong) = some p) :
    createEngine e none debug s = (.error (.file (.refused .nameTooLong p.toText)), s) := by
  rw [createEngine_eq, Rules.load_default hdirectory]
  simp only [hp]

/-- The engine is built from the default files if they are there. -/
theorem builds_default (hshort : ∀ p ∈ e.config.defaultPaths, ¬ p.toText.IsOverlong)
    (hthere : ∀ p ∈ e.config.defaultPaths, s.disk.hasFile p.toText = true) :
    Builds e (e.config.defaultPaths.map Path.toText) debug s (createEngine e none debug s) := by
  have hfind := find?_overlong_eq_none hshort
  have hgone : (e.config.defaultPaths.filter fun p => !s.disk.hasFile p.toText) = [] :=
    List.filter_eq_nil_iff.mpr fun p hp => by simp [hthere p hp]
  refine builds_of_load ?_
  rw [Rules.load_default hdirectory]
  simp only [hfind, hgone]

end

/-! ## Top theorem -/

/-- **Building is all or nothing.** From the files that are named, an engine is built in steps that
hold the rules of every one of them, in order; or the first one that gives no rules is complained
about by its path, and no step is taken. Only if its path is not handed to the system, for a surrogate
or a NUL in it, is that what building fails with. So it is with the default files if all are there.
If some are missing, exactly these are complained about, in order and by their paths, and what the
other files hold does not matter. But if the path of a default file is too long, there is no
complaint: the refusal to follow the path is what building fails with. Rules have no carriage
return, and begin with a byte order mark if their file does. -/
theorem createEngine_allOrNothing (e : Environment) (debug : Bool) (s : Session)
    (hdirectory : e.config.directory.toText.IsPassable) :
    (∀ paths, Builds e paths debug s (createEngine e (some paths) debug s)) ∧
    (∀ p, (e.config.defaultPaths.find? fun p => p.toText.IsOverlong) = some p →
      createEngine e none debug s = (.error (.file (.refused .nameTooLong p.toText)), s)) ∧
    ((∀ p ∈ e.config.defaultPaths, ¬ p.toText.IsOverlong) →
      ((∀ p ∈ e.config.defaultPaths, s.disk.hasFile p.toText = true) →
        Builds e (e.config.defaultPaths.map Path.toText) debug s (createEngine e none debug s)) ∧
      ∀ gone, gone = (e.config.defaultPaths.filter fun p => !s.disk.hasFile p.toText) → gone ≠ [] →
        ∀ d, s.disk.SameShape d →
          createEngine e none debug { s with disk := d } =
            (.error (.configuration (.missingDefaults gone)), { s with disk := d })) ∧
    (∀ path rules, Rules.Holds s.disk path rules → Text.carriageReturn ∉ rules ∧
      ∀ rest, s.disk.read (Path.ofText path).toText =
          .ok (Utf8.encodePoint Json.byteOrderMark ++ rest) →
        ∃ t, rules = Json.byteOrderMark :: t) ∧
    (∀ path why, path <:+: (ConfigurationError.unreadableRules path why).message) ∧
    ∀ gone : List Path, Text.joinWith ", " (gone.map Path.toText) <:+:
      (ConfigurationError.missingDefaults gone).message := by
  refine ⟨fun paths => builds_of_load rfl,
    fun p hp => createEngine_of_overlong_default hdirectory hp,
    fun hshort => ⟨builds_default hdirectory hshort,
      fun gone hgone hsome d hd => createEngine_of_missing hdirectory hshort hgone hsome hd⟩,
    fun path rules hholds => hholds.rules_clean, fun path why => ?_, fun gone => ?_⟩
  · exact ⟨"Cannot read rules file ", ": " ++ why.message, by
      simp only [ConfigurationError.message, List.append_assoc]⟩
  · exact ⟨"Default rules file(s) not found: ",
      " (pass --rules or set " ++ ConfigurationError.dataDirectoryVariable ++ ")", by
        simp only [ConfigurationError.message, List.append_assoc]⟩

/-- One of the named files is named twice. Nothing is built from the default files, since one of
them is a directory. -/
theorem createEngine_allOrNothing_of_files :
    let e : Environment :=
      { project := { root := .slash, parts := [] }, dataDirectory := some "data",
        matcher := fun _ _ => .answered { matched := some (.boolean false) } }
    let s : Session := { disk := { entries :=
      [(["b"], .file [0xEF, 0xBB, 0xBF, 0x0D, 0x0A, 0x0D, 0x78, 0x0D]), (["a"], .file [0x79]),
        (["data"], .directory), (["data", "easylist.txt"], .directory),
        (["data", "easyprivacy.txt"], .file [0xFF])] } }
    let rules : List Text := ["b", "a", "b"]
    Builds e rules true s (createEngine e (some rules) true s) ∧
      (createEngine e (some rules) true s).2.built =
        [.openSet true, .addRules "\uFEFF\n\nx\n", .addRules "y", .addRules "\uFEFF\n\nx\n",
          .compile false] ∧
      createEngine e none true s =
        (.error (.configuration (.missingDefaults [Path.ofText "data/easylist.txt"])), s) := by
  intro e s rules
  obtain ⟨hnamed, -, hdefault, -⟩ := createEngine_allOrNothing e true s (by decide +kernel)
  exact ⟨hnamed rules, by decide +kernel,
    (hdefault (by decide +kernel)).2 _ (by decide +kernel) (by decide) s.disk (.refl _)⟩

/-- None of these parts has more than 255 octets, but together they have more than 4095. -/
def deepParts : List Text := List.replicate 18 (List.replicate 250 'd')

def deepDirectory : Text := Text.joinWith [Path.separator] deepParts

/-- There is no default file in a directory so deep, and there is no complaint. -/
theorem createEngine_of_deepDirectory :
    let e : Environment :=
      { project := { root := .slash, parts := [] }, dataDirectory := some deepDirectory,
        matcher := fun _ _ => .answered { matched := some (.boolean false) } }
    deepDirectory.IsPassable ∧
      (∀ p ∈ e.config.defaultPaths, Disk.hasFile {} p.toText = false) ∧
      (∀ error, (createEngine e none false {}).1 ≠ .error (.configuration error)) ∧
      createEngine e none false {} =
        (.error (.file (.refused .nameTooLong (deepDirectory ++ "/easylist.txt"))), {}) := by
  intro e
  have hdirectory : Path.ofText deepDirectory = { root := .relative, parts := deepParts } := by
    decide +kernel
  have hpath : ((Path.ofText deepDirectory).child "easylist.txt").toText =
      deepDirectory ++ "/easylist.txt" := by
    rw [Path.toText_child, hdirectory, if_neg (by decide), Path.toText_relative (by decide)]
    rfl
  have hbuild : createEngine e none false {} =
      (.error (.file (.refused .nameTooLong (deepDirectory ++ "/easylist.txt"))), {}) := by
    rw [← hpath]
    exact createEngine_of_overlong_default (by decide +kernel) (by decide +kernel)
  refine ⟨by decide +kernel, by decide +kernel, fun error => ?_, hbuild⟩
  rw [hbuild]
  nofun

end RequestCheck
