import RequestCheck.Proofs.Failures
import RequestCheck.Proofs.Pairs
import RequestCheck.Proofs.Settings
import RequestCheck.Proofs.Stages
import RequestCheck.Proofs.Transcript

/-!
# Runs in detail

A run that asks for details does what the same run without them does, and prints other reports.
Each detailed report is read back as an object, whatever its texts, and what the brief report shows
is its member `matched`.

    v.joinPairs                        v with the pairs of surrogates in its texts joined
    Told act s                         act does the same in detail and without, reports apart
    answer_told                        one job
    perform_told                       one job with its preparation
    run_inDetail                       one run
-/

namespace RequestCheck

/-! ## Reports that are read back -/

theorem Json.Value.IsText.isSound {v : Json.Value} (h : v.IsText) : v.IsSound := by
  rcases h with rfl | ⟨t, rfl⟩
  · exact .null
  · exact .string t

theorem Json.Value.IsText.unpaired {v : Json.Value} (h : v.IsText) :
    v.joinPairs = .null ∨ ∃ t : Text, v.joinPairs = .string t ∧ t.Unpaired := by
  rcases h with rfl | ⟨t, rfl⟩
  · exact .inl rfl
  · exact .inr ⟨_, rfl, t.unpaired_joinPairs⟩

/-- The verdict with the pairs of surrogates in its texts joined. -/
def Verdict.joinPairs (v : Verdict) : Verdict :=
  { v with
    redirect := v.redirect.joinPairs
    rewrittenUrl := v.rewrittenUrl.joinPairs
    exception := v.exception.joinPairs
    filter := v.filter.joinPairs }

namespace Report

variable {v : Verdict}

theorem hasUnpairedTexts_joinPairs (h : v.HasTexts) : v.joinPairs.HasUnpairedTexts := by
  intro field hfield
  simp only [Verdict.joinPairs, List.mem_cons, List.not_mem_nil, or_false] at hfield
  rcases hfield with rfl | rfl | rfl | rfl
  · exact (h v.redirect (by simp)).unpaired
  · exact (h v.rewrittenUrl (by simp)).unpaired
  · exact (h v.exception (by simp)).unpaired
  · exact (h v.filter (by simp)).unpaired

theorem write_joinPairs (h : v.HasTexts) (detailed : Bool) :
    (value detailed v.joinPairs).write = (value detailed v).write := by
  have hfailed : v.joinPairs.failed = v.failed := rfl
  unfold value
  rw [hfailed]
  split
  · rfl
  split
  · have hredirect := (h v.redirect (by simp)).isSound.write_joinPairs
    have hrewrittenUrl := (h v.rewrittenUrl (by simp)).isSound.write_joinPairs
    have hexception := (h v.exception (by simp)).isSound.write_joinPairs
    have hfilter := (h v.filter (by simp)).isSound.write_joinPairs
    unfold Verdict.fields
    rw [Json.Value.write, Json.Value.write, Json.writeMembers_congr]
    exact .cons ⟨rfl, rfl⟩ (.cons ⟨rfl, rfl⟩ (.cons ⟨rfl, hredirect⟩ (.cons ⟨rfl, hrewrittenUrl⟩
      (.cons ⟨rfl, hexception⟩ (.cons ⟨rfl, hfilter⟩ .nil)))))
  · rfl

/-- The brief report on the same line as a detailed one: both are `null`, or the detailed one is
read as an object and the brief one shows its member `matched`. -/
structure Shortens (brief detailed : Text) : Prop where
  null_iff : brief = Text.ofString "null" ↔ detailed = Text.ofString "null"
  matched : detailed ≠ Text.ofString "null" → ∃ members matched,
    (∀ room ≠ 0, Json.Value.read room detailed = .ok (.object members)) ∧
      (Json.Value.object members).member? "matched" = some matched ∧ brief = matched.write

/-- **A brief report** shortens the detailed one on the same verdict. -/
theorem shortens_value (h : v.HasTexts) :
    Shortens (value false v).write (value true v).write where
  null_iff := by rw [write_value_eq_null_iff, write_value_eq_null_iff]
  matched := by
    intro hnull
    have hfailed : v.failed = false := by
      rw [Ne, write_value_eq_null_iff, Bool.not_eq_true] at hnull
      exact hnull
    have hunpaired := hasUnpairedTexts_joinPairs h
    have hread : ∀ room ≠ 0, Json.Value.read room (value true v).write =
        .ok (value true v.joinPairs) := by
      intro room hroom
      rw [← write_joinPairs h true]
      refine (readsBack_value true hunpaired).read_write ?_
      exact (depth_value true hunpaired).trans (Nat.one_le_iff_ne_zero.mpr hroom)
    have hdetailed : value true v.joinPairs = v.joinPairs.fields := by
      unfold value
      rw [show v.joinPairs.failed = false from hfailed]
      rfl
    have hbrief : value false v = .boolean v.matched := by
      unfold value
      rw [hfailed]
      rfl
    rw [hdetailed] at hread
    exact ⟨_, .boolean v.matched, hread, rfl, by rw [hbrief]⟩

end Report

/-! ## One job -/

/-- The session with another output, and with other steps of building. -/
def Session.aside (s : Session) (output : Text) (built : List Engine.BuildStep) : Session :=
  s.mapAside (fun _ => output) (fun _ => built)

theorem Session.disk_aside (s : Session) (output : Text) (built : List Engine.BuildStep) :
    (s.aside output built).disk = s.disk := rfl

/-- What is done, in detail or without, comes to one result and one session, whatever was printed and
built before, but for the reports that are printed: they are on the same verdicts. -/
def Told (act : Bool → Session → Except Failure Unit × Session) (s : Session) : Prop :=
  ∃ (result : Except Failure Unit) (s' : Session) (verdicts : List Verdict),
    (∀ v ∈ verdicts, v.HasTexts) ∧ ∀ detailed output built,
      act detailed (s.aside output built) =
        (result, s'.aside (output ++ Report.text detailed verdicts) built)

/-- Nothing is printed where nothing more is done. -/
theorem Told.done (result : Except Failure Unit) (s : Session) : Told (fun _ s => (result, s)) s :=
  ⟨result, s, [], fun v hv => (by cases hv), fun detailed output built =>
    congrArg (fun t => (result, s.aside t built)) (List.append_nil output).symm⟩

theorem Told.of_eq {act act' : Bool → Session → Except Failure Unit × Session} {s : Session}
    (h : Told act' s) (hact : ∀ detailed output built,
      act detailed (s.aside output built) = act' detailed (s.aside output built)) : Told act s := by
  obtain ⟨result, s', verdicts, htexts, htold⟩ := h
  exact ⟨result, s', verdicts, htexts, fun detailed output built => by rw [hact, htold]⟩

/-- What goes on behind some reports is told behind them. -/
theorem Told.behind {act act' : Bool → Session → Except Failure Unit × Session} {s s1 : Session}
    {verdicts : List Verdict} (h : Told act' s1) (htexts : ∀ v ∈ verdicts, Verdict.HasTexts v)
    (hact : ∀ detailed output built, act detailed (s.aside output built) =
      act' detailed (s1.aside (output ++ Report.text detailed verdicts) built)) : Told act s := by
  obtain ⟨result, s', more, hmore, htold⟩ := h
  refine ⟨result, s', verdicts ++ more, ?_, fun detailed output built => ?_⟩
  · intro v hv
    rcases List.mem_append.mp hv with hv | hv
    · exact htexts v hv
    · exact hmore v hv
  · rw [hact, htold, Report.text_append, List.append_assoc]

namespace Checker

variable {c : Checker} (htexts : c.engine.AnswersTexts)

include htexts

/-- A single draft. -/
theorem answerDraft_told (draft : Draft) (s : Session) :
    Told (fun detailed s => c.answerDraft detailed draft s) s := by
  unfold answerDraft checkDraft
  cases draft.type with
  | none => exact Told.done (.error .blankType) s
  | some type =>
    cases hask : c.ask .request (draft.query type) (draft.shown type) s with
    | mk result s1 =>
      have haside : ∀ output built, c.ask .request (draft.query type) (draft.shown type)
          (s.aside output built) = (result, s1.aside output built) := by
        intro output built
        have key := ask_mapAside (fun _ => output) (fun _ => built) c s .request
          (draft.query type) (draft.shown type)
        rw [hask] at key
        exact key
      cases result with
      | error failure =>
        refine ⟨.error failure, s1, [], fun v hv => (by cases hv), fun detailed output built => ?_⟩
        simp only [haside, show Report.text detailed [] = [] from rfl, List.append_nil]
      | ok v =>
        refine ⟨.ok (), s1, [v], fun w hw => ?_, fun detailed output built => ?_⟩
        · rw [List.mem_singleton.mp hw]
          exact htexts.hasTexts (verdict?_of_ask (congrArg Prod.fst hask))
        · simp only [haside,
            show Report.text detailed [v] = Report.line detailed v from List.append_nil _]
          rfl

omit htexts in
/-- Lines are answered alike, whatever was printed and built before. -/
theorem answerLines_aside {taken : Nat} {lines : List Octets} {s s1 : Session}
    {items : List Answered} {ending : Option Failure} {g : RequestStream}
    (h : c.drainAfter taken s (lines.map .octets) = (items, ending, g, s1)) (detailed : Bool)
    (output : Text) (built : List Engine.BuildStep) :
    c.answerLines detailed taken lines (s.aside output built) =
      (ending, g.taken,
        s1.aside (output ++ Report.text detailed (items.map (·.2))) built) := by
  have key := drainAfter_mapAside (fun _ => output) (fun _ => built) c s taken (lines.map .octets)
  rw [h] at key
  unfold answerLines Session.aside
  rw [key]
  rfl

theorem hasTexts_of_drainAfter {taken : Nat} {lines : List Line} {s s1 : Session}
    {items : List Answered} {ending : Option Failure} {g : RequestStream}
    (h : c.drainAfter taken s lines = (items, ending, g, s1)) :
    ∀ v ∈ items.map (·.2), Verdict.HasTexts v := by
  intro v hv
  obtain ⟨item, hitem, rfl⟩ := List.mem_map.mp hv
  exact htexts.hasTexts (verdict?_of_drainAfter h item hitem)

/-- The end of a round: an unfinished line, and what its file has grown by behind it. -/
def answerUnfinished (c : Checker) (detailed : Bool) (bound taken : Nat) (source : Source)
    (unfinished : Octets) (s : Session) : Except Failure Unit × Session :=
  match c.answerLines detailed taken [unfinished] s with
  | (some failure, _, s) => (.error failure, s)
  | (none, taken, s) =>
    match source.growth? s.disk with
    | some growth => c.answerRounds detailed bound taken growth s
    | none => (.ok (), s)

theorem answerUnfinished_told {bound : Nat} (source : Source) (unfinished : Octets)
    (hrounds : ∀ taken source s,
      Told (fun detailed s => c.answerRounds detailed bound taken source s) s)
    (taken : Nat) (s : Session) :
    Told (fun detailed s => c.answerUnfinished detailed bound taken source unfinished s) s := by
  unfold answerUnfinished
  cases hd : c.drainAfter taken s ([unfinished].map .octets) with
  | mk items rest =>
    obtain ⟨ending, g, s1⟩ := rest
    have hitems := hasTexts_of_drainAfter htexts hd
    cases ending with
    | some failure =>
      refine (Told.done (.error failure) s1).behind hitems fun detailed output built => ?_
      simp only [answerLines_aside hd]
    | none =>
      cases hgrowth : source.growth? s1.disk with
      | some growth =>
        refine (hrounds g.taken growth s1).behind hitems fun detailed output built => ?_
        simp only [answerLines_aside hd, Session.disk_aside, hgrowth]
      | none =>
        refine (Told.done (.ok ()) s1).behind hitems fun detailed output built => ?_
        simp only [answerLines_aside hd, Session.disk_aside, hgrowth]

/-- **All rounds** of a source: what its file has grown by is the same in detail and without. -/
theorem answerRounds_told (bound taken : Nat) (source : Source) (s : Session) :
    Told (fun detailed s => c.answerRounds detailed bound taken source s) s := by
  induction bound generalizing taken source s with
  | zero => exact Told.done (.ok ()) s
  | succ bound ih =>
    cases hd : c.drainAfter taken s ((cutLines source.ahead).1.map .octets) with
    | mk items rest =>
      obtain ⟨ending, g, s1⟩ := rest
      have hitems := hasTexts_of_drainAfter htexts hd
      cases ending with
      | some failure =>
        refine (Told.done (.error failure) s1).behind hitems fun detailed output built => ?_
        simp only [answerRounds, answerLines_aside hd]
      | none =>
        cases hgrowth : source.growth? s1.disk with
        | some growth =>
          refine (ih g.taken { growth with ahead := (cutLines source.ahead).2 ++ growth.ahead }
            s1).behind hitems fun detailed output built => ?_
          simp only [answerRounds, answerLines_aside hd, Session.disk_aside, hgrowth]
        | none =>
          cases hunfinished : (cutLines source.ahead).2.isEmpty with
          | true =>
            refine (Told.done (.ok ()) s1).behind hitems fun detailed output built => ?_
            simp only [answerRounds, answerLines_aside hd, Session.disk_aside, hgrowth, hunfinished,
              if_true]
          | false =>
            have hrest := answerUnfinished_told htexts source (cutLines source.ahead).2 ih g.taken s1
            refine hrest.behind hitems fun detailed output built => ?_
            simp only [answerRounds, answerLines_aside hd, Session.disk_aside, hgrowth, hunfinished,
              Bool.false_eq_true, if_false]
            rfl

/-- **One job** is done alike in detail and without. -/
theorem answer_told (job : Job) (input : Octets) (s : Session) :
    Told (fun detailed s => c.answer detailed job input s) s := by
  cases job with
  | single draft => exact answerDraft_told htexts draft s
  | stream requests =>
    cases hsource : openSource requests input s.disk with
    | error failure =>
      refine (Told.done (.error failure) s).of_eq fun detailed output built => ?_
      simp only [answer, Session.disk_aside, hsource]
    | ok source =>
      refine (answerRounds_told htexts 3 0 source s).of_eq fun detailed output built => ?_
      simp only [answer, Session.disk_aside, hsource, answerSource]

end Checker

/-! ## Runs -/

def Options.withDetail (o : Options) (detailed : Bool) : Options := { o with verbose := detailed }

/-- What is done, in detail or without, comes to one result and one session, but for what was built
and for the reports that are printed behind what stands on the output: they are on the same
verdicts. -/
def ToldBehind {α : Type} (output : Text) (act : Bool → α × Session) : Prop :=
  ∃ (result : α) (s' : Session) (verdicts : List Verdict), (∀ v ∈ verdicts, v.HasTexts) ∧
    ∀ detailed, ∃ built,
      act detailed = (result, s'.aside (output ++ Report.text detailed verdicts) built)

/-- Nothing is printed where nothing more is done. -/
theorem ToldBehind.done {α : Type} {s : Session} {act : Bool → α × Session} (result : α)
    (hact : ∀ detailed, ∃ built, act detailed = (result, s.aside s.output built)) :
    ToldBehind s.output act := by
  refine ⟨result, s, [], fun v hv => (by cases hv), fun detailed => ?_⟩
  rw [show Report.text detailed [] = [] from rfl, List.append_nil]
  exact hact detailed

/-- **What is told alike** prints lines that match one by one. -/
theorem ToldBehind.shortens {α : Type} {output : Text} {act : Bool → α × Session}
    (h : ToldBehind output act) :
    (act true).1 = (act false).1 ∧
      (act true).2 = (act false).2.aside (act true).2.output (act true).2.built ∧
      ∃ lines lines' : List Text,
        (act false).2.output = output ++ lines.flatMap (· ++ [Text.lineFeed]) ∧
        (act true).2.output = output ++ lines'.flatMap (· ++ [Text.lineFeed]) ∧
        (∀ line ∈ lines ++ lines', Text.lineFeed ∉ line) ∧
        List.Forall₂ Report.Shortens lines lines' := by
  obtain ⟨result, s', verdicts, hverdicts, htold⟩ := h
  obtain ⟨built, hbrief⟩ := htold false
  obtain ⟨built', hdetailed⟩ := htold true
  rw [hbrief, hdetailed]
  refine ⟨rfl, rfl, _, _, congrArg (output ++ ·) (Report.text_eq_flatMap false _),
    congrArg (output ++ ·) (Report.text_eq_flatMap true _), ?_, ?_⟩
  · intro line hline
    rcases List.mem_append.mp hline with hline | hline
    · obtain ⟨v, hv, rfl⟩ := List.mem_map.mp hline
      exact (Report.plain_value false (hverdicts v hv)).lineFeed_notMem
    · obtain ⟨v, hv, rfl⟩ := List.mem_map.mp hline
      exact (Report.plain_value true (hverdicts v hv)).lineFeed_notMem
  · rw [List.forall₂_map_left_iff, List.forall₂_map_right_iff, List.forall₂_same]
    exact fun v hv => Report.shortens_value (hverdicts v hv)

theorem openMetrics_aside (path : Option Text) (s : Session) (output : Text)
    (built : List Engine.BuildStep) :
    openMetrics path (s.aside output built) =
      ((openMetrics path s).1, (openMetrics path s).2.aside output built) := by
  unfold openMetrics
  rw [Session.disk_aside]
  split
  · rfl
  · rfl
  · split <;> rfl

/-- **A job with its preparation** is done alike in detail and without, if the engine is the same. -/
theorem perform_told {e : Environment} {o : Options}
    (hmatcher : ∀ sources, e.matcher (Engine.buildSteps sources true true) =
      e.matcher (Engine.buildSteps sources false false))
    (htexts : ∀ sources, (e.matcher (Engine.buildSteps sources false false)).AnswersTexts)
    (job : Job) (input : Octets) (s : Session) :
    ToldBehind s.output fun detailed => perform e (o.withDetail detailed) job input s := by
  have hload : ∀ detailed, e.load (o.withDetail detailed) s.disk = e.load o s.disk :=
    fun _ => rfl
  cases hsources : e.load o s.disk with
  | error failure =>
    refine .done (.error failure) fun detailed => ⟨s.built, ?_⟩
    rw [perform_stages, hload, hsources]
    rfl
  | ok sources =>
    have hengine : ∀ detailed, e.engine (o.withDetail detailed) sources =
        e.matcher (Engine.buildSteps sources false false) := by
      intro detailed
      cases detailed with
      | false => rfl
      | true => exact hmatcher sources
    have houtput := (announce_traced e.runtime sources s).1.output_eq
    cases hopen : openMetrics o.metricsPath.text? (announce e.runtime sources s) with
    | mk made s1 =>
      have hopened : ∀ detailed, openMetrics o.metricsPath.text?
          (e.equipped (o.withDetail detailed) sources s) =
            (made, s1.aside s.output (s.built ++ Engine.buildSteps sources detailed detailed)) := by
        intro detailed
        have key := openMetrics_aside o.metricsPath.text? (announce e.runtime sources s) s.output
          (s.built ++ Engine.buildSteps sources detailed detailed)
        rw [hopen, ← houtput] at key
        rw [← houtput]
        exact key
      cases made with
      | error failure =>
        refine ⟨.error failure, s1, [], fun v hv => (by cases hv), fun detailed =>
          ⟨s.built ++ Engine.buildSteps sources detailed detailed, ?_⟩⟩
        show perform e (o.withDetail detailed) job input s = _
        rw [perform_stages, hload, hsources, show Report.text detailed [] = [] from rfl,
          List.append_nil]
        simp only [show (o.withDetail detailed).metricsPath = o.metricsPath from rfl, hopened]
      | ok metrics =>
        obtain ⟨result, s', verdicts, hverdicts, htold⟩ := @Checker.answer_told
          { engine := e.matcher (Engine.buildSteps sources false false), metrics
            runtime := e.runtime } (htexts sources) job input { s1 with anyFailure := false }
        refine ⟨result, s', verdicts, hverdicts, fun detailed =>
          ⟨s.built ++ Engine.buildSteps sources detailed detailed, ?_⟩⟩
        show perform e (o.withDetail detailed) job input s = _
        rw [perform_stages, hload, hsources]
        simp only [show (o.withDetail detailed).metricsPath = o.metricsPath from rfl, hopened,
          hengine]
        exact htold detailed s.output _

theorem conclude_aside (k : Runtime) (result : Except Failure Unit) (s : Session) (output : Text)
    (built : List Engine.BuildStep) :
    conclude k result (s.aside output built) =
      ((conclude k result s).1, (conclude k result s).2.aside output built) := by
  unfold conclude
  split <;> rfl

theorem runJob_told {e : Environment} {o : Options}
    (hmatcher : ∀ sources, e.matcher (Engine.buildSteps sources true true) =
      e.matcher (Engine.buildSteps sources false false))
    (htexts : ∀ sources, (e.matcher (Engine.buildSteps sources false false)).AnswersTexts)
    (job : Job) (input : Octets) (s : Session) :
    ToldBehind s.output fun detailed => runJob e (o.withDetail detailed) job input s := by
  cases hsubscribe : (s.journal.subscribe o.logFile.text? o.level s.disk).1 with
  | error error =>
    refine @ToldBehind.done _ (s.started o) _ (.failed (.file error)) fun detailed => ⟨s.built, ?_⟩
    exact @runJob_of_unsubscribed e (o.withDetail detailed) s error job input hsubscribe
  | ok subscription =>
    obtain ⟨result, s1, verdicts, hverdicts, htold⟩ :=
      @perform_told e o hmatcher htexts job input (s.started o)
    refine ⟨(conclude e.runtime result s1).1, { (conclude e.runtime result s1).2 with
      journal := (conclude e.runtime result s1).2.journal.unsubscribe subscription },
      verdicts, hverdicts, fun detailed => ?_⟩
    obtain ⟨built, hperform⟩ := htold detailed
    refine ⟨built, ?_⟩
    have hstarted : s.started (o.withDetail detailed) = s.started o := rfl
    simp only at hperform ⊢
    rw [@runJob_eq e (o.withDetail detailed) s subscription job input hsubscribe, hstarted, hperform]
    simp only [conclude_aside]
    rfl

/-! ## Top theorem -/

/-- **Runs in detail.** Let the arguments of two runs ask for the same, but those of the second for
details besides, as they do with `--verbose` in front (`Options.parse_verbose`). If the engine does
not depend on what a detailed run is built from, the runs end alike and leave the same behind but for
what is printed: the same calls, files, messages and mark of a failure. Both are stopped by their
arguments in the same way, or each prints lines, which match one by one: both lines are `null`, or
the detailed one is read as an object and the brief one is the JSON of its member `matched`. -/
theorem run_inDetail {e : Environment} {arguments arguments' : List Text}
    (hparse : Options.parse arguments' = (Options.parse arguments).map Options.inDetail)
    (hbrief : ∀ o, Options.parse arguments = .ok o → o.verbose = false)
    (hmatcher : ∀ sources, e.matcher (Engine.buildSteps sources true true) =
      e.matcher (Engine.buildSteps sources false false))
    (htexts : ∀ sources, (e.matcher (Engine.buildSteps sources false false)).AnswersTexts)
    (input : Octets) (s : Session) :
    let brief := run e arguments input s
    let detailed := run e arguments' input s
    detailed.1 = brief.1 ∧ detailed.2.calls = brief.2.calls ∧
      detailed.2 = brief.2.aside detailed.2.output detailed.2.built ∧
      ((∃ why, brief = stop why s ∧ detailed = stop why s) ∨
        ∃ lines lines' : List Text,
          brief.2.output = s.output ++ lines.flatMap (· ++ [Text.lineFeed]) ∧
          detailed.2.output = s.output ++ lines'.flatMap (· ++ [Text.lineFeed]) ∧
          (∀ line ∈ lines ++ lines', Text.lineFeed ∉ line) ∧
          List.Forall₂ Report.Shortens lines lines') := by
  intro brief detailed
  by_cases hstop : ∃ why, brief = stop why s ∧ detailed = stop why s
  · obtain ⟨why, hbriefly, hdetailed⟩ := hstop
    rw [hbriefly, hdetailed]
    exact ⟨rfl, rfl, rfl, .inl ⟨why, rfl, rfl⟩⟩
  cases ho : Options.parse arguments with
  | error why =>
    rw [ho] at hparse
    exact absurd ⟨why, run_eq_stop ho input s, run_eq_stop hparse input s⟩ hstop
  | ok o =>
    rw [ho] at hparse
    cases hjob : o.job with
    | error error =>
      exact absurd ⟨_, run_eq_stop_usage ho hjob input s, run_eq_stop_usage hparse hjob input s⟩
        hstop
    | ok job =>
      have hbriefly : brief = runJob e (o.withDetail false) job input s := by
        rw [show o.withDetail false = o by rw [← hbrief o ho]; rfl]
        exact run_eq_runJob ho hjob input s
      have hdetailed : detailed = runJob e (o.withDetail true) job input s :=
        run_eq_runJob hparse hjob input s
      have htold := @runJob_told e o hmatcher htexts job input s
      obtain ⟨houtcome, hrest, hlines⟩ := htold.shortens
      rw [← hbriefly, ← hdetailed] at houtcome hrest hlines
      have hcalls : detailed.2.calls = brief.2.calls := (congrArg Session.calls hrest).trans rfl
      exact ⟨houtcome, hcalls, hrest, .inr hlines⟩

/-- A match whose filter has a pair of surrogates in it, and a request that the engine rejects. -/
theorem run_inDetail_of_surrogates :
    let e : Environment := {
      project := .ofText "/"
      matcher := fun _ q =>
        if q.type = "font" then .answered {
          matched := some (.boolean true)
          filter := some (.string [⟨0xD83D, by decide⟩, ⟨0xDE00, by decide⟩]) }
        else .raised { kind := .invalidValue, detail := "?" } }
    let input : Octets :=
      ("\x7b\"url\": \"u\", \"context\": \"\", \"type\": \"font\"\x7d\n" ++
        "\x7b\"url\": \"u\", \"context\": \"\", \"type\": \"x\"\x7d" : Text).flatMap
          Utf8.encodePoint
    (run e ["--verbose", "--rules"] input {}).1 = (run e ["--rules"] input {}).1 ∧
      (run e ["--rules"] input {}).2.output = "true\nnull\n" ∧
      ∃ lines lines' : List Text,
        (run e ["--rules"] input {}).2.output = lines.flatMap (· ++ [Text.lineFeed]) ∧
        (run e ["--verbose", "--rules"] input {}).2.output =
          lines'.flatMap (· ++ [Text.lineFeed]) ∧
        List.Forall₂ Report.Shortens lines lines' := by
  intro e input
  have hparse : Options.parse ["--rules"] = .ok { rules := some [] } := by decide +kernel
  have hbrief : ∀ o, Options.parse ["--rules"] = .ok o → o.verbose = false := by
    intro o ho
    rw [hparse] at ho
    cases ho
    rfl
  have htexts : ∀ sources, (e.matcher (Engine.buildSteps sources false false)).AnswersTexts := by
    intro sources q answer hanswer field hfield v hv
    simp only [e] at hanswer
    split at hanswer
    · cases hanswer
      simp only [List.mem_cons, List.not_mem_nil, or_false] at hfield
      rcases hfield with rfl | rfl | rfl | rfl <;> cases hv
      exact .inr ⟨_, rfl⟩
    · cases hanswer
  have houtput : (run e ["--rules"] input {}).2.output = "true\nnull\n" := by decide +kernel
  obtain ⟨houtcome, -, -, hlines⟩ := run_inDetail (Options.parse_verbose ["--rules"]) hbrief
    (fun _ => rfl) htexts input {}
  rcases hlines with ⟨why, hstop, -⟩ | ⟨lines, lines', hbriefly, hdetailed, -, hshorten⟩
  · -- a run that is stopped by its arguments makes no calls
    have hcalls : (run e ["--rules"] input {}).2.calls.length = 2 := by decide +kernel
    rw [hstop] at hcalls
    exact absurd hcalls (by show ¬ (0 = 2); decide)
  · exact ⟨houtcome, houtput, lines, lines', hbriefly, hdetailed, hshorten⟩

end RequestCheck
