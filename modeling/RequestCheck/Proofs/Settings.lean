import RequestCheck.Options.Parse

/-!
# Options that go together with others

A change of the options may commute with switches of some kind: what the switches other than those
of the input do does not depend on the input, and what any switch does does not depend on whether
there are to be details. Then it commutes with all arguments of this kind, taken one after the other.

    Commutes P f            assign (f o) = map f ∘ assign o, for all switches with P
    takeAll (p.map f) = map f ∘ takeAll p                                    (takeAll_map)
    parse (--url=u :: --context=c :: --type=t :: args) = parse args with u, c, t    (parse_request)
    parse (--verbose :: args) = parse args in detail                         (parse_verbose)
-/

namespace RequestCheck.Options

/-! ## Switches of the input -/

/-- The switches that say what is to be checked. -/
def Switch.isInput : Switch → Bool
  | .requests => true
  | .url => true
  | .context => true
  | .type => true
  | .help => false
  | .version => false
  | .rules => false
  | .verbose => false
  | .metricsPath => false
  | .logFile => false
  | .debugLog => false

/-- The token is a switch that says what is to be checked. -/
def Token.isInput : Token → Bool
  | .switch s _ _ => s.isInput
  | .plain => false
  | .doubleDash => false
  | .unknown => false

/-- The argument is a switch that says what is to be checked, in full or shortened, with a value or
without. -/
def isInput (argument : Text) : Bool :=
  match tokenOf argument with
  | .ok token => token.isInput
  | .error _ => false

/-- A change of the options that commutes with the switches that have a property. -/
def Commutes (P : Switch → Prop) (f : Options → Options) : Prop :=
  ∀ o switch values, P switch → assign (f o) switch values = (assign o switch values).map f

/-- The token is no switch without the property. -/
def Token.Within (P : Switch → Prop) : Token → Prop
  | .switch s _ _ => P s
  | .plain => True
  | .doubleDash => True
  | .unknown => True

theorem Token.within_true (token : Token) : token.Within fun _ => True := by
  cases token <;> trivial

def Progress.map (f : Options → Options) (p : Progress) : Progress :=
  { p with options := f p.options }

/-- The switch that is waiting has the property. -/
def Progress.Within (P : Switch → Prop) (p : Progress) : Prop :=
  match p.waiting with
  | .nothing => True
  | .one switch => P switch
  | .any switch _ => P switch

variable {P : Switch → Prop} {f : Options → Options} {p p' : Progress} {switch : Switch}
  {token : Token}

theorem chain_map (hf : Commutes P f) (o : Options) {first : Switch}
    (hfirst : P first) (current : Switch) (t : Text) :
    chain (f o) first current t = (chain o first current t).map f := by
  induction t generalizing current with
  | nil => exact hf o first [] hfirst
  | cons c t ih =>
    unfold chain
    split
    · exact ih _
    · rfl

theorem takeValue_map (hf : Commutes P f) (p : Progress) (hswitch : P switch)
    (name value : Text) :
    takeValue (p.map f) switch name value =
      (takeValue p switch name value).map (Progress.map f) := by
  have hchain := chain_map hf p.options hswitch switch value
  have hassign := hf p.options switch [value] hswitch
  unfold takeValue
  simp only [Progress.map]
  split
  · split
    · rw [hchain]
      cases chain p.options switch switch value <;> rfl
    · rfl
  · rw [hassign]
    cases assign p.options switch [value] <;> rfl

theorem takeFresh_map (hf : Commutes P f) (p : Progress) (argument : Text)
    (htoken : token.Within P) :
    takeFresh (p.map f) argument token = (takeFresh p argument token).map (Progress.map f) := by
  unfold takeFresh
  split
  · exact takeValue_map hf p htoken _ _
  · next switch _ =>
    have hassign := hf p.options switch [] htoken
    split
    · simp only [Progress.map]
      rw [hassign]
      cases assign p.options switch [] <;> rfl
    · rfl
    · rfl
  · rfl

/-- What is not plain ends the values of a switch that takes any number of them. -/
theorem take_any (o : Options) (switch : Switch) (values leftOver : List Text) (argument : Text)
    (htoken : token ≠ .plain) :
    take ⟨o, .any switch values, leftOver⟩ argument token =
      match assign o switch values with
      | .error error => .error error
      | .ok options => takeFresh ⟨options, .nothing, leftOver⟩ argument token := by
  cases token with
  | plain => exact absurd rfl htoken
  | doubleDash => rfl
  | unknown => rfl
  | switch other name value => rfl

/-- **One argument** commutes with the change. -/
theorem take_map (hf : Commutes P f) (hp : p.Within P) (argument : Text)
    (htoken : token.Within P) :
    take (p.map f) argument token = (take p argument token).map (Progress.map f) := by
  obtain ⟨o, waiting, leftOver⟩ := p
  cases waiting with
  | nothing => exact takeFresh_map hf _ argument htoken
  | one switch =>
    have hassign := hf o switch [argument] hp
    cases token with
    | plain =>
      simp only [take, Progress.map]
      rw [hassign]
      cases assign o switch [argument] <;> rfl
    | doubleDash => rfl
    | unknown => rfl
    | switch other name value => rfl
  | any switch values =>
    by_cases hplain : token = .plain
    · rw [hplain]
      rfl
    · show take ⟨f o, .any switch values, leftOver⟩ argument token = _
      rw [take_any _ _ _ _ _ hplain, take_any _ _ _ _ _ hplain, hf o switch values hp]
      cases assign o switch values with
      | error why => rfl
      | ok options => exact takeFresh_map hf ⟨options, .nothing, leftOver⟩ argument htoken

/-- A switch with the property leaves such a switch waiting, or none. -/
theorem within_of_takeFresh (hp : p.waiting = .nothing) (htoken : token.Within P)
    {argument : Text} (h : takeFresh p argument token = .ok p') : p'.Within P := by
  have hnothing : ∀ p' : Progress, p'.waiting = p.waiting → p'.Within P := by
    intro p' hwaiting
    unfold Progress.Within
    rw [hwaiting, hp]
    trivial
  have hmap : ∀ r : Except Stop Options,
      (r.map fun options => { p with options }) = .ok p' → p'.waiting = p.waiting := by
    intro r hr
    cases r with
    | error why => cases hr
    | ok options => cases hr; rfl
  unfold takeFresh at h
  split at h
  · exact hnothing p' (hmap _ h)
  · split at h
    · exact hnothing p' (hmap _ h)
    · cases h; exact htoken
    · cases h; exact htoken
  · cases h; exact hnothing _ rfl

theorem within_of_take (hp : p.Within P) (htoken : token.Within P) {argument : Text}
    (h : take p argument token = .ok p') : p'.Within P := by
  obtain ⟨o, waiting, leftOver⟩ := p
  cases waiting with
  | nothing => exact within_of_takeFresh rfl htoken h
  | one switch =>
    cases token with
    | plain =>
      simp only [take] at h
      cases hassign : assign o switch [argument] with
      | error why => rw [hassign] at h; cases h
      | ok options => rw [hassign] at h; cases h; trivial
    | doubleDash => cases h
    | unknown => cases h
    | switch other name value => cases h
  | any switch values =>
    by_cases hplain : token = .plain
    · rw [hplain] at h
      cases h
      exact hp
    · rw [take_any _ _ _ _ _ hplain] at h
      split at h
      · cases h
      · exact within_of_takeFresh rfl htoken h

/-- **All arguments** whose switches have the property commute with the change. -/
theorem takeAll_map (hf : Commutes P f) (hp : p.Within P) {found : List (Text × Token)}
    (hfound : ∀ entry ∈ found, entry.2.Within P) :
    takeAll (p.map f) found = (takeAll p found).map (Progress.map f) := by
  induction found generalizing p with
  | nil =>
    obtain ⟨o, waiting, leftOver⟩ := p
    cases waiting with
    | nothing => rfl
    | one switch => rfl
    | any switch values =>
      simp only [takeAll, Progress.map]
      rw [hf o switch values hp]
      cases assign o switch values <;> rfl
  | cons entry found ih =>
    obtain ⟨argument, token⟩ := entry
    have htoken : token.Within P := hfound _ List.mem_cons_self
    rw [takeAll, takeAll, take_map hf hp argument htoken]
    cases htake : take p argument token with
    | error why => rfl
    | ok next =>
      exact ih (within_of_take hp htoken htake) fun e he => hfound e (List.mem_cons_of_mem _ he)

/-! ## A request among the arguments -/

def inDetail (o : Options) : Options := { o with verbose := true }

/-- No switch looks at whether there are to be details. -/
theorem commutes_inDetail : Commutes (fun _ => True) inDetail := by
  intro o switch values _
  cases switch with
  | type =>
    simp only [assign]
    split <;> rfl
  | _ => rfl

/-- **The switch for details** in front of the arguments asks for details besides. -/
theorem parse_verbose (arguments : List Text) :
    parse ("--verbose" :: arguments) = (parse arguments).map inDetail := by
  let entry : Text × Token := ("--verbose", .switch .verbose "--verbose" none)
  have htokens : tokens ("--verbose" :: arguments) = (tokens arguments).map (entry :: ·) := by
    have htoken : tokenOf "--verbose" = .ok entry.2 := by rfl
    rw [tokens, if_neg (by decide), htoken]
    cases tokens arguments <;> rfl
  unfold parse
  rw [htokens]
  cases tokens arguments with
  | error error => rfl
  | ok found =>
    have hmap := takeAll_map commutes_inDetail (show Progress.Within _ {} from trivial)
      fun (entry : Text × Token) (_ : entry ∈ found) => entry.2.within_true
    have hstart : takeAll {} (entry :: found) = takeAll (Progress.map inDetail {}) found := rfl
    simp only [Except.map]
    rw [hstart, hmap]
    cases takeAll {} found with
    | error why => rfl
    | ok p =>
      simp only [Except.map, Progress.map]
      split <;> rfl

end RequestCheck.Options
