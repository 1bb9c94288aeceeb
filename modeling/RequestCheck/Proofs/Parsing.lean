import RequestCheck.Proofs.Grammar
import RequestCheck.Request

/-!
# The request on a line

A line holds a request if and only if it is the text of an object whose last members `url`, `context`
and `type` are strings, and these are its parts. Nothing else in the object counts: neither further
members nor earlier ones of the same name. A line with another JSON text gives an error that names all
three keys if the value is no object or one of the keys is missing, and the first key without a string
otherwise.

    IsLast k v ms                       the last member k among ms has the value v
    r.IsIn ms                           the three last members are the parts of r
    Request.parse n line = .ok r        if and only if   line is a text of an object ms with r.IsIn ms
-/

namespace RequestCheck

/-! ## Last members -/

namespace Json

/-- The last member of a name has this value. -/
def IsLast (name : Text) (v : Value) (members : List (Text × Value)) : Prop :=
  ∃ before after, members = before ++ (name, v) :: after ∧ ∀ m ∈ after, m.1 ≠ name

variable {name : Text} {v : Value} {members : List (Text × Value)}

theorem lastNamed_eq_none_iff : lastNamed name members = none ↔ ∀ m ∈ members, m.1 ≠ name := by
  induction members with
  | nil => simp [lastNamed]
  | cons m members ih =>
    rw [List.forall_mem_cons, ← ih, lastNamed]
    cases lastNamed name members with
    | none => simp
    | some later => simp

theorem lastNamed_append (before after : List (Text × Value)) :
    lastNamed name (before ++ after) = (lastNamed name after).or (lastNamed name before) := by
  induction before with
  | nil => simp [lastNamed]
  | cons m before ih =>
    rw [List.cons_append, lastNamed, lastNamed, ih]
    cases lastNamed name after with
    | none => rfl
    | some later => rfl

/-- **The member that counts** is the last one of its name. -/
theorem lastNamed_eq_some_iff : lastNamed name members = some v ↔ IsLast name v members := by
  constructor
  · intro h
    induction members with
    | nil => cases h
    | cons m members ih =>
      rw [lastNamed] at h
      cases hlater : lastNamed name members with
      | some later =>
        rw [hlater] at h
        obtain ⟨before, after, rfl, hafter⟩ := ih (hlater.trans h)
        exact ⟨m :: before, after, rfl, hafter⟩
      | none =>
        simp only [hlater, Option.ite_none_right_eq_some, Option.some.injEq] at h
        obtain ⟨rfl, rfl⟩ := h
        exact ⟨[], members, rfl, lastNamed_eq_none_iff.mp hlater⟩
  · rintro ⟨before, after, rfl, hafter⟩
    rw [lastNamed_append, lastNamed, lastNamed_eq_none_iff.mpr hafter]
    simp

end Json

/-! ## Requests among members -/

namespace Request

open Json

/-- The last members of the three names are the parts of the request. -/
structure IsIn (members : List (Text × Value)) (r : Request) : Prop where
  url : IsLast "url" (.string r.url) members
  context : IsLast "context" (.string r.context) members
  type : IsLast "type" (.string r.type) members

/-- There are members of all three names. -/
def IsComplete (members : List (Text × Value)) : Prop :=
  ∀ key : Key, ∃ m ∈ members, m.1 = key.name

/-- The wording of a fault has the key in it, between quotes. -/
def LineFault.Names (fault : LineFault) (key : Key) : Prop :=
  ("\"" ++ key.name ++ "\"" : Text) <:+: fault.message

variable {members : List (Text × Value)} {r : Request} {key : Key} {s : Text} {v : Value}

theorem text?_eq_ok_iff : text? key v = .ok s ↔ v.member? key.name = some (.string s) := by
  unfold text?
  split
  · next h => rw [h]; simp
  · next w hw h =>
    rw [h]
    simp only [reduceCtorEq, Option.some.injEq, false_iff]
    exact hw s
  · next h => rw [h]; simp

/-- A member that is there is a string, or its key is at fault. -/
theorem text?_cases (h : v.member? key.name ≠ none) :
    (∃ s, text? key v = .ok s) ∨
      (∀ s, v.member? key.name ≠ some (.string s)) ∧ text? key v = .error (.notString key) := by
  unfold text?
  split
  · next s _ => exact .inl ⟨s, rfl⟩
  · next w hw hmember =>
    refine .inr ⟨fun s hs => ?_, rfl⟩
    rw [hmember] at hs
    exact hw s (Option.some.inj hs)
  · next hnone => exact absurd hnone h

/-- All members are looked for before any of them is looked at. -/
theorem any_isNone_iff :
    (keys.any fun key => (v.member? key.name).isNone) = true ↔
      ∃ key : Key, v.member? key.name = none := by
  simp only [List.any_eq_true, Option.isNone_iff_eq_none]
  exact ⟨fun ⟨key, _, h⟩ => ⟨key, h⟩, fun ⟨key, h⟩ => ⟨key, by cases key <;> decide, h⟩⟩

theorem ofValue_missing (h : ∃ key : Key, v.member? key.name = none) :
    ofValue v = .error .missingKeys := if_pos (any_isNone_iff.mpr h)

theorem not_any_isNone (h : ∀ key : Key, v.member? key.name ≠ none) :
    ¬ (keys.any fun key => (v.member? key.name).isNone) = true := fun hany =>
  (any_isNone_iff.mp hany).elim h

theorem ofValue_eq_ok_iff :
    ofValue v = .ok r ↔ v.member? "url" = some (.string r.url) ∧
      v.member? "context" = some (.string r.context) ∧ v.member? "type" = some (.string r.type) := by
  have hurl := @text?_eq_ok_iff .url r.url v
  have htype := @text?_eq_ok_iff .type r.type v
  have hcontext := @text?_eq_ok_iff .context r.context v
  constructor
  · intro h
    unfold ofValue at h
    split at h
    · cases h
    split at h
    · next url type context hu ht hc =>
      cases h
      exact ⟨hurl.mp hu, hcontext.mp hc, htype.mp ht⟩
    all_goals cases h
  · rintro ⟨hu, hc, ht⟩
    have hall : ∀ key : Key, v.member? key.name ≠ none := by
      rintro (_ | _ | _) hnone
      · cases hu.symm.trans hnone
      · cases ht.symm.trans hnone
      · cases hc.symm.trans hnone
    unfold ofValue
    rw [if_neg (not_any_isNone hall), hurl.mpr hu, htype.mpr ht, hcontext.mpr hc]

/-- **The first member that is no string** is at fault, in the order of the keys. -/
theorem ofValue_notString (h : ∀ key : Key, v.member? key.name ≠ none)
    (hnone : ∀ r, ofValue v ≠ .ok r) :
    ∃ before key after, ([.url, .type, .context] : List Key) = before ++ key :: after ∧
      (∀ k ∈ before, ∃ s, v.member? k.name = some (.string s)) ∧
      (∀ s, v.member? key.name ≠ some (.string s)) ∧
      ofValue v = .error (.notString key) := by
  have heq := ofValue.eq_1 v
  rw [if_neg (not_any_isNone h)] at heq
  rcases text?_cases (h .url) with ⟨url, hurl⟩ | ⟨hurl, herror⟩
  · rw [hurl] at heq
    have hurl := text?_eq_ok_iff.mp hurl
    rcases text?_cases (h .type) with ⟨type, htype⟩ | ⟨htype, herror⟩
    · rw [htype] at heq
      have htype := text?_eq_ok_iff.mp htype
      rcases text?_cases (h .context) with ⟨context, hcontext⟩ | ⟨hcontext, herror⟩
      · rw [hcontext] at heq
        exact absurd heq (hnone _)
      · rw [herror] at heq
        exact ⟨[.url, .type], .context, [], rfl, by simp [hurl, htype], hcontext, heq⟩
    · rw [herror] at heq
      exact ⟨[.url], .type, [.context], rfl, by simp [hurl], htype, heq⟩
  · rw [herror] at heq
    exact ⟨[], .url, [.type, .context], rfl, nofun, hurl, heq⟩

/-! ## Lines -/

theorem names_missingKeys (key : Key) : LineFault.missingKeys.Names key := by
  unfold LineFault.Names
  cases key <;> decide +kernel

theorem names_notString (key k : Key) : (LineFault.notString key).Names k ↔ k = key := by
  unfold LineFault.Names
  cases key <;> cases k <;> decide +kernel

theorem ofValue_object :
    ofValue (.object members) = .ok r ↔ r.IsIn members := by
  rw [ofValue_eq_ok_iff]
  simp only [Value.member?, lastNamed_eq_some_iff]
  exact ⟨fun ⟨hurl, hcontext, htype⟩ => ⟨hurl, hcontext, htype⟩,
    fun h => ⟨h.url, h.context, h.type⟩⟩

theorem isComplete_iff :
    IsComplete members ↔ ∀ key : Key, (Value.object members).member? key.name ≠ none := by
  simp only [IsComplete, Value.member?, ne_eq, lastNamed_eq_none_iff, Classical.not_forall,
    Classical.not_not, exists_prop]

variable {nesting : Nat} {line : Text}

theorem parse_of_request (number : Int) (h : IsText line v) (hdepth : v.depth ≤ nesting + 1)
    (hv : ofValue v = .ok r) : parse nesting number line = .ok r := by
  unfold parse
  simp only [h.read_eq hdepth, hv]

theorem parse_of_fault (number : Int) {fault : LineFault} (h : IsText line v)
    (hdepth : v.depth ≤ nesting + 1) (hv : ofValue v = .error fault) :
    parse nesting number line = .error (.line { number, line, fault }) := by
  unfold parse
  simp only [h.read_eq hdepth, hv]

theorem parse_eq_ok_iff {number : Int} :
    parse nesting number line = .ok r ↔ ∃ members, IsText line (.object members) ∧
      (Value.object members).depth ≤ nesting + 1 ∧ r.IsIn members := by
  constructor
  · intro h
    unfold parse at h
    split at h
    · cases h
    · cases h
    next v hread =>
    split at h
    · cases h
    next hvalue =>
    cases h
    obtain ⟨htext, hdepth⟩ := read_eq_ok_iff.mp hread
    cases v with
    | object members => exact ⟨members, htext, hdepth, ofValue_object.mp hvalue⟩
    | _ => cases hvalue
  · rintro ⟨members, htext, hdepth, hr⟩
    exact parse_of_request number htext hdepth (ofValue_object.mpr hr)

/-- **The request on a line**: its parts are the strings of the last members `url`, `context` and
`type` of an object that the line is a text of, and without all of these there is none. Then, if the
line is the text of a value at all, the error names every key if the value is no object or has no
member of one of the names, and if it has them all, the first key in the order `url`, `type`, `context`
whose last member is no string. All this is for values that are nested no deeper than they may be. -/
theorem parse_of_lastMembers (nesting : Nat) (number : Int) (line : Text) :
    (∀ r : Request, parse nesting number line = .ok r ↔
      ∃ members, IsText line (.object members) ∧
        (Value.object members).depth ≤ nesting + 1 ∧ r.IsIn members) ∧
    (∀ v, IsText line v → v.depth ≤ nesting + 1 →
      (∀ members, v = .object members → ¬ IsComplete members) →
      parse nesting number line = .error (.line { number, line, fault := .missingKeys })) ∧
    (∀ members, IsText line (.object members) →
      (Value.object members).depth ≤ nesting + 1 → IsComplete members →
      (∀ r : Request, ¬ r.IsIn members) →
      ∃ before key after, ([.url, .type, .context] : List Key) = before ++ key :: after ∧
        (∀ k ∈ before, ∃ s, IsLast k.name (.string s) members) ∧
        (∀ s, ¬ IsLast key.name (.string s) members) ∧
        parse nesting number line =
          .error (.line { number, line, fault := .notString key })) ∧
    (∀ key, LineFault.missingKeys.Names key) ∧
    ∀ key k, (LineFault.notString key).Names k ↔ k = key := by
  refine ⟨fun r => parse_eq_ok_iff, ?_, ?_, names_missingKeys, names_notString⟩
  · intro v htext hdepth hv
    have hmissing : ∃ key : Key, v.member? key.name = none := by
      cases v with
      | object members =>
        have hincomplete := hv members rfl
        simpa only [isComplete_iff, Classical.not_forall, ne_eq, Classical.not_not] using hincomplete
      | _ => exact ⟨.url, rfl⟩
    exact parse_of_fault number htext hdepth (ofValue_missing hmissing)
  · intro members htext hdepth hcomplete hnone
    obtain ⟨before, key, after, hkeys, hbefore, hkey, hvalue⟩ :=
      ofValue_notString (isComplete_iff.mp hcomplete) fun r hr => hnone r (ofValue_object.mp hr)
    simp only [Value.member?, lastNamed_eq_some_iff, ne_eq] at hbefore hkey
    exact ⟨before, key, after, hkeys, hbefore, hkey,
      parse_of_fault number htext hdepth hvalue⟩

/-- An object with a name twice, the second time in escapes, and a lone surrogate behind a pair. -/
def repeatingLine : Text :=
  "\t\x7b\"url\": 1, \"x\": [NaN, \x7b\x7d, -0.5e3], \"\\u0075rl\": \"\\ud83d\\ude00\\ud800\", " ++
    "\"context\" :\"c\", \"type\": \"t\", \"URL\": null\x7d\r\n"

/-- The members of an object whose context and type are no strings. -/
def mistypedMembers : List Member :=
  [⟨[], "context", [], "context", ⟨[], "null", [], .null⟩⟩,
    ⟨[], "url", [], "url", ⟨[], "\"\"", [], .string []⟩⟩,
    ⟨[], "type", [], "type", ⟨[], "null", [], .null⟩⟩]

def mistypedLine : Text := "\x7b\"context\":null,\"url\":\"\",\"type\":null\x7d"

theorem isText_mistypedLine :
    IsText mistypedLine (.object (mistypedMembers.map Member.entry)) := by
  have hall : ∀ m ∈ mistypedMembers, (m.IsSpaced ∧ Spells m.spelling m.name) ∧
      Writes m.element.text m.element.value := by
    have hnil := IsBlank.nil
    have hnull : Writes "null" .null := .word List.mem_cons_self
    simp only [mistypedMembers, List.forall_mem_cons]
    exact ⟨⟨⟨⟨hnil, hnil, hnil, hnil⟩, spells_self (by decide)⟩, hnull⟩,
      ⟨⟨⟨hnil, hnil, hnil, hnil⟩, spells_self (by decide)⟩, .string .nil⟩,
      ⟨⟨⟨hnil, hnil, hnil, hnil⟩, spells_self (by decide)⟩, hnull⟩, nofun⟩
  exact ⟨[], _, [], .nil, .object nofun (fun m hm => (hall m hm).1.1) (fun m hm => (hall m hm).1.2)
    (fun m hm => (hall m hm).2), .nil, by decide +kernel⟩

/-- Of the first line the last member `url` counts; an array has no members; and in the second line
the type is at fault, though the context stands in front of it. -/
theorem parse_of_repeatingLine :
    (∃ members, IsText repeatingLine (.object members) ∧
      (Value.object members).depth ≤ 2 + 1 ∧
      IsIn members ⟨[⟨0x1F600, by decide⟩, ⟨0xD800, by decide⟩], "c", "t"⟩) ∧
    parse 0 2 "[]" = .error (.line { number := 2, line := "[]", fault := .missingKeys }) ∧
    parse 0 3 mistypedLine =
      .error (.line { number := 3, line := mistypedLine, fault := .notString .type }) := by
  refine ⟨?_, ?_, ?_⟩
  · have hparse : (parse 2 1 repeatingLine).toOption =
        some ⟨[⟨0x1F600, by decide⟩, ⟨0xD800, by decide⟩], "c", "t"⟩ := by decide +kernel
    cases hresult : parse 2 1 repeatingLine with
    | error e => rw [hresult] at hparse; cases hparse
    | ok r =>
      rw [hresult] at hparse
      rw [← Option.some.inj hparse]
      exact ((parse_of_lastMembers 2 1 repeatingLine).1 r).mp hresult
  · refine (parse_of_lastMembers 0 2 "[]").2.1 (.array []) ?_ ?_ ?_
    · exact ⟨[], _, [], .nil, .emptyArray .nil, .nil, rfl⟩
    · exact Value.depth_array_le_iff.mpr ⟨Nat.one_ne_zero, List.forall_mem_nil _⟩
    · intro members hmembers
      cases hmembers
  · let members := mistypedMembers.map Member.entry
    have htype : lastNamed "type" members = some .null := rfl
    have hurl : lastNamed "url" members = some (.string []) := rfl
    have hdepth : (Value.object members).depth ≤ 0 + 1 :=
      Value.depth_object_le_iff.mpr ⟨Nat.one_ne_zero, by simp [members, mistypedMembers,
        Member.entry, Value.depth]⟩
    have hcomplete : IsComplete members :=
      isComplete_iff.mpr (by rintro (_ | _ | _) <;> exact Option.some_ne_none _)
    have hnone : ∀ r : Request, ¬ r.IsIn members := by
      intro r hr
      cases htype.symm.trans (lastNamed_eq_some_iff.mpr hr.type)
    obtain ⟨before, key, after, hkeys, hbefore, hkey, hparse⟩ :=
      (parse_of_lastMembers 0 3 mistypedLine).2.2.1 members isText_mistypedLine hdepth hcomplete
        hnone
    rcases before with _ | ⟨k, _ | ⟨k', before⟩⟩
    · cases hkeys
      exact absurd (lastNamed_eq_some_iff.mp hurl) (hkey [])
    · cases hkeys
      exact hparse
    · have hk : k' = .type := by
        simp only [List.cons_append, List.cons.injEq] at hkeys
        exact hkeys.2.1.symm
      obtain ⟨s, hs⟩ := hbefore k' (by simp)
      rw [hk] at hs
      cases htype.symm.trans (lastNamed_eq_some_iff.mpr hs)

end Request

end RequestCheck
