import RequestCheck.Proofs.Checking
import RequestCheck.Proofs.Utf8

/-!
# What a line holds

A line is blank, or holds a request, or is malformed: it cannot be decoded, or it is not blank and
holds no request. The number of a line shows only in the complaint about it, so what a line holds is
a matter of the line alone.

    feed n l s = a failure, and s as it is                if l is malformed
                 nothing, and s as it is                  if l is blank
                 what comes of checking the request       otherwise            (feed_eq)
-/

namespace RequestCheck

/-! ## Requests and complaints -/

/-- The type that the engine is given has no surrogates if the token has none. -/
theorem RequestType.encodable_normalize {token : Text} (h : Utf8.Encodable token) :
    Utf8.Encodable (normalize token) := by
  have hall : ∀ entry ∈ reported, Utf8.Encodable entry.2 := by decide
  unfold normalize
  cases hlookup : reported.lookup token with
  | none => exact h
  | some unifiedType =>
    obtain ⟨before, after, hreported, -⟩ := List.lookup_eq_some_iff.mp hlookup
    have hmem : (token, unifiedType) ∈ reported := by
      rw [hreported]
      exact List.mem_append_right _ List.mem_cons_self
    exact hall _ hmem

namespace Request

/-- The strings of a request have no surrogates. -/
structure IsEncodable (r : Request) : Prop where
  url : Utf8.Encodable r.url
  context : Utf8.Encodable r.context
  type : Utf8.Encodable r.type

instance (r : Request) : Decidable r.IsEncodable :=
  decidable_of_iff
    (Utf8.Encodable r.url ∧ Utf8.Encodable r.context ∧ Utf8.Encodable r.type)
    ⟨fun ⟨hurl, hcontext, htype⟩ => ⟨hurl, hcontext, htype⟩,
      fun h => ⟨h.url, h.context, h.type⟩⟩

variable {nesting : Nat}

/-- The number of a line has no part in the request on it. -/
theorem parse_ok_iff (m n : Int) (t : Text) (r : Request) :
    parse nesting m t = .ok r ↔ parse nesting n t = .ok r := by
  unfold parse
  cases Json.Value.read (nesting + 1) t with
  | error fault =>
    cases fault with
    | malformed fault => simp only [reduceCtorEq]
    | excess what => simp only [reduceCtorEq]
  | ok v =>
    simp only []
    cases ofValue v with
    | error fault => simp only [reduceCtorEq]
    | ok r' => rfl

/-- A complaint about a line carries its number and its text. -/
theorem number_of_parse {n : Int} {t : Text} {error : LineError}
    (h : parse nesting n t = .error (.line error)) : error.number = n ∧ error.line = t := by
  unfold parse at h
  split at h
  · cases h; exact ⟨rfl, rfl⟩
  · cases h
  · split at h
    · cases h; exact ⟨rfl, rfl⟩
    · cases h

theorem parse_nil (n : Int) : ∃ error, parse nesting n [] = .error error := ⟨_, rfl⟩

end Request

namespace Line

def text? : Line → Option Text
  | .text t => some t
  | .octets b => (Utf8.decode b).toOption

def isBlank (line : Line) : Bool := line.text?.any fun t => t.strip.isEmpty

/-- The request that the text of a line gives without the blanks at its ends. -/
def request? (nesting : Nat) (line : Line) : Option Request :=
  line.text?.bind fun t => (Request.parse nesting 0 t.strip).toOption

/-- The line cannot be decoded, or it is not blank and holds no request. -/
def isMalformed (nesting : Nat) (line : Line) : Bool :=
  !line.isBlank && (line.request? nesting).isNone

/-- What is wrong with the line of a number, if it is malformed. -/
def fault? (nesting number : Nat) (line : Line) : Option Failure :=
  match Checker.lineText number line with
  | .error error => some (.line error)
  | .ok t =>
    if t.strip.isEmpty then none
    else match Request.parse nesting number t.strip with
      | .error error => some (.ofParseError error)
      | .ok _ => none

/-- The lines that are not blank. -/
def filled (lines : List Line) : List Line := lines.filter fun line => !line.isBlank

theorem filled_singleton (line : Line) :
    filled [line] = if line.isBlank then [] else [line] := by
  unfold filled
  rw [List.filter_cons, List.filter_nil]
  cases line.isBlank <;> rfl

theorem lineText_ok_iff (number : Nat) (line : Line) (t : Text) :
    Checker.lineText number line = .ok t ↔ line.text? = some t := by
  cases line with
  | text t' => simp only [Checker.lineText, text?, Except.ok.injEq, Option.some.injEq]
  | octets b =>
    show Request.decodeLine number b = .ok t ↔ (Utf8.decode b).toOption = some t
    unfold Request.decodeLine
    cases Utf8.decode b with
    | ok t' => simp only [Except.toOption, Except.ok.injEq, Option.some.injEq]
    | error error => simp only [Except.toOption, reduceCtorEq]

variable {nesting : Nat}

theorem request?_of_text {line : Line} {t : Text} (number : Int) (h : line.text? = some t) :
    line.request? nesting = (Request.parse nesting number t.strip).toOption := by
  unfold request?
  rw [h, Option.bind_some]
  apply Option.ext
  intro r
  have key := @Request.parse_ok_iff nesting 0 number t.strip r
  cases h0 : Request.parse nesting 0 t.strip <;> cases hn : Request.parse nesting number t.strip <;>
    simp_all [Except.toOption]

theorem isBlank_of_text {line : Line} {t : Text} (h : line.text? = some t) :
    line.isBlank = t.strip.isEmpty := by
  unfold isBlank
  rw [h, Option.any_some]

theorem request?_eq_none_of_isBlank {line : Line} (h : line.isBlank = true) :
    line.request? nesting = none := by
  unfold isBlank at h
  obtain ⟨t, ht, hb⟩ := Option.any_eq_true _ _ |>.mp h
  obtain ⟨error, herror⟩ := @Request.parse_nil nesting 0
  rw [request?_of_text 0 ht, List.isEmpty_iff.mp hb, herror]
  rfl

theorem fault?_isSome (number : Nat) (line : Line) :
    (line.fault? nesting number).isSome = line.isMalformed nesting := by
  unfold fault? isMalformed
  cases htext : Checker.lineText number line with
  | error error =>
    have hnone : line.text? = none := by
      cases h : line.text? with
      | none => rfl
      | some t => rw [(lineText_ok_iff number line t).mpr h] at htext; cases htext
    unfold isBlank request?
    rw [hnone]
    rfl
  | ok t =>
    have ht := (lineText_ok_iff number line t).mp htext
    simp only []
    rw [isBlank_of_text ht, request?_of_text number ht]
    split
    · next h => rw [h]; rfl
    · next h =>
      rw [Bool.eq_false_iff.mpr h]
      cases Request.parse nesting number t.strip <;> rfl

theorem fault?_eq_none_iff (number : Nat) (line : Line) :
    line.fault? nesting number = none ↔ line.isMalformed nesting = false := by
  rw [← fault?_isSome number, Option.isSome_eq_false_iff, Option.isNone_iff_eq_none]

/-- A complaint about a line carries its number. -/
theorem number_of_fault? {number : Nat} {line : Line} {error : Request.LineError}
    (h : line.fault? nesting number = some (.line error)) : error.number = number := by
  unfold fault? at h
  split at h
  · next e he =>
    cases h
    cases line with
    | text t => cases he
    | octets b =>
      change Request.decodeLine number b = .error error at he
      unfold Request.decodeLine at he
      split at he
      · cases he
      · cases he; rfl
  · split at h
    · cases h
    · split at h
      · next e he =>
        cases e with
        | line error' => cases h; exact (Request.number_of_parse he).1
        | excess what => cases h
      · cases h

theorem isBlank_of_request? {line : Line} (hm : line.isMalformed nesting = false)
    (hr : line.request? nesting = none) : line.isBlank = true := by
  unfold isMalformed at hm
  rw [hr, Option.isNone_none, Bool.and_true, Bool.not_eq_false'] at hm
  exact hm

theorem isBlank_eq_false_of_request? {line : Line} {r : Request} (hr : line.request? nesting = some r) :
    line.isBlank = false := by
  cases hb : line.isBlank with
  | false => rfl
  | true => rw [request?_eq_none_of_isBlank hb] at hr; cases hr

theorem request?_eq_none_of_isMalformed {line : Line} (h : line.isMalformed nesting = true) :
    line.request? nesting = none := by
  unfold isMalformed at h
  rw [Bool.and_eq_true, Option.isNone_iff_eq_none] at h
  exact h.2

end Line

/-! ## Feeding a line -/

/-- **One line.** Everything that can come of a line, by what it holds. -/
theorem Checker.feed_eq (c : Checker) (number : Nat) (line : Line) (s : Session) :
    c.feed number line s =
      match line.fault? c.runtime.nesting number, line.request? c.runtime.nesting with
      | some failure, _ => (.failed failure, s)
      | none, none => (.blank, s)
      | none, some r =>
        match c.check r s with
        | (.error failure, s) => (.failed failure, s)
        | (.ok v, s) => (.answered r v, s) := by
  unfold feed Line.fault?
  cases htext : lineText number line with
  | error error => rfl
  | ok t =>
    have ht := (Line.lineText_ok_iff number line t).mp htext
    simp only []
    split
    · next h =>
      have hb : line.isBlank = true := by rw [Line.isBlank_of_text ht, h]
      rw [Line.request?_eq_none_of_isBlank hb]
    · rw [Line.request?_of_text number ht]
      cases Request.parse c.runtime.nesting number t.strip with
      | error error => rfl
      | ok r => rfl

end RequestCheck
