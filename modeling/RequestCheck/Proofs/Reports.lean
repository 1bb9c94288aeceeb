import RequestCheck.Engine.Basic
import RequestCheck.Report
import RequestCheck.Text.Lines

/-!
# Reports on one line

A report is printable ASCII without line ends, so each is a line of its own. It is `null` for a
failed verdict and for no other.

    t.Plain                                   every code point of t is printable ASCII
    (value detailed v).write = "null"         if and only if v is a failed verdict
-/

namespace RequestCheck

/-- Every code point is printable ASCII. -/
def Text.Plain (t : Text) : Prop := ∀ c ∈ t, 0x20 ≤ c.val ∧ c.val ≤ 0x7E

namespace Text.Plain

theorem append {a b : Text} (ha : Plain a) (hb : Plain b) : Plain (a ++ b) := by
  intro c hc
  rcases List.mem_append.mp hc with hc | hc
  · exact ha c hc
  · exact hb c hc

theorem cons {c : CodePoint} {t : Text} (hc : 0x20 ≤ c.val ∧ c.val ≤ 0x7E) (ht : Plain t) :
    Plain (c :: t) := by
  intro x hx
  rcases List.mem_cons.mp hx with rfl | hx
  · exact hc
  · exact ht x hx

theorem flatMap {α : Type} {l : List α} {f : α → Text} (h : ∀ x ∈ l, Plain (f x)) :
    Plain (l.flatMap f) := by
  intro c hc
  obtain ⟨x, hx, hc⟩ := List.mem_flatMap.mp hc
  exact h x hx c hc

theorem of_all {t : Text} (h : (t.all fun c => 0x20 ≤ c.val && c.val ≤ 0x7E) = true) : Plain t := by
  intro c hc
  have key := List.all_eq_true.mp h c hc
  simpa using key

/-- Printable ASCII has no line end. -/
theorem lineFeed_notMem {t : Text} (h : Plain t) : lineFeed ∉ t := by
  intro hmem
  have key := (h lineFeed hmem).1
  exact absurd key (by decide)

end Text.Plain

/-! ## Digits -/

theorem digitChar_plain : ∀ d : Fin 16,
    0x20 ≤ (Nat.digitChar d.val).toNat ∧ (Nat.digitChar d.val).toNat ≤ 0x7E := by
  decide

theorem exists_of_mem_toDigits {b n : Nat} (hb : 1 < b) {c : Char} (h : c ∈ Nat.toDigits b n) :
    ∃ d < b, c = Nat.digitChar d := by
  induction n using Nat.strongRecOn with
  | _ n ih =>
    rw [Nat.toDigits_eq_if hb] at h
    split at h
    · next hn => exact ⟨n, hn, List.mem_singleton.mp h⟩
    · next hn =>
      rcases List.mem_append.mp h with h | h
      · exact ih (n / b) (Nat.div_lt_self (by omega) hb) h
      · exact ⟨n % b, Nat.mod_lt n (by omega), List.mem_singleton.mp h⟩

theorem Text.plain_ofHex (width n : Nat) : Plain (ofHex width n) := by
  unfold ofHex padLeft
  apply Plain.append
  · intro c hc
    rw [List.eq_of_mem_replicate hc]
    decide
  · intro c hc
    obtain ⟨x, hx, rfl⟩ := List.mem_map.mp hc
    obtain ⟨d, hd, rfl⟩ := exists_of_mem_toDigits (by decide) hx
    exact digitChar_plain ⟨d, hd⟩

/-! ## Written values -/

namespace Json

theorem plain_unitEscape (unit : Nat) : Text.Plain (unitEscape unit) :=
  Text.Plain.append (Text.Plain.of_all (by decide)) (Text.plain_ofHex 4 unit)

theorem plain_escaped (c : CodePoint) : Text.Plain (escaped c) := by
  unfold escaped
  split
  · exact Text.Plain.of_all (by decide)
  split
  · exact Text.Plain.of_all (by decide)
  split
  · exact Text.Plain.of_all (by decide)
  split
  · exact Text.Plain.of_all (by decide)
  split
  · exact Text.Plain.of_all (by decide)
  split
  · exact Text.Plain.of_all (by decide)
  split
  · exact Text.Plain.of_all (by decide)
  split
  · next hc =>
    intro x hx
    rw [List.mem_singleton.mp hx]
    exact hc
  split
  · exact plain_unitEscape c.val
  · exact (plain_unitEscape _).append (plain_unitEscape _)

theorem plain_writeString (s : Text) : Text.Plain (writeString s) :=
  Text.Plain.cons (by decide)
    ((Text.Plain.flatMap fun c _ => plain_escaped c).append (Text.Plain.of_all (by decide)))

theorem plain_writeMembers {members : List (Text × Value)}
    (h : ∀ m ∈ members, Text.Plain m.2.write) : Text.Plain (writeMembers members) := by
  induction members with
  | nil => intro c hc; cases hc
  | cons m rest ih =>
    obtain ⟨key, v⟩ := m
    have hcolon : Text.Plain ": " := Text.Plain.of_all (by decide)
    have hfirst : Text.Plain (writeString key ++ ": " ++ v.write) :=
      ((plain_writeString key).append hcolon).append (h (key, v) List.mem_cons_self)
    cases rest with
    | nil => rw [writeMembers]; exact hfirst
    | cons next rest =>
      rw [writeMembers]
      · exact (hfirst.append (Text.Plain.of_all (by decide))).append
          (ih fun m hm => h m (List.mem_cons_of_mem _ hm))
      · exact List.cons_ne_nil _ _

def Value.IsText (v : Value) : Prop := v = .null ∨ ∃ t, v = .string t

theorem Value.IsText.plain {v : Value} (h : v.IsText) : Text.Plain v.write := by
  rcases h with rfl | ⟨t, rfl⟩
  · exact Text.Plain.of_all (by decide)
  · rw [write]; exact plain_writeString t

end Json

/-! ## Reports -/

/-- The fields of a verdict that are not truth values are texts or nothing. -/
def Verdict.HasTexts (v : Verdict) : Prop :=
  ∀ field ∈ [v.redirect, v.rewrittenUrl, v.exception, v.filter], field.IsText

namespace Report

theorem plain_boolean (b : Bool) : Text.Plain (Json.Value.boolean b).write := by
  cases b <;> exact Text.Plain.of_all (by decide)

/-- **A report** is printable ASCII without line ends. -/
theorem plain_value {v : Verdict} (detailed : Bool) (h : v.HasTexts) :
    Text.Plain (value detailed v).write := by
  unfold value
  split
  · exact Text.Plain.of_all (by decide)
  split
  · unfold Verdict.fields
    rw [Json.Value.write]
    refine Text.Plain.cons (by decide) (Text.Plain.append (Json.plain_writeMembers ?_)
      (Text.Plain.of_all (by decide)))
    intro m hm
    simp only [List.mem_cons, List.not_mem_nil, or_false] at hm
    rcases hm with rfl | rfl | rfl | rfl | rfl | rfl
    · exact plain_boolean v.matched
    · exact plain_boolean v.important
    · exact (h v.redirect (by simp)).plain
    · exact (h v.rewrittenUrl (by simp)).plain
    · exact (h v.exception (by simp)).plain
    · exact (h v.filter (by simp)).plain
  · exact plain_boolean v.matched

/-- A report is `null` for a failed verdict, and for no other. -/
theorem write_value_eq_null_iff (detailed : Bool) (v : Verdict) :
    (value detailed v).write = Text.ofString "null" ↔ v.failed = true := by
  unfold value
  cases v.failed with
  | true => exact ⟨fun _ => rfl, fun _ => rfl⟩
  | false =>
    refine ⟨fun h => ?_, fun h => by cases h⟩
    exfalso
    rw [if_neg (by decide)] at h
    split at h
    · unfold Verdict.fields at h
      rw [Json.Value.write] at h
      have hhead := congrArg List.head? h
      rw [List.head?_cons] at hhead
      exact absurd hhead (by decide)
    · cases hm : v.matched <;> rw [hm] at h <;> exact absurd h (by decide)

/-- The text of some reports is their lines, each with its end. -/
theorem text_eq_flatMap (detailed : Bool) (vs : List Verdict) :
    text detailed vs =
      (vs.map fun v => (value detailed v).write).flatMap (· ++ [Text.lineFeed]) := by
  unfold text
  rw [List.flatMap_map]
  rfl

end Report

end RequestCheck
