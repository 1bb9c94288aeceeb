import RequestCheck.Proofs.Pairs
import RequestCheck.Proofs.Parsing
import RequestCheck.Proofs.Splitting

/-!
# Requests that are written and read back

A request can be written as an object, its members in any order and with anything between them. It is
read back from that line if no part of it has a high surrogate right before a low one, and no other
request is ever read from a line without surrogates: what a line spells has no such pair.

    r.members                  the three members for r
    r.IsUnpaired               no part of r has a pair of surrogates
    parse k n line = .ok r  →  r.IsUnpaired    if line has no surrogates        (isUnpaired_of_parse)
    parse k n (object members).write = .ok r   if members are those of r and others, in any order
                                                                               (parse_write_object)
-/

namespace RequestCheck

/-! ## Members of an object -/

namespace Json

variable {t s name : Text} {v : Value} {members : List (Text × Value)}

theorem mem_of_isLast (h : IsLast name v members) : (name, v) ∈ members := by
  obtain ⟨before, after, rfl, -⟩ := h
  exact List.mem_append_right before List.mem_cons_self

/-- A member whose name has no other value counts. -/
theorem isLast_of_unique (hmem : (name, v) ∈ members)
    (hunique : ∀ m ∈ members, m.1 = name → m.2 = v) : IsLast name v members := by
  cases hlast : lastNamed name members with
  | none => exact absurd rfl (lastNamed_eq_none_iff.mp hlast _ hmem)
  | some w =>
    have hw := lastNamed_eq_some_iff.mp hlast
    have heq : w = v := hunique _ (mem_of_isLast hw) rfl
    rwa [heq] at hw

theorem Writes.spells (h : Writes t (.string s)) : ∃ b, Spells b s ∧ t = "\"" ++ b ++ "\"" := by
  cases h with
  | word h => simp [words] at h
  | string h => exact ⟨_, h, rfl⟩

/-- A string that is the value of a member is spelled somewhere in the text of the object. -/
theorem Writes.spells_member (h : Writes t (.object members)) (hmem : (name, .string s) ∈ members) :
    ∃ b, Spells b s ∧ ∀ c ∈ b, c ∈ t := by
  cases h with
  | word h => simp [words] at h
  | emptyObject => cases hmem
  | @object ms _ _ _ h =>
    obtain ⟨m, hm, hentry⟩ := List.mem_map.mp hmem
    have hvalue : m.element.value = .string s := congrArg Prod.snd hentry
    obtain ⟨b, hb, htext⟩ := (hvalue ▸ h m hm).spells
    refine ⟨b, hb, fun c hc => ?_⟩
    have hwritten : c ∈ m.written := by
      simp only [Member.written, Element.written, htext, List.mem_append, hc, true_or, or_true]
    have hjoined : c ∈ Text.joinWith "," (ms.map Member.written) :=
      Text.mem_joinWith (List.mem_map.mpr ⟨m, hm, rfl⟩) hwritten
    simp only [List.mem_append, hjoined, true_or, or_true]

end Json

/-! ## Requests -/

namespace Request

open Json

def part (r : Request) : Key → Text
  | .url => r.url
  | .type => r.type
  | .context => r.context

def members (r : Request) : List (Text × Value) :=
  keys.map fun key => (key.name, .string (r.part key))

/-- No part of the request has a high surrogate right before a low one. -/
def IsUnpaired (r : Request) : Prop := ∀ key, (r.part key).Unpaired

variable {r : Request} {nesting : Nat} {number : Int} {line : Text}
  {others written : List (Text × Value)}

theorem isIn_iff : r.IsIn written ↔ ∀ key : Key, IsLast key.name (.string (r.part key)) written := by
  constructor
  · intro h key
    cases key with
    | url => exact h.url
    | type => exact h.type
    | context => exact h.context
  · exact fun h => ⟨h .url, h .context, h .type⟩

/-- **A line without surrogates** of its own spells no pair of them. -/
theorem isUnpaired_of_parse (hline : Utf8.Encodable line)
    (h : parse nesting number line = .ok r) : r.IsUnpaired := by
  obtain ⟨written, ⟨before, text, after, -, htext, -, rfl⟩, -, hr⟩ := parse_eq_ok_iff.mp h
  intro key
  obtain ⟨b, hb, hmem⟩ := htext.spells_member (mem_of_isLast (isIn_iff.mp hr key))
  refine hb.unpaired fun c hc => hline c ?_
  simp only [List.mem_append, hmem c hc, true_or, or_true]

theorem Key.name_inj {key key' : Key} (h : key.name = key'.name) : key = key' := by
  revert h
  cases key <;> cases key' <;> decide

/-- The name of a key stays as it is when pairs are joined, and no other name becomes it. -/
theorem Key.joinPairs_eq_iff {key : Key} {name : Text} :
    name.joinPairs = key.name ↔ name = key.name := by
  constructor
  · have hall : (key.name.all fun c => c.val < 0x10000) = true := by cases key <;> decide
    exact Text.eq_of_joinPairs_eq fun c hc => of_decide_eq_true (List.all_eq_true.mp hall c hc)
  · rintro rfl
    cases key <;> decide

/-- **The parts of a request** are found among its members and others, wherever these stand. -/
theorem isIn_joinMembers (hr : r.IsUnpaired) (hothers : ∀ m ∈ others, ∀ key : Key, m.1 ≠ key.name)
    (hperm : written.Perm (r.members ++ others)) : r.IsIn (joinMembers written) := by
  have hpart : ∀ key, (Value.string (r.part key)).joinPairs = .string (r.part key) := fun key =>
    congrArg Value.string (hr key).joinPairs_eq
  rw [joinMembers_eq_map, isIn_iff]
  intro key
  refine isLast_of_unique (List.mem_map.mpr ⟨(key.name, .string (r.part key)), ?_, ?_⟩) ?_
  · refine hperm.mem_iff.mpr (List.mem_append_left others (List.mem_map.mpr ⟨key, ?_, rfl⟩))
    cases key <;> decide
  · exact Prod.ext (Key.joinPairs_eq_iff.mpr rfl) (hpart key)
  · intro joined hjoined hname
    obtain ⟨m, hm, rfl⟩ := List.mem_map.mp hjoined
    have hkey := Key.joinPairs_eq_iff.mp hname
    rcases List.mem_append.mp (hperm.mem_iff.mp hm) with hm | hm
    · obtain ⟨key', -, rfl⟩ := List.mem_map.mp hm
      rw [Key.name_inj hkey]
      exact hpart key
    · exact absurd hkey (hothers m hm key)

/-- An object with the members of a request is as deep as the others make it. -/
theorem depth_written_le (hothers : ∀ m ∈ others, m.2.depth ≤ nesting)
    (hperm : written.Perm (r.members ++ others)) :
    (Value.object written).depth ≤ nesting + 1 := by
  refine Value.depth_object_le_iff.mpr ⟨Nat.succ_ne_zero nesting, fun m hm => ?_⟩
  rcases List.mem_append.mp (hperm.mem_iff.mp hm) with hm | hm
  · obtain ⟨key, -, rfl⟩ := List.mem_map.mp hm
    exact Nat.zero_le nesting
  · exact hothers m hm

theorem parse_write_object (hr : r.IsUnpaired)
    (hothers : ∀ m ∈ others, (∀ key : Key, m.1 ≠ key.name) ∧ m.2.IsSound ∧ m.2.depth ≤ nesting)
    (hperm : written.Perm (r.members ++ others)) :
    parse nesting number (Value.object written).write = .ok r := by
  have hsound : (Value.object written).IsSound := by
    refine .object fun m hm => ?_
    rcases List.mem_append.mp (hperm.mem_iff.mp hm) with hm | hm
    · obtain ⟨key, -, rfl⟩ := List.mem_map.mp hm
      exact .string _
    · exact (hothers m hm).2.1
  have hdepth := depth_written_le (fun m hm => (hothers m hm).2.2) hperm
  obtain ⟨htext, hread⟩ := read_eq_ok_iff.mp (hsound.read_write hdepth)
  exact parse_of_request number htext hread
    (ofValue_object.mpr (isIn_joinMembers hr (fun m hm => (hothers m hm).1) hperm))

/-- **Requests and lines.** No request that is read from a line without surrogates has a high
surrogate right before a low one in any of its parts; and each such request is read back from the
object of its three members and others, whatever their order and whatever sound values the others
have, if these are not nested too deep to be read. -/
theorem parse_write (nesting : Nat) (number : Int) :
    (∀ (line : Text) (r : Request), Utf8.Encodable line →
      parse nesting number line = .ok r → r.IsUnpaired) ∧
    ∀ (r : Request) (others written : List (Text × Value)), r.IsUnpaired →
      (∀ m ∈ others, (∀ key : Key, m.1 ≠ key.name) ∧ m.2.IsSound ∧ m.2.depth ≤ nesting) →
      written.Perm (r.members ++ others) →
      parse nesting number (Value.object written).write = .ok r :=
  ⟨fun _ _ hline h => isUnpaired_of_parse hline h, fun _ _ _ hr hothers hperm =>
    parse_write_object hr hothers hperm⟩

/-- A request with a low surrogate in front of a high one, and with what has to be escaped. -/
def strangeRequest : Request where
  url := [.ofNat 0xDC00, .ofNat 0xD800, '"', '\\', '\n', .ofNat 0x1F600]
  context := [.ofNat 0xDBFF]
  type := ['\x00', '\x7f']

/-- A member between those of a request, with a pair of surrogates in it. -/
def strangeMember : Text × Value :=
  ("urls", .array [.number "12", .number "NaN", .object [([], .null), ([], .boolean true)],
    .string [.ofNat 0xD83D, .ofNat 0xDE00]])

def strangeMembers : List (Text × Value) :=
  [("context", .string strangeRequest.context), strangeMember, ("url", .string strangeRequest.url),
    ("type", .string strangeRequest.type)]

/-- The strange request is read back, and from a line without surrogates, where just the two arrays and
objects between its members may be nested. -/
theorem parse_write_strangeMembers :
    parse 2 7 (Value.object strangeMembers).write = .ok strangeRequest ∧
      Utf8.Encodable (Value.object strangeMembers).write ∧
      strangeRequest.IsUnpaired := by
  have hunpaired : strangeRequest.IsUnpaired := by
    intro key
    unfold Text.Unpaired
    cases key <;> decide
  have hnumeral : IsNumeral "12" :=
    ⟨[], "12", [], [], .inl rfl, .inr ⟨⟨nofun, List.all_eq_true.mp rfl⟩, by decide⟩, .inl rfl,
      .inl rfl, fun _ _ => by decide, rfl⟩
  have hsound : strangeMember.2.IsSound := by
    refine .array ?_
    simp only [List.forall_mem_cons]
    refine ⟨.number (.inl hnumeral), .number (.inr (by decide)), .object ?_, .string _, nofun⟩
    simp only [List.forall_mem_cons]
    exact ⟨.null, .boolean true, nofun⟩
  have hname : ∀ key : Key, strangeMember.1 ≠ key.name := by
    intro key
    cases key <;> decide
  have hperm : strangeMembers.Perm (strangeRequest.members ++ [strangeMember]) :=
    @List.perm_append_comm _ (strangeMembers.take 2) (strangeMembers.drop 2)
  have hparse := (parse_write 2 7).2 strangeRequest [strangeMember] strangeMembers hunpaired
    (List.forall_mem_singleton.mpr ⟨hname, hsound, by decide⟩) hperm
  have hline : Utf8.Encodable (Value.object strangeMembers).write := by decide +kernel
  exact ⟨hparse, hline, (parse_write 2 7).1 _ strangeRequest hline hparse⟩

end Request

end RequestCheck
