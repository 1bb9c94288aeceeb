import RequestCheck.Proofs.Literals

/-!
# The reader takes the grammar

What is read as a value is a text of that value, and the value fits the room. A text of a value that
does is read as that value, as long as what stands behind it ends it and the bound is large enough for
it; twice the length of the text is. Arrays and objects are read by the same two rules,
`readBracketed` and `readOthers`.

    Lists One t xs         t is a list, with commas, of texts for xs
    Sound bound            what is read under the bound is in the grammar                  (sound)
    Shallow bound          what is read under the bound fits the room                    (shallow)
    ReadsAs text v         text is read as v, by what stands behind it            (Writes.readsAs)
    read room t = .ok v    if and only if  t is a text of v, and v fits           (read_eq_ok_iff)
-/

namespace RequestCheck.Json

/-! ## White space -/

section

variable {blank t : Text}

theorem IsBlank.nil : IsBlank [] := nofun

theorem skipSpace_append (h : IsBlank blank) (t : Text) : skipSpace (blank ++ t) = skipSpace t :=
  List.dropWhile_append_of_pos h

theorem skipSpace_cons {c : CodePoint} (h : isSpace c = false) (t : Text) :
    skipSpace (c :: t) = c :: t := List.dropWhile_cons_of_neg (by rw [h]; decide)

/-- Nothing above U+0020 is white space. -/
theorem skipSpace_append_cons {c : CodePoint} (h : IsBlank blank) (hc : 0x20 < c.val) (t : Text) :
    skipSpace (blank ++ c :: t) = c :: t := by
  have hspace : isSpace c = false := by
    simp only [isSpace, Bool.or_eq_false_iff, beq_eq_false_iff_ne]
    omega
  rw [skipSpace_append h, skipSpace_cons hspace]

theorem skipSpace_spec (t : Text) : ∃ blank, IsBlank blank ∧ t = blank ++ skipSpace t :=
  ⟨t.takeWhile isSpace, List.all_eq_true.mp List.all_takeWhile,
    List.takeWhile_append_dropWhile.symm⟩

theorem IsBlank.skipSpace_eq (h : IsBlank blank) : skipSpace blank = [] := by
  have key := skipSpace_append h []
  rw [List.append_nil] at key
  exact key

theorem IsBlank.ends (h : IsBlank blank) (ht : Ends t) : Ends (blank ++ t) := by
  cases blank with
  | nil => exact ht
  | cons c blank =>
    intro d hd
    cases hd
    exact .inl (h c List.mem_cons_self)

theorem ends_cons {c : CodePoint} (h : c = ',' ∨ c = ']' ∨ c = '\x7d') (t : Text) :
    Ends (c :: t) := by
  intro d hd
  cases hd
  exact .inr h

end

/-! ## Names -/

theorem readName_append {spelling name blank : Text} (h : Spells spelling name)
    (hblank : IsBlank blank) (rest : Text) :
    readName (('"' : CodePoint) :: (spelling ++ ('"' : CodePoint) ::
      (blank ++ (':' : CodePoint) :: rest))) = .ok (name, rest) := by
  rw [readName]
  simp only [if_true, readString_of_spells h, skipSpace_append hblank]
  rw [skipSpace_cons (by decide)]
  simp only [if_true]

theorem readName_spec {t name rest : Text} (h : readName t = .ok (name, rest)) :
    ∃ spelling blank, Spells spelling name ∧ IsBlank blank ∧
      t = ('"' : CodePoint) :: (spelling ++ ('"' : CodePoint) ::
        (blank ++ (':' : CodePoint) :: rest)) := by
  unfold readName at h
  split at h
  · cases h
  · split at h
    · next hc =>
      split at h
      · cases h
      · next more hread =>
        obtain ⟨spelling, rfl, hspelling⟩ := spells_of_readString hread
        obtain ⟨blank, hblank, hmore⟩ := skipSpace_spec more
        split at h
        · cases h
        · next hskip =>
          split at h
          · next hd =>
            cases h
            refine ⟨spelling, blank, hspelling, hblank, ?_⟩
            rw [hskip, hd] at hmore
            rw [hc, ← hmore]
          · cases h
    · cases h

/-! ## Behind an opening bracket -/

/-- What stands behind an opening bracket: the closing one, or a list with the closing one. -/
def readBracketed {α : Type} (closing : CodePoint) (missing : Malformation)
    (read : Text → Except Fault (List α × Text)) (wrap : List α → Value) (t : Text) :
    Except Fault (Value × Text) :=
  match skipSpace t with
  | [] => .error (.malformed missing)
  | c :: more =>
    if c = closing then .ok (wrap [], more)
    else match read (c :: more) with
      | .error fault => .error fault
      | .ok (xs, rest) => .ok (wrap xs, rest)

theorem readValue_array (room bound : Nat) (t : Text) :
    readValue room (bound + 1) (('[' : CodePoint) :: t) =
      if room = 0 then .error (.excess .array)
      else readBracketed ']' .expectedValue (readItems (room - 1) bound) .array t := by
  rw [readValue, if_neg (by decide), if_pos rfl]
  congr 1
  unfold readBracketed
  cases skipSpace t with
  | nil => rfl
  | cons c more =>
    dsimp only
    cases readItems (room - 1) bound (c :: more) <;> rfl

theorem readValue_object (room bound : Nat) (t : Text) :
    readValue room (bound + 1) (('\x7b' : CodePoint) :: t) =
      if room = 0 then .error (.excess .object)
      else readBracketed '\x7d' .expectedName (readMembers (room - 1) bound) .object t := by
  rw [readValue, if_neg (by decide), if_neg (by decide), if_pos rfl]
  congr 1
  unfold readBracketed
  cases skipSpace t with
  | nil => rfl
  | cons c more =>
    dsimp only
    cases readMembers (room - 1) bound (c :: more) <;> rfl

section

variable {α : Type} {closing : CodePoint} {missing : Malformation}
variable {read : Text → Except Fault (List α × Text)} {wrap : List α → Value}

theorem readBracketed_blank {blank : Text} (h : IsBlank blank) (hclosing : isSpace closing = false)
    (rest : Text) :
    readBracketed closing missing read wrap (blank ++ closing :: rest) = .ok (wrap [], rest) := by
  unfold readBracketed
  rw [skipSpace_append h, skipSpace_cons hclosing]
  exact if_pos rfl

theorem readBracketed_list {t more rest : Text} {c : CodePoint} {xs : List α}
    (hskip : skipSpace t = c :: more) (hc : c ≠ closing) (h : read (skipSpace t) = .ok (xs, rest)) :
    readBracketed closing missing read wrap t = .ok (wrap xs, rest) := by
  rw [hskip] at h
  unfold readBracketed
  simp only [hskip, if_neg hc, h]

theorem readBracketed_spec {t rest : Text} {v : Value}
    (h : readBracketed closing missing read wrap t = .ok (v, rest)) :
    ∃ blank, IsBlank blank ∧ (t = blank ++ closing :: rest ∧ v = wrap [] ∨
      ∃ more xs, t = blank ++ more ∧ read more = .ok (xs, rest) ∧ v = wrap xs) := by
  obtain ⟨blank, hblank, ht⟩ := skipSpace_spec t
  refine ⟨blank, hblank, ?_⟩
  unfold readBracketed at h
  split at h
  · cases h
  next c more hskip =>
  rw [hskip] at ht
  split at h
  · next hc =>
    cases h
    exact .inl ⟨by rw [ht, hc], rfl⟩
  split at h
  · cases h
  · next xs tail hread =>
    cases h
    exact .inr ⟨c :: more, xs, ht, hread, rfl⟩

end

/-! ## Lists -/

/-- One thing after the other, with a comma between them. -/
inductive Lists {α : Type} (One : Text → α → Prop) : Text → List α → Prop where
  | single {t : Text} {x : α} (h : One t x) : Lists One t [x]
  | cons {t rest : Text} {x : α} {xs : List α} (h : One t x) (hrest : Lists One rest xs) :
      Lists One (t ++ "," ++ rest) (x :: xs)

section

variable {α β : Type} {One : Text → α → Prop} {f : β → Text} {g : β → α} {P : β → Prop}

theorem joinWith_cons (t : Text) {texts : List Text} (h : texts ≠ []) :
    Text.joinWith "," (t :: texts) = t ++ "," ++ Text.joinWith "," texts := by
  cases texts with
  | nil => exact absurd rfl h
  | cons next texts => rfl

theorem lists_of_joinWith {bs : List β} (hne : bs ≠ []) (h : ∀ b ∈ bs, One (f b) (g b)) :
    Lists One (Text.joinWith "," (bs.map f)) (bs.map g) := by
  induction bs with
  | nil => exact absurd rfl hne
  | cons b bs ih =>
    cases bs with
    | nil => exact .single (h b List.mem_cons_self)
    | cons next bs =>
      rw [List.map_cons, joinWith_cons (f b) (by simp)]
      exact .cons (h b List.mem_cons_self)
        (ih (List.cons_ne_nil next bs) fun x hx => h x (List.mem_cons_of_mem _ hx))

theorem Lists.joinWith {t : Text} {xs : List α} (h : Lists One t xs)
    (hone : ∀ {t x}, One t x → ∃ b, P b ∧ t = f b ∧ x = g b) :
    ∃ bs, bs ≠ [] ∧ (∀ b ∈ bs, P b) ∧ t = Text.joinWith "," (bs.map f) ∧ xs = bs.map g := by
  induction h with
  | single h =>
    obtain ⟨b, hb, rfl, rfl⟩ := hone h
    exact ⟨[b], List.cons_ne_nil b [], fun b' hb' => (List.mem_singleton.mp hb') ▸ hb, rfl, rfl⟩
  | cons h _ ih =>
    obtain ⟨b, hb, rfl, rfl⟩ := hone h
    obtain ⟨bs, hne, hbs, rfl, rfl⟩ := ih
    refine ⟨b :: bs, List.cons_ne_nil b bs, List.forall_mem_cons.mpr ⟨hb, hbs⟩, ?_, rfl⟩
    rw [List.map_cons, joinWith_cons (f b) (by simpa using hne)]

end

def IsMember (t : Text) (entry : Text × Value) : Prop :=
  ∃ before spelling after element, IsBlank before ∧ Spells spelling entry.1 ∧ IsBlank after ∧
    IsText element entry.2 ∧
    t = before ++ "\"" ++ spelling ++ "\"" ++ after ++ ":" ++ element

theorem Lists.writes_array {t : Text} {items : List Value} (h : Lists IsText t items) :
    Writes ("[" ++ t ++ "]") (.array items) := by
  obtain ⟨elements, hne, hall, rfl, rfl⟩ := @Lists.joinWith _ Element _ Element.written
    Element.value (fun e => e.IsSpaced ∧ Writes e.text e.value) _ _ h (by
      rintro _ v ⟨before, text, after, hbefore, htext, hafter, rfl⟩
      exact ⟨⟨before, text, after, v⟩, ⟨⟨hbefore, hafter⟩, htext⟩, rfl, rfl⟩)
  exact .array hne (fun e he => (hall e he).1) fun e he => (hall e he).2

theorem Lists.writes_object {t : Text} {members : List (Text × Value)}
    (h : Lists IsMember t members) : Writes ("\x7b" ++ t ++ "\x7d") (.object members) := by
  obtain ⟨members, hne, hall, rfl, rfl⟩ := @Lists.joinWith _ Member _ Member.written
    Member.entry (fun m => (m.IsSpaced ∧ Spells m.spelling m.name) ∧
      Writes m.element.text m.element.value) _ _ h (by
      rintro _ ⟨name, v⟩ ⟨before, spelling, after, _, hbefore, hspelling, hafter,
        ⟨before', text, after', hbefore', htext, hafter', rfl⟩, rfl⟩
      exact ⟨⟨before, spelling, after, name, ⟨before', text, after', v⟩⟩,
        ⟨⟨⟨hbefore, hafter, hbefore', hafter'⟩, hspelling⟩, htext⟩, rfl, rfl⟩)
  exact .object hne (fun m hm => (hall m hm).1.1) (fun m hm => (hall m hm).1.2)
    fun m hm => (hall m hm).2

/-! ## Behind an item -/

/-- What stands behind an item: the closing bracket, or a comma and the other items. -/
def readOthers {α : Type} (closing : CodePoint) (read : Text → Except Fault (List α × Text)) (x : α)
    (t : Text) : Except Fault (List α × Text) :=
  match readSeparator closing t with
  | .error fault => .error fault
  | .ok (.closing, rest) => .ok ([x], rest)
  | .ok (.comma, rest) =>
    match read (skipSpace rest) with
    | .error fault => .error fault
    | .ok (xs, rest') => .ok (x :: xs, rest')

theorem readItems_succ (room bound : Nat) (t : Text) :
    readItems room (bound + 1) t =
      match readValue room bound t with
      | .error fault => .error fault
      | .ok (v, rest) => readOthers ']' (readItems room bound) v rest := by
  rw [readItems]
  cases readValue room bound t with
  | error fault => rfl
  | ok found =>
    unfold readOthers
    dsimp only
    rcases readSeparator ']' found.2 with fault | ⟨_ | _, rest⟩
    · rfl
    · rfl
    · dsimp only
      cases readItems room bound (skipSpace rest) <;> rfl

theorem readMembers_succ (room bound : Nat) (t : Text) :
    readMembers room (bound + 1) t =
      match readName t with
      | .error fault => .error fault
      | .ok (name, behind) =>
        match readValue room bound (skipSpace behind) with
        | .error fault => .error fault
        | .ok (v, rest) => readOthers '\x7d' (readMembers room bound) (name, v) rest := by
  rw [readMembers]
  cases readName t with
  | error fault => rfl
  | ok named =>
    dsimp only
    cases readValue room bound (skipSpace named.2) with
    | error fault => rfl
    | ok found =>
      unfold readOthers
      dsimp only
      rcases readSeparator '\x7d' found.2 with fault | ⟨_ | _, rest⟩
      · rfl
      · rfl
      · dsimp only
        cases readMembers room bound (skipSpace rest) <;> rfl

section

variable {α : Type} {closing : CodePoint} {read : Text → Except Fault (List α × Text)} {x : α}
variable {t rest : Text} {xs : List α}

theorem readOthers_append {blank : Text} (h : IsBlank blank) (t : Text) :
    readOthers closing read x (blank ++ t) = readOthers closing read x t := by
  unfold readOthers readSeparator
  rw [skipSpace_append h]

theorem readOthers_closing (h : isSpace closing = false) (rest : Text) :
    readOthers closing read x (closing :: rest) = .ok ([x], rest) := by
  unfold readOthers readSeparator
  rw [skipSpace_cons h]
  simp only [if_true]

theorem readOthers_comma (h : closing ≠ ',') {more : Text}
    (hread : read (skipSpace more) = .ok (xs, rest)) :
    readOthers closing read x ((',' : CodePoint) :: more) = .ok (x :: xs, rest) := by
  unfold readOthers readSeparator
  rw [skipSpace_cons (by decide)]
  simp only [if_neg h.symm, if_true, hread]

/-- An item and what is read behind it are a list, if what is read behind a comma is one. -/
theorem lists_of_readOthers {One : Text → α → Prop} {item : Text}
    (hitem : ∀ {after}, IsBlank after → One (item ++ after) x)
    (hread : ∀ {t : Text} {xs : List α}, read t = .ok (xs, rest) → ∀ {blank}, IsBlank blank →
      ∃ body, Lists One body xs ∧ blank ++ t = body ++ closing :: rest)
    (h : readOthers closing read x t = .ok (xs, rest)) :
    ∃ body, Lists One body xs ∧ item ++ t = body ++ closing :: rest := by
  obtain ⟨after, hafter, ht⟩ := skipSpace_spec t
  unfold readOthers readSeparator at h
  cases hskip : skipSpace t with
  | nil => simp only [hskip] at h; cases h
  | cons c more =>
    rw [hskip] at ht
    simp only [hskip] at h
    by_cases hclosing : c = closing
    · simp only [if_pos hclosing] at h
      cases h
      exact ⟨item ++ after, .single (hitem hafter), by rw [ht, hclosing, List.append_assoc]⟩
    by_cases hcomma : c = ','
    · simp only [if_neg hclosing, if_pos hcomma] at h
      split at h
      · cases h
      · next others rest' hothers =>
        cases h
        obtain ⟨before, hbefore, hmore⟩ := skipSpace_spec more
        obtain ⟨body, hbody, heq⟩ := hread hothers hbefore
        refine ⟨item ++ after ++ "," ++ body, .cons (hitem hafter) hbody, ?_⟩
        rw [ht, hcomma, hmore, heq]
        simp only [List.append_assoc]
        rfl
    · simp only [if_neg hclosing, if_neg hcomma] at h
      cases h

end

/-! ## What is read is in the grammar -/

/-- What is read under a bound is what the grammar writes: values, and the lists of an array and of
an object with their closing brackets. -/
structure Sound (bound : Nat) : Prop where
  value : ∀ {room : Nat} {t rest : Text} {v : Value}, readValue room bound t = .ok (v, rest) →
    ∃ text, Writes text v ∧ t = text ++ rest
  items : ∀ {room : Nat} {t rest : Text} {vs : List Value},
    readItems room bound t = .ok (vs, rest) → ∀ {blank}, IsBlank blank →
      ∃ body, Lists IsText body vs ∧ blank ++ t = body ++ (']' : CodePoint) :: rest
  members : ∀ {room : Nat} {t rest : Text} {ms : List (Text × Value)},
    readMembers room bound t = .ok (ms, rest) → ∀ {blank}, IsBlank blank →
      ∃ body, Lists IsMember body ms ∧ blank ++ t = body ++ ('\x7d' : CodePoint) :: rest

/-- A text between two brackets, by what stands behind each of them. -/
theorem bracketed_append (opening closing : CodePoint) (body rest : Text) :
    [opening] ++ body ++ [closing] ++ rest = opening :: (body ++ closing :: rest) := by
  simp

namespace Sound

theorem zero : Sound 0 where
  value := nofun
  items := nofun
  members := nofun

variable {room bound : Nat} {t rest : Text}

theorem value_string {v : Value}
    (hread : readValue room (bound + 1) (('"' : CodePoint) :: t) = .ok (v, rest)) :
    ∃ text, Writes text v ∧ ('"' : CodePoint) :: t = text ++ rest := by
  rw [readValue, if_pos rfl] at hread
  split at hread
  · cases hread
  · next s more hstring =>
    cases hread
    obtain ⟨b, rfl, hspells⟩ := spells_of_readString hstring
    exact ⟨"\"" ++ b ++ "\"", .string hspells, (bracketed_append _ _ _ _).symm⟩

theorem value_array (h : Sound bound) {v : Value}
    (hread : readValue room (bound + 1) (('[' : CodePoint) :: t) = .ok (v, rest)) :
    ∃ text, Writes text v ∧ ('[' : CodePoint) :: t = text ++ rest := by
  rw [readValue_array] at hread
  split at hread
  · cases hread
  obtain ⟨blank, hblank, ⟨rfl, rfl⟩ | ⟨more, items, rfl, hitems, rfl⟩⟩ := readBracketed_spec hread
  · exact ⟨"[" ++ blank ++ "]", .emptyArray hblank, (bracketed_append _ _ _ _).symm⟩
  · obtain ⟨body, hbody, heq⟩ := h.items hitems hblank
    rw [heq]
    exact ⟨"[" ++ body ++ "]", hbody.writes_array, (bracketed_append _ _ _ _).symm⟩

theorem value_object (h : Sound bound) {v : Value}
    (hread : readValue room (bound + 1) (('\x7b' : CodePoint) :: t) = .ok (v, rest)) :
    ∃ text, Writes text v ∧ ('\x7b' : CodePoint) :: t = text ++ rest := by
  rw [readValue_object] at hread
  split at hread
  · cases hread
  obtain ⟨blank, hblank, ⟨rfl, rfl⟩ | ⟨more, members, rfl, hmembers, rfl⟩⟩ :=
    readBracketed_spec hread
  · exact ⟨"\x7b" ++ blank ++ "\x7d", .emptyObject hblank, (bracketed_append _ _ _ _).symm⟩
  · obtain ⟨body, hbody, heq⟩ := h.members hmembers hblank
    rw [heq]
    exact ⟨"\x7b" ++ body ++ "\x7d", hbody.writes_object, (bracketed_append _ _ _ _).symm⟩

theorem value_succ (h : Sound bound) {v : Value}
    (hread : readValue room (bound + 1) t = .ok (v, rest)) :
    ∃ text, Writes text v ∧ t = text ++ rest := by
  cases t with
  | nil => cases hread
  | cons c t =>
    by_cases hquote : c = '"'
    · exact hquote ▸ value_string (hquote ▸ hread)
    by_cases hbracket : c = '['
    · exact hbracket ▸ h.value_array (hbracket ▸ hread)
    by_cases hbrace : c = '\x7b'
    · exact hbrace ▸ h.value_object (hbrace ▸ hread)
    · rw [readValue, if_neg hquote, if_neg hbracket, if_neg hbrace] at hread
      obtain ⟨text, htext, -, heq⟩ := readAtom_spec hread
      exact ⟨text, htext, heq⟩

theorem items_succ (h : Sound bound) {vs : List Value}
    (hread : readItems room (bound + 1) t = .ok (vs, rest)) {blank : Text} (hblank : IsBlank blank) :
    ∃ body, Lists IsText body vs ∧ blank ++ t = body ++ (']' : CodePoint) :: rest := by
  rw [readItems_succ] at hread
  split at hread
  · cases hread
  next v more hvalue =>
  obtain ⟨text, htext, rfl⟩ := h.value hvalue
  rw [← List.append_assoc]
  exact lists_of_readOthers (fun hafter => ⟨blank, text, _, hblank, htext, hafter, rfl⟩) h.items hread

theorem members_succ (h : Sound bound) {ms : List (Text × Value)}
    (hread : readMembers room (bound + 1) t = .ok (ms, rest)) {blank : Text} (hblank : IsBlank blank) :
    ∃ body, Lists IsMember body ms ∧ blank ++ t = body ++ ('\x7d' : CodePoint) :: rest := by
  rw [readMembers_succ] at hread
  split at hread
  · cases hread
  next name behind hname =>
  split at hread
  · cases hread
  next v more hvalue =>
  obtain ⟨spelling, after, hspelling, hafter, rfl⟩ := readName_spec hname
  obtain ⟨front, hfront, hbehind⟩ := skipSpace_spec behind
  obtain ⟨text, htext, heq⟩ := h.value hvalue
  have hsplit : blank ++ ('"' : CodePoint) :: (spelling ++ ('"' : CodePoint) ::
      (after ++ (':' : CodePoint) :: behind)) =
        blank ++ "\"" ++ spelling ++ "\"" ++ after ++ ":" ++ (front ++ text) ++ more := by
    rw [hbehind, heq]
    simp only [List.append_assoc]
    rfl
  rw [hsplit]
  refine lists_of_readOthers (fun {last} hlast => ?_) h.members hread
  exact ⟨blank, spelling, after, front ++ text ++ last, hblank, hspelling, hafter,
    ⟨front, text, last, hfront, htext, hlast, rfl⟩, by rw [List.append_assoc]⟩

theorem succ (h : Sound bound) : Sound (bound + 1) where
  value := h.value_succ
  items := h.items_succ
  members := h.members_succ

end Sound

/-- **What is read** is in the grammar. -/
theorem sound (bound : Nat) : Sound bound := by
  -- each reader calls the others under the bound below its own
  induction bound with
  | zero => exact .zero
  | succ bound ih => exact ih.succ

/-! ## What is read fits the room -/

/-- What is read under a bound is not nested deeper than there is room. -/
structure Shallow (bound : Nat) : Prop where
  value : ∀ {room : Nat} {t rest : Text} {v : Value}, readValue room bound t = .ok (v, rest) →
    v.depth ≤ room
  items : ∀ {room : Nat} {t rest : Text} {vs : List Value},
    readItems room bound t = .ok (vs, rest) → ∀ v ∈ vs, v.depth ≤ room
  members : ∀ {room : Nat} {t rest : Text} {ms : List (Text × Value)},
    readMembers room bound t = .ok (ms, rest) → ∀ m ∈ ms, m.2.depth ≤ room

/-- What holds of an item and of those behind it holds of all. -/
theorem forall_of_readOthers {α : Type} {closing : CodePoint} {P : α → Prop}
    {read : Text → Except Fault (List α × Text)} {x : α} {t rest : Text} {xs : List α} (hx : P x)
    (hread : ∀ {t rest xs}, read t = .ok (xs, rest) → ∀ y ∈ xs, P y)
    (h : readOthers closing read x t = .ok (xs, rest)) : ∀ y ∈ xs, P y := by
  unfold readOthers at h
  split at h
  · cases h
  · cases h
    exact List.forall_mem_singleton.mpr hx
  · split at h
    · cases h
    · next hothers =>
      cases h
      exact List.forall_mem_cons.mpr ⟨hx, hread hothers⟩

namespace Shallow

theorem zero : Shallow 0 where
  value := nofun
  items := nofun
  members := nofun

variable {room bound : Nat} {t rest : Text}

theorem value_array (h : Shallow bound) {v : Value}
    (hread : readValue room (bound + 1) (('[' : CodePoint) :: t) = .ok (v, rest)) :
    v.depth ≤ room := by
  rw [readValue_array] at hread
  split at hread
  · cases hread
  next hroom =>
  obtain ⟨_, -, ⟨-, rfl⟩ | ⟨_, items, -, hitems, rfl⟩⟩ := readBracketed_spec hread
  · exact Value.depth_array_le_iff.mpr ⟨hroom, List.forall_mem_nil _⟩
  · exact Value.depth_array_le_iff.mpr ⟨hroom, h.items hitems⟩

theorem value_object (h : Shallow bound) {v : Value}
    (hread : readValue room (bound + 1) (('\x7b' : CodePoint) :: t) = .ok (v, rest)) :
    v.depth ≤ room := by
  rw [readValue_object] at hread
  split at hread
  · cases hread
  next hroom =>
  obtain ⟨_, -, ⟨-, rfl⟩ | ⟨_, members, -, hmembers, rfl⟩⟩ := readBracketed_spec hread
  · exact Value.depth_object_le_iff.mpr ⟨hroom, List.forall_mem_nil _⟩
  · exact Value.depth_object_le_iff.mpr ⟨hroom, h.members hmembers⟩

theorem value_succ (h : Shallow bound) {v : Value}
    (hread : readValue room (bound + 1) t = .ok (v, rest)) : v.depth ≤ room := by
  cases t with
  | nil => cases hread
  | cons c t =>
    by_cases hquote : c = '"'
    · rw [readValue, if_pos hquote] at hread
      split at hread <;> cases hread
      exact Nat.zero_le room
    by_cases hbracket : c = '['
    · exact h.value_array (hbracket ▸ hread)
    by_cases hbrace : c = '\x7b'
    · exact h.value_object (hbrace ▸ hread)
    · rw [readValue, if_neg hquote, if_neg hbracket, if_neg hbrace] at hread
      obtain ⟨_, -, hdepth, -⟩ := readAtom_spec hread
      rw [hdepth]
      exact Nat.zero_le room

theorem items_succ (h : Shallow bound) {vs : List Value}
    (hread : readItems room (bound + 1) t = .ok (vs, rest)) : ∀ v ∈ vs, v.depth ≤ room := by
  rw [readItems_succ] at hread
  split at hread
  · cases hread
  next v more hvalue =>
  exact forall_of_readOthers (h.value hvalue) h.items hread

theorem members_succ (h : Shallow bound) {ms : List (Text × Value)}
    (hread : readMembers room (bound + 1) t = .ok (ms, rest)) : ∀ m ∈ ms, m.2.depth ≤ room := by
  rw [readMembers_succ] at hread
  split at hread
  · cases hread
  split at hread
  · cases hread
  next v more hvalue =>
  exact forall_of_readOthers (P := fun m : Text × Value => m.2.depth ≤ room) (h.value hvalue)
    h.members hread

theorem succ (h : Shallow bound) : Shallow (bound + 1) where
  value := h.value_succ
  items := h.items_succ
  members := h.members_succ

end Shallow

/-- **What is read** fits the room. -/
theorem shallow (bound : Nat) : Shallow bound := by
  induction bound with
  | zero => exact .zero
  | succ bound ih => exact ih.succ

/-! ## The grammar is read -/

/-- A text is read as a value that fits the room under twice its length, by what stands behind it. It
starts with a code point that is neither white space nor a closing bracket. -/
structure ReadsAs (text : Text) (v : Value) : Prop where
  starts : ∃ c t, text = c :: t ∧ 0x20 < c.val ∧ c.val ≤ 0x7E ∧ c ≠ ']'
  reads : ∀ {room bound : Nat} {rest : Text}, v.depth ≤ room → 2 * text.length ≤ bound + 1 →
    Ends rest → readValue room bound (text ++ rest) = .ok (v, rest)

namespace ReadsAs

variable {text : Text} {v : Value} {room bound : Nat}

/-- White space in front is passed over, and nothing of the text itself. -/
theorem skipSpace_append (h : ReadsAs text v) {blank : Text} (hblank : IsBlank blank) (rest : Text) :
    skipSpace (blank ++ text ++ rest) = text ++ rest := by
  obtain ⟨c, t, rfl, hmin, -, -⟩ := h.starts
  rw [List.append_assoc]
  exact skipSpace_append_cons hblank hmin (t ++ rest)

end ReadsAs

/-- A text is read as one item, up to what stands behind it. -/
structure ReadsOne {α : Type} (read : Nat → Text → Except Fault (List α × Text))
    (closing : CodePoint) (t : Text) (x : α) : Prop where
  starts : ∀ rest, ∃ c more, skipSpace (t ++ rest) = c :: more ∧ c ≠ closing
  reads : ∀ {bound : Nat} {rest : Text}, 2 * t.length ≤ bound + 1 → Ends rest →
    read (bound + 1) (skipSpace (t ++ rest)) = readOthers closing (read bound) x rest

section

variable {α : Type} {read : Nat → Text → Except Fault (List α × Text)} {closing : CodePoint}
variable {body : Text} {xs : List α}

theorem ReadsOne.length_pos {t : Text} {x : α} (h : ReadsOne read closing t x) : 0 < t.length := by
  obtain ⟨c, more, heq, -⟩ := h.starts []
  cases t with
  | nil => cases heq
  | cons c t => exact Nat.succ_pos t.length

theorem Lists.starts (h : Lists (ReadsOne read closing) body xs) (rest : Text) :
    ∃ c more, skipSpace (body ++ rest) = c :: more ∧ c ≠ closing := by
  cases h with
  | single h => exact h.starts rest
  | @cons t body _ _ h _ =>
    obtain ⟨c, more, heq, hc⟩ := h.starts ("," ++ body ++ rest)
    exact ⟨c, more, by simpa only [List.append_assoc] using heq, hc⟩

/-- A list of such items is read with its closing bracket. -/
theorem Lists.reads (hclosing : closing = ']' ∨ closing = '\x7d')
    (h : Lists (ReadsOne read closing) body xs) {bound : Nat} (hbound : 2 * body.length ≤ bound)
    (rest : Text) : read bound (skipSpace (body ++ closing :: rest)) = .ok (xs, rest) := by
  have hspace : isSpace closing = false := by rcases hclosing with rfl | rfl <;> decide
  have hcomma : closing ≠ ',' := by rcases hclosing with rfl | rfl <;> decide
  -- an item takes one call, and it has at least one code point, which is worth two
  induction h generalizing bound with
  | single h =>
    have hpos := h.length_pos
    obtain ⟨bound, rfl⟩ : ∃ b, bound = b + 1 := ⟨bound - 1, by omega⟩
    rw [h.reads hbound (ends_cons (.inr hclosing) rest), readOthers_closing hspace]
  | @cons t body x xs h _ ih =>
    have hpos := h.length_pos
    have hlength : (Text.ofString ",").length = 1 := rfl
    simp only [List.length_append] at hbound
    obtain ⟨bound, rfl⟩ : ∃ b, bound = b + 1 := ⟨bound - 1, by omega⟩
    have hsplit : t ++ "," ++ body ++ closing :: rest =
        t ++ (',' : CodePoint) :: (body ++ closing :: rest) := by
      simp only [List.append_assoc]
      rfl
    rw [hsplit, h.reads (by omega) (ends_cons (.inl rfl) _), readOthers_comma hcomma (ih (by omega))]

end

/-- An element is read as one item of an array. -/
theorem readsOne_element {room : Nat} {e : Element} (hspaced : e.IsSpaced)
    (hdepth : e.value.depth ≤ room) (h : ReadsAs e.text e.value) :
    ReadsOne (readItems room) ']' e.written e.value where
  starts := by
    intro rest
    obtain ⟨c, t, heq, -, -, hc⟩ := h.starts
    exact ⟨c, t ++ (e.after ++ rest), by
      rw [Element.written, List.append_assoc, h.skipSpace_append hspaced.1, heq, List.cons_append],
      hc⟩
  reads := by
    intro bound rest hbound hrest
    have hlength : 2 * e.text.length ≤ bound + 1 := by
      simp only [Element.written, List.length_append] at hbound
      omega
    rw [Element.written, List.append_assoc, h.skipSpace_append hspaced.1, readItems_succ,
      h.reads hdepth hlength (hspaced.2.ends hrest)]
    exact readOthers_append hspaced.2 rest

/-- A member is read as one item of an object. -/
theorem readsOne_member {room : Nat} {m : Member} (hspaced : m.IsSpaced)
    (hname : Spells m.spelling m.name) (hdepth : m.element.value.depth ≤ room)
    (h : ReadsAs m.element.text m.element.value) :
    ReadsOne (readMembers room) '\x7d' m.written m.entry where
  starts := by
    intro rest
    refine ⟨'"', m.spelling ++ "\"" ++ m.after ++ ":" ++ m.element.written ++ rest, ?_, by decide⟩
    rw [Member.written]
    simp only [List.append_assoc, skipSpace_append hspaced.1]
    rfl
  reads := by
    intro bound rest hbound hrest
    obtain ⟨hbefore, hafter, hfront, hbehind⟩ := hspaced
    have hskip : skipSpace (m.written ++ rest) =
        ('"' : CodePoint) :: (m.spelling ++ ('"' : CodePoint) :: (m.after ++ (':' : CodePoint) ::
          (m.element.written ++ rest))) := by
      rw [Member.written]
      simp only [List.append_assoc, skipSpace_append hbefore]
      rfl
    have hvalue : readValue room bound (skipSpace (m.element.written ++ rest)) =
        .ok (m.element.value, m.element.after ++ rest) := by
      rw [Element.written, List.append_assoc, h.skipSpace_append hfront]
      refine h.reads hdepth ?_ (hbehind.ends hrest)
      simp only [Member.written, Element.written, List.length_append] at hbound
      omega
    rw [hskip, readMembers_succ, readName_append hname hafter]
    simp only [hvalue]
    exact readOthers_append hbehind rest

/-- A word or a numeral: none of the marks that start another value stands in front. -/
theorem readValue_atom {c : CodePoint} (hc : c ∉ ("\"[]\x7b" : Text)) (room bound : Nat)
    (t : Text) : readValue room (bound + 1) (c :: t) = readAtom (c :: t) := by
  have hquote : c ≠ '"' := fun heq => hc (by rw [heq]; decide)
  have hbracket : c ≠ '[' := fun heq => hc (by rw [heq]; decide)
  have hbrace : c ≠ '\x7b' := fun heq => hc (by rw [heq]; decide)
  rw [readValue, if_neg hquote, if_neg hbracket, if_neg hbrace]

/-- Neither a minus sign nor a digit is white space or such a mark. -/
theorem bounds_of_numeral {c : CodePoint} (h : c = '-' ∨ Text.isDecimalDigit c = true) :
    0x20 < c.val ∧ c.val ≤ 0x7E ∧ c ∉ ("\"[]\x7b" : Text) := by
  rcases h with rfl | hc
  · decide
  · simp only [Text.isDecimalDigit, Bool.and_eq_true, decide_eq_true_eq] at hc
    refine ⟨by omega, by omega, fun hmem => ?_⟩
    have hcode : c.val ∈ [0x22, 0x5B, 0x5D, 0x7B] := List.mem_map_of_mem (f := Fin.val) hmem
    simp only [List.mem_cons, List.not_mem_nil, or_false] at hcode
    omega

namespace ReadsAs

theorem atom {c : CodePoint} {t : Text} (hmin : 0x20 < c.val) (hmax : c.val ≤ 0x7E)
    (hc : c ∉ ("\"[]\x7b" : Text)) (hread : ∀ rest, Ends rest →
      readAtom (c :: t ++ rest) = .ok (v, rest)) : ReadsAs (c :: t) v where
  starts := ⟨c, t, rfl, hmin, hmax, fun heq => hc (by rw [heq]; decide)⟩
  reads := by
    intro room bound rest _ hbound hrest
    obtain ⟨bound, rfl⟩ : ∃ b, bound = b + 1 := ⟨bound - 1, by
      rw [List.length_cons] at hbound
      omega⟩
    rw [← hread rest hrest, List.cons_append, readValue_atom hc]

theorem word {word : Text} (h : (word, v) ∈ words) : ReadsAs word v := by
  have hread : ∀ rest, Ends rest → readAtom (word ++ rest) = .ok (v, rest) := fun _ _ =>
    readAtom_word h
  simp only [words, List.mem_cons, Prod.mk.injEq, List.not_mem_nil, or_false] at h
  rcases h with ⟨rfl, -⟩ | ⟨rfl, -⟩ | ⟨rfl, -⟩ | ⟨rfl, -⟩ | ⟨rfl, -⟩ | ⟨rfl, -⟩ <;>
    exact atom (by decide) (by decide) (by decide) hread

theorem numeral {t : Text} (h : IsNumeral t) : ReadsAs t (.number t) := by
  have hread : ∀ rest, Ends rest → readAtom (t ++ rest) = .ok (.number t, rest) := fun _ hrest =>
    readAtom_numeral h hrest.stops
  obtain ⟨c, t, rfl, hc⟩ := h.starts
  obtain ⟨hmin, hmax, hc⟩ := bounds_of_numeral hc
  exact atom hmin hmax hc hread

/-- The bound left for what stands between two brackets. -/
theorem bound_of_bracketed {body : Text} (opening closing : CodePoint)
    (h : 2 * ([opening] ++ body ++ [closing]).length ≤ bound + 1) :
    ∃ b, bound = b + 1 ∧ 2 * body.length ≤ b := by
  simp only [List.length_append, List.length_singleton] at h
  exact ⟨bound - 1, by omega, by omega⟩

theorem string {b s : Text} (h : Spells b s) : ReadsAs ("\"" ++ b ++ "\"") (.string s) where
  starts := ⟨'"', b ++ "\"", rfl, by decide, by decide, by decide⟩
  reads := by
    intro room bound rest _ hbound _
    obtain ⟨bound, rfl, -⟩ := bound_of_bracketed '"' '"' hbound
    have hstring := readString_of_spells h rest
    rw [show "\"" ++ b ++ "\"" ++ rest = _ from bracketed_append '"' '"' b rest, readValue,
      if_pos rfl, hstring]

theorem emptyArray {blank : Text} (h : IsBlank blank) :
    ReadsAs ("[" ++ blank ++ "]") (.array []) where
  starts := ⟨'[', blank ++ "]", rfl, by decide, by decide, by decide⟩
  reads := by
    intro room bound rest hdepth hbound _
    obtain ⟨hroom, -⟩ := Value.depth_array_le_iff.mp hdepth
    obtain ⟨bound, rfl, -⟩ := bound_of_bracketed '[' ']' hbound
    rw [show "[" ++ blank ++ "]" ++ rest = _ from bracketed_append '[' ']' blank rest,
      readValue_array, if_neg hroom, readBracketed_blank h (by decide)]

theorem array {body : Text} {vs : List Value} (h : ∀ {room}, (∀ v ∈ vs, v.depth ≤ room) →
      Lists (ReadsOne (readItems room) ']') body vs) :
    ReadsAs ("[" ++ body ++ "]") (.array vs) where
  starts := ⟨'[', _, rfl, by decide, by decide, by decide⟩
  reads := by
    intro room bound rest hdepth hbound _
    obtain ⟨hroom, hfits⟩ := Value.depth_array_le_iff.mp hdepth
    obtain ⟨bound, rfl, hbody⟩ := bound_of_bracketed '[' ']' hbound
    obtain ⟨c, more, hskip, hc⟩ := (h hfits).starts ((']' : CodePoint) :: rest)
    rw [show "[" ++ body ++ "]" ++ rest = _ from bracketed_append '[' ']' body rest,
      readValue_array, if_neg hroom,
      readBracketed_list hskip hc ((h hfits).reads (.inl rfl) hbody rest)]

theorem emptyObject {blank : Text} (h : IsBlank blank) :
    ReadsAs ("\x7b" ++ blank ++ "\x7d") (.object []) where
  starts := ⟨'\x7b', blank ++ "\x7d", rfl, by decide, by decide, by decide⟩
  reads := by
    intro room bound rest hdepth hbound _
    obtain ⟨hroom, -⟩ := Value.depth_object_le_iff.mp hdepth
    obtain ⟨bound, rfl, -⟩ := bound_of_bracketed '\x7b' '\x7d' hbound
    rw [show "\x7b" ++ blank ++ "\x7d" ++ rest = _ from bracketed_append '\x7b' '\x7d' blank rest,
      readValue_object, if_neg hroom, readBracketed_blank h (by decide)]

theorem object {body : Text} {ms : List (Text × Value)}
    (h : ∀ {room}, (∀ m ∈ ms, m.2.depth ≤ room) →
      Lists (ReadsOne (readMembers room) '\x7d') body ms) :
    ReadsAs ("\x7b" ++ body ++ "\x7d") (.object ms) where
  starts := ⟨'\x7b', _, rfl, by decide, by decide, by decide⟩
  reads := by
    intro room bound rest hdepth hbound _
    obtain ⟨hroom, hfits⟩ := Value.depth_object_le_iff.mp hdepth
    obtain ⟨bound, rfl, hbody⟩ := bound_of_bracketed '\x7b' '\x7d' hbound
    obtain ⟨c, more, hskip, hc⟩ := (h hfits).starts (('\x7d' : CodePoint) :: rest)
    rw [show "\x7b" ++ body ++ "\x7d" ++ rest = _ from bracketed_append '\x7b' '\x7d' body rest,
      readValue_object, if_neg hroom,
      readBracketed_list hskip hc ((h hfits).reads (.inr rfl) hbody rest)]

end ReadsAs

/-- **A text of a value** is read as that value. -/
theorem Writes.readsAs {t : Text} {v : Value} (h : Writes t v) : ReadsAs t v := by
  -- by the grammar, and not by the bound, which the length of each part pays for
  induction h with
  | word h => exact .word h
  | numeral h => exact .numeral h
  | string h => exact .string h
  | emptyArray h => exact .emptyArray h
  | array hne hspaced _ ih =>
    exact .array fun hfits => lists_of_joinWith hne fun e he =>
      readsOne_element (hspaced e he) (hfits _ (List.mem_map_of_mem he)) (ih e he)
  | emptyObject h => exact .emptyObject h
  | object hne hspaced hnames _ ih =>
    exact .object fun hfits => lists_of_joinWith hne fun m hm =>
      readsOne_member (hspaced m hm) (hnames m hm) (hfits _ (List.mem_map_of_mem hm)) (ih m hm)

/-! ## Whole texts -/

/-- Neither white space nor the start of a value is a byte order mark. -/
theorem head_ne_byteOrderMark {blank t : Text} {c : CodePoint} (hblank : IsBlank blank)
    (hc : c.val ≤ 0x7E) : (blank ++ c :: t).head? ≠ some byteOrderMark := by
  cases blank with
  | nil =>
    intro heq
    rw [Option.some.inj heq] at hc
    exact absurd hc (by decide)
  | cons d blank =>
    have hspace := hblank d List.mem_cons_self
    intro heq
    rw [Option.some.inj heq] at hspace
    exact absurd hspace (by decide)

theorem IsText.head_ne {t : Text} {v : Value} (h : IsText t v) : t.head? ≠ some byteOrderMark := by
  obtain ⟨before, text, after, hbefore, htext, -, rfl⟩ := h
  obtain ⟨c, t, rfl, -, hmax, -⟩ := htext.readsAs.starts
  rw [List.append_assoc]
  exact head_ne_byteOrderMark hbefore hmax

theorem IsText.read_eq {room : Nat} {t : Text} {v : Value} (h : IsText t v)
    (hdepth : v.depth ≤ room) : Value.read room t = .ok v := by
  have hhead := h.head_ne
  obtain ⟨before, text, after, hbefore, htext, hafter, rfl⟩ := h
  have hends : Ends after := by
    have key := hafter.ends (t := []) nofun
    rwa [List.append_nil] at key
  unfold Value.read
  rw [if_neg hhead, htext.readsAs.skipSpace_append hbefore,
    htext.readsAs.reads hdepth (by simp only [List.length_append]; omega) hends]
  simp only [hafter.skipSpace_eq, List.isEmpty_nil, if_true]

theorem isText_of_read {room : Nat} {t : Text} {v : Value} (h : Value.read room t = .ok v) :
    IsText t v ∧ v.depth ≤ room := by
  unfold Value.read at h
  split at h
  · cases h
  split at h
  · cases h
  next value rest hread =>
  split at h
  · next hrest =>
    cases h
    obtain ⟨before, hbefore, ht⟩ := skipSpace_spec t
    obtain ⟨after, hafter, hmore⟩ := skipSpace_spec rest
    obtain ⟨text, htext, heq⟩ := (sound _).value hread
    rw [List.isEmpty_iff.mp hrest, List.append_nil] at hmore
    refine ⟨⟨before, text, after, hbefore, htext, hafter, ?_⟩, (shallow _).value hread⟩
    rw [← hmore, List.append_assoc, ← heq]
    exact ht
  · cases h

/-- **The reader takes the grammar**: a text is read as a value if and only if it is a text of it, and
there is room for the value. -/
theorem read_eq_ok_iff {room : Nat} {t : Text} {v : Value} :
    Value.read room t = .ok v ↔ IsText t v ∧ v.depth ≤ room :=
  ⟨isText_of_read, fun h => h.1.read_eq h.2⟩

/-- A text writes one value at most. -/
theorem IsText.unique {t : Text} {v v' : Value} (h : IsText t v) (h' : IsText t v') : v = v' :=
  Except.ok.inj ((h.read_eq (Nat.le_max_left _ _)).symm.trans (h'.read_eq (Nat.le_max_right _ _)))

end RequestCheck.Json
