import ClipRelay.Proofs.Json.Values
import ClipRelay.Proofs.Number.Finite
import Mathlib.Data.List.Nodup

/-!
# Records survive as text

A field of a record is written with a value that its reader takes, or it is left out and its reader
says what it is then (`Member.Fits`).

* `takes_record`: a record whose fields fit is read wherever its object stands, in the order of its
  fields.
* `gives_record`: a property of all values that the fields can come to holds for the fields of
  every record that is read, from an object or from a list.
-/

namespace ClipRelay.Json

open Text Read

variable {height depth : Nat}

/-! ## Values of one kind -/

theorem takes_text (s : String) : Takes Read.text height (chars (.string s)) (.string s) := by
  intro depth rest _ _
  simp only [chars, quoted, List.map_append, List.map_cons, List.map_nil, List.cons_append,
    List.nil_append, List.append_assoc]
  rw [Read.text, skipBlanks_cons (by decide)]
  simp [textBody_quoted]

/-- A double that is read as it is written is read as itself. -/
theorem takes_real {x : Double} (h : ReadsBack (.real x)) :
    Takes Read.real height (chars (.ofDouble x)) (.ofDouble x) := by
  intro depth rest _ hrest
  obtain ⟨c, cs, hcs, hc⟩ := exists_startsNumber h
  have hnumber := h.number_append hrest
  simp only [ofDouble, chars, hcs, List.map_cons, List.cons_append] at hnumber ⊢
  rw [Read.real, skipBlanks_cons (opens_of_startsNumber hc).1]
  simp [hc, hnumber, JsonNumber.toDouble, ofDouble]

theorem takes_flag (b : Bool) : Takes Read.flag height (chars (.bool b)) (.bool b) := by
  intro depth rest _ _
  cases b with
  | true =>
    rw [chars_true, List.map_cons, List.cons_append, Read.flag, skipBlanks_cons (by decide)]
    simp only [expect_append]
    rfl
  | false =>
    rw [chars_false, List.map_cons, List.cons_append, Read.flag, skipBlanks_cons (by decide)]
    simp only [expect_append]
    rfl

/-- A known name is read as it is written. -/
theorem takes_word {names : List String} {s : String} (h : s ∈ names) :
    Takes (word names) height (chars (.string s)) (.string s) := by
  intro depth rest hdepth hrest
  have htext := takes_text s depth rest hdepth hrest
  simp only [chars, quoted, List.map_cons, List.cons_append] at htext ⊢
  rw [word, skipBlanks_cons (by decide)]
  simp only [htext]
  simp [asText?, h]

theorem takes_null (inner : Reader) : Takes (optional inner) height (chars .null) .null := by
  intro depth rest _ _
  rw [chars_null, List.map_cons, List.cons_append, Read.optional, skipBlanks_cons (by decide)]
  simp only [expect_append]
  rfl

/-- What does not start like `null` is left to the reader of values. -/
theorem takes_optional {inner : Reader} {cs : List Char} {v : Json}
    (h : Takes inner height cs v) (hfirst : ∃ c ∈ cs.head?, isJsonBlank c = false ∧ c ≠ 'n') :
    Takes (optional inner) height cs v := by
  obtain ⟨c, hc, hblank, hnull⟩ := hfirst
  obtain ⟨cs, rfl⟩ := List.head?_eq_some_iff.1 hc
  intro depth rest hdepth hrest
  have hinner := h depth rest hdepth hrest
  rw [List.map_cons, List.cons_append] at hinner ⊢
  rw [Read.optional, skipBlanks_cons hblank]
  split
  · rename_i heq
    cases heq
    exact absurd rfl hnull
  · exact hinner

/-! ## Records -/

/-- A field of a record with the value that is written for it, if it is not left out, and the value
that is read. -/
structure Member where
  field : Field
  written : Option Json
  value : Json

namespace Member

/-- The field is read as its value from what is written, or from nothing. -/
def Fits (height : Nat) (e : Member) : Prop :=
  match e.written with
  | some w => Takes e.field.read height (chars w) e.value
  | none => e.field.missing = some e.value

/-- The members that are written. -/
def pairs (members : List Member) : List (String × Json) :=
  members.filterMap fun e => e.written.map (e.field.name, ·)

/-- What the members are read as. -/
def slots (members : List Member) : Slots :=
  members.filterMap fun e => e.written.map fun _ => (e.field.name, e.value)

end Member

open Member

variable {fields : List Field}

theorem member_memberText {f : Field} {w v : Json} {slots : Slots}
    (hfind : fields.find? (·.name == f.name) = some f) (hfree : slots.lookup f.name = none)
    (h : Takes f.read height (chars w) v) (hdepth : height ≤ depth) {rest : List Glyph}
    (hrest : Ends rest) :
    member fields depth slots ((memberText (f.name, w)).map some ++ rest) =
      .ok ((f.name, v) :: slots, rest) := by
  have htext := textBody_quoted f.name (some ':' :: ((chars w).map some ++ rest))
  simp only [memberText, quoted, List.map_append, List.map_cons, List.cons_append,
    List.nil_append, List.append_assoc, member]
  rw [skipBlanks_cons (by decide)]
  simp only [htext, ok_bind, String.ofList_toList, hfind, hfree]
  rw [skipBlanks_cons (by decide)]
  simp [h depth rest hdepth hrest]

theorem goes_record (hdepth : height ≤ depth) {members : List Member}
    (hfields : ∀ e ∈ members, fields.find? (·.name == e.field.name) = some e.field)
    (hfits : ∀ e ∈ members, e.Fits height)
    (hnames : (members.map (·.field.name)).Nodup) (before : Slots)
    (hbefore : ∀ e ∈ members, before.lookup e.field.name = none) :
    Goes (member fields depth) before ((pairs members).map memberText)
      ((slots members).reverse ++ before) := by
  induction members generalizing before with
  | nil => exact .done before
  | cons e members ih =>
    obtain ⟨hname, hnames⟩ := List.nodup_cons.1 hnames
    have hrest := ih (fun e' he' => hfields e' (List.mem_cons_of_mem _ he'))
      (fun e' he' => hfits e' (List.mem_cons_of_mem _ he')) hnames
    have hfit := hfits e List.mem_cons_self
    cases hwritten : e.written with
    | none =>
      have hpairs : pairs (e :: members) = pairs members := by simp [pairs, hwritten]
      have hslots : slots (e :: members) = slots members := by simp [slots, hwritten]
      rw [hpairs, hslots]
      exact hrest before fun e' he' => hbefore e' (List.mem_cons_of_mem _ he')
    | some w =>
      have hpairs : pairs (e :: members) = (e.field.name, w) :: pairs members := by
        simp [pairs, hwritten]
      have hslots : slots (e :: members) = (e.field.name, e.value) :: slots members := by
        simp [slots, hwritten]
      rw [Fits, hwritten] at hfit
      rw [hpairs, hslots, List.reverse_cons, List.append_assoc]
      refine .next (fun rest hrest => member_memberText (hfields e List.mem_cons_self)
        (hbefore e List.mem_cons_self) hfit hdepth hrest) (hrest _ fun e' he' => ?_)
      have hne : e'.field.name ≠ e.field.name := fun heq =>
        hname (List.mem_map.2 ⟨e', he', heq⟩)
      rw [List.lookup_cons, beq_eq_false_iff_ne.2 hne]
      exact hbefore e' (List.mem_cons_of_mem _ he')

/-- A field that is found is the one with its name. -/
theorem find?_of_nodup (h : (fields.map Field.name).Nodup) {f : Field} (hf : f ∈ fields) :
    fields.find? (·.name == f.name) = some f := by
  induction fields with
  | nil => exact absurd hf List.not_mem_nil
  | cons f' fields ih =>
    obtain ⟨hname, hnames⟩ := List.nodup_cons.1 h
    rcases List.mem_cons.1 hf with rfl | hf
    · simp
    · have hne : f'.name ≠ f.name := fun heq => hname (heq ▸ List.mem_map_of_mem hf)
      rw [List.find?_cons_of_neg (by simpa using hne), ih hnames hf]

theorem keys_slots_sublist (members : List Member) :
    ((slots members).map Prod.fst).Sublist (members.map (·.field.name)) := by
  induction members with
  | nil => exact .slnil
  | cons e members ih =>
    cases hwritten : e.written with
    | none =>
      rw [show slots (e :: members) = slots members by simp [slots, hwritten]]
      exact ih.cons _
    | some w =>
      rw [show slots (e :: members) = (e.field.name, e.value) :: slots members by
        simp [slots, hwritten]]
      exact ih.cons_cons _

/-- The value of a key that stands once. -/
theorem lookup_of_mem {l : Slots} (h : (l.map Prod.fst).Nodup) {k : String} {v : Json}
    (hmem : (k, v) ∈ l) : l.lookup k = some v := by
  induction l with
  | nil => exact absurd hmem List.not_mem_nil
  | cons m l ih =>
    obtain ⟨hname, hnames⟩ := List.nodup_cons.1 h
    rcases List.mem_cons.1 hmem with rfl | hmem
    · simp
    · have hne : k ≠ m.1 := fun heq => hname (heq ▸ List.mem_map_of_mem (f := Prod.fst) hmem)
      rw [List.lookup_cons, beq_eq_false_iff_ne.2 hne]
      exact ih hnames hmem

/-- The slots hold the values that are written, and no others. -/
theorem lookup_slots {members : List Member} (hnames : (members.map (·.field.name)).Nodup)
    {e : Member} (he : e ∈ members) :
    (slots members).reverse.lookup e.field.name = e.written.map fun _ => e.value := by
  have hkeys : (((slots members).reverse).map Prod.fst).Nodup := by
    rw [List.map_reverse, List.nodup_reverse]
    exact hnames.sublist (keys_slots_sublist members)
  cases hwritten : e.written with
  | some w =>
    refine lookup_of_mem hkeys (List.mem_reverse.2 ?_)
    exact List.mem_filterMap.2 ⟨e, he, by rw [hwritten]; rfl⟩
  | none =>
    refine List.lookup_eq_none_iff.2 fun m hm => ?_
    obtain ⟨e', he', hm⟩ := List.mem_filterMap.1 (List.mem_reverse.1 hm)
    obtain ⟨w, hw, rfl⟩ := Option.map_eq_some_iff.1 hm
    have hne : e ≠ e' := by
      rintro rfl
      rw [hwritten] at hw
      cases hw
    exact bne_iff_ne.2 fun heq => hne (List.inj_on_of_nodup_map hnames he he' heq)

theorem fill_eq_ok {slots : Slots} {members : List Member}
    (h : ∀ e ∈ members, (slots.lookup e.field.name <|> e.field.missing) = some e.value) :
    fill (members.map Member.field) slots = .ok (members.map Member.value) := by
  unfold fill
  induction members with
  | nil => rfl
  | cons e members ih =>
    rw [List.map_cons, List.mapM_cons, ih fun e' he' => h e' (List.mem_cons_of_mem _ he')]
    simp only [h e List.mem_cons_self]
    rfl

/-- A record whose fields fit is read wherever its object stands. -/
theorem takes_record (hnames : (fields.map Field.name).Nodup) (members : List Member)
    (hmembers : members.map Member.field = fields) (hfits : ∀ e ∈ members, e.Fits height) :
    Takes (record fields) (height + 1) (chars (.object (pairs members)))
      (.array (members.map Member.value)) := by
  subst hmembers
  have hfind := @find?_of_nodup _ hnames
  rw [List.map_map] at hnames
  intro depth rest hdepth _
  obtain ⟨depth, rfl⟩ := Nat.exists_eq_succ_of_ne_zero (Nat.ne_of_gt (Nat.zero_lt_of_lt hdepth))
  have hfields : ∀ e ∈ members,
      (members.map Member.field).find? (·.name == e.field.name) = some e.field := fun _ he =>
    hfind (List.mem_map_of_mem he)
  have hgoes := goes_record (Nat.le_of_succ_le_succ hdepth) hfields hfits hnames []
    fun _ _ => rfl
  have hopens : ∀ cs ∈ (pairs members).map memberText, ∃ c ∈ cs.head?, Opens c := by
    simp only [List.forall_mem_map]
    exact fun m _ => opens_memberText m
  have hfill : fill (members.map Member.field) (slots members).reverse =
      .ok (members.map Member.value) := by
    refine fill_eq_ok fun e he => ?_
    have hfit := hfits e he
    rw [lookup_slots hnames he]
    cases hwritten : e.written with
    | none =>
      rw [Fits, hwritten] at hfit
      exact hfit
    | some w => rfl
  simp only [chars, memberChars_eq_joined, List.map_append, List.map_cons, List.map_nil,
    List.cons_append, List.nil_append, List.append_assoc]
  rw [record, slotsOf, skipBlanks_cons (by decide)]
  simp only [sequence_joined hgoes hopens (.inr rfl), ok_bind, List.append_nil, hfill]
  rfl

/-! ## What a reader gives -/

section

variable {P : Json → Prop}

/-- Every value that the reader gives has the property. -/
def Read.Gives (P : Json → Prop) (read : Reader) : Prop :=
  ∀ depth g v rest, read depth g = .ok (v, rest) → P v

theorem gives_text (h : ∀ s, P (.string s)) : Gives P Read.text := by
  intro depth g v rest hread
  unfold Read.text at hread
  split at hread
  · obtain ⟨⟨cs, r⟩, -, hv⟩ := bind_eq_ok.1 hread
    cases hv
    exact h _
  · cases hread

theorem isFinite_of_number {g r : List Glyph} {n : JsonNumber} (h : Read.number g = .ok (n, r)) :
    n.toDouble.isFinite = true := by
  obtain ⟨⟨m, r'⟩, -, hn⟩ := bind_eq_ok.1 h
  simp only at hn
  split at hn
  · rename_i hnumber
    cases hn
    exact Numeral.isFinite_of_number? hnumber
  · cases hn

/-- A double that is read is finite. -/
theorem gives_real (h : ∀ x, x.isFinite = true → P (.ofDouble x)) : Gives P Read.real := by
  intro depth g v rest hread
  unfold Read.real at hread
  split at hread
  · split at hread
    · obtain ⟨⟨n, r⟩, hn, hv⟩ := bind_eq_ok.1 hread
      cases hv
      exact h _ (isFinite_of_number hn)
    · cases hread
  · cases hread

theorem gives_optional {inner : Reader} (hnull : P .null) (h : Gives P inner) :
    Gives P (Read.optional inner) := by
  intro depth g v rest hread
  unfold Read.optional at hread
  split at hread
  · obtain ⟨r, -, hv⟩ := bind_eq_ok.1 hread
    cases hv
    exact hnull
  · exact h _ _ _ _ hread

/-- The value of a name is a text, also where the name is the key of an object. -/
theorem gives_word (names : List String) (h : ∀ s, P (.string s)) : Gives P (word names) := by
  intro depth g v rest hread
  unfold word at hread
  simp only at hread
  split at hread
  · obtain ⟨⟨w, r⟩, hw, hknown⟩ := bind_eq_ok.1 hread
    obtain ⟨-, -, hv⟩ := bind_eq_ok.1 hknown
    cases hv
    exact gives_text h _ _ _ _ hw
  · split at hread
    · cases hread
    · obtain ⟨⟨w, r⟩, hw, hrest⟩ := bind_eq_ok.1 hread
      obtain ⟨-, -, hrest⟩ := bind_eq_ok.1 hrest
      split at hrest
      · split at hrest
        · obtain ⟨r', -, hrest⟩ := bind_eq_ok.1 hrest
          split at hrest
          · cases hrest
            exact gives_text h _ _ _ _ hw
          · cases hrest
        · cases hrest
      · cases hrest
  · cases hread

/-- Every value that the field can come to has the property. -/
structure Read.Field.Gives (P : Json → Prop) (f : Field) : Prop where
  read : Read.Gives P f.read
  missing : ∀ v, f.missing = some v → P v
  short : ∀ v, f.short = some v → P v

variable {read : Reader} (name : String)

theorem gives_required (h : Gives P read) : (Field.required name read).Gives P :=
  ⟨h, nofun, nofun⟩

theorem gives_nullable (hnull : P .null) (h : Gives P read) : (Field.nullable name read).Gives P :=
  ⟨gives_optional hnull h, fun _ hv => Option.some.inj hv ▸ hnull, nofun⟩

theorem gives_omittable (hnull : P .null) (h : Gives P read) : (Field.omittable name read).Gives P :=
  ⟨gives_optional hnull h, fun _ hv => Option.some.inj hv ▸ hnull,
    fun _ hv => Option.some.inj hv ▸ hnull⟩

end

/-! ## What a record gives -/

section

variable {σ : Type} {item : σ → List Glyph → Except Fault (σ × List Glyph)} {close : Char}
  {I : σ → Prop} {g r : List Glyph}

/-- What every item keeps is kept by a sequence. -/
theorem further_keeps (hitem : ∀ s g s' r, I s → item s g = .ok (s', r) → I s') {bound : Nat}
    {s s' : σ} (hs : I s) (h : further close item bound s g = .ok (s', r)) : I s' := by
  induction bound generalizing s g with
  | zero => cases h
  | succ bound ih =>
    unfold further at h
    split at h
    · split at h
      · cases h
        exact hs
      · split at h
        · obtain ⟨⟨s₁, r₁⟩, hs₁, hmore⟩ := bind_eq_ok.1 h
          exact ih (hitem _ _ _ _ hs hs₁) hmore
        · cases h
    · cases h

theorem sequence_keeps (hitem : ∀ s g s' r, I s → item s g = .ok (s', r) → I s') {s s' : σ}
    (hs : I s) (h : Read.sequence close item s g = .ok (s', r)) : I s' := by
  unfold Read.sequence at h
  split at h
  · split at h
    · cases h
      exact hs
    · obtain ⟨⟨s₁, r₁⟩, hs₁, hmore⟩ := bind_eq_ok.1 h
      exact further_keeps hitem (hitem _ _ _ _ hs hs₁) hmore
  · cases h

variable {P : Json → Prop}

theorem member_keeps (hfields : ∀ f ∈ fields, f.Gives P) {slots slots' : Slots}
    (hslots : ∀ m ∈ slots, P m.2) (h : member fields depth slots g = .ok (slots', r)) :
    ∀ m ∈ slots', P m.2 := by
  unfold member at h
  split at h
  · obtain ⟨⟨cs, r₁⟩, -, h⟩ := bind_eq_ok.1 h
    simp only at h
    split at h
    · rename_i f hf
      split at h
      · cases h
      · split at h
        · obtain ⟨⟨v, r₂⟩, hv, h⟩ := bind_eq_ok.1 h
          cases h
          intro m hm
          rcases List.mem_cons.1 hm with rfl | hm
          · exact (hfields f (List.mem_of_find?_eq_some hf)).read _ _ _ _ hv
          · exact hslots m hm
        · cases h
    · split at h
      · obtain ⟨r₂, -, h⟩ := bind_eq_ok.1 h
        cases h
        exact hslots
      · cases h
  · cases h

theorem fill_gives (hfields : ∀ f ∈ fields, f.Gives P) {slots : Slots} (hslots : ∀ m ∈ slots, P m.2)
    {vs : List Json} (h : fill fields slots = .ok vs) : ∀ v ∈ vs, P v := by
  induction fields generalizing vs with
  | nil =>
    cases h
    exact fun v hv => absurd hv List.not_mem_nil
  | cons f fields ih =>
    unfold fill at h
    rw [List.mapM_cons] at h
    obtain ⟨v, hv, h⟩ := bind_eq_ok.1 h
    obtain ⟨vs', hvs', h⟩ := bind_eq_ok.1 h
    cases h
    have hrest := ih (fun f' hf' => hfields f' (List.mem_cons_of_mem _ hf')) hvs'
    intro w hw
    rcases List.mem_cons.1 hw with rfl | hw
    · split at hv
      · rename_i hsome
        cases hv
        rw [Option.orElse_eq_orElse, Option.orElse_eq_or] at hsome
        rcases Option.or_eq_some_iff.1 hsome with hlookup | ⟨-, hmissing⟩
        · obtain ⟨l₁, l₂, hl, -⟩ := List.lookup_eq_some_iff.1 hlookup
          exact hslots (f.name, w) (by rw [hl]; simp)
        · exact (hfields f List.mem_cons_self).missing _ hmissing
      · cases hv
    · exact hrest w hw

theorem listed_gives (hfields : ∀ f ∈ fields, f.Gives P) {first : Bool} {vs : List Json}
    (h : listed depth first fields g = .ok (vs, r)) : ∀ v ∈ vs, P v := by
  induction fields generalizing first g vs with
  | nil =>
    unfold listed at h
    split at h
    · cases h
      exact fun v hv => absurd hv List.not_mem_nil
    · cases h
  | cons f fields ih =>
    have hf := hfields f List.mem_cons_self
    have hrest : ∀ {first g v vs'}, P v →
        (listed depth first fields g >>= fun rest => pure (v :: rest.1, rest.2)) = .ok (vs', r) →
        ∀ w ∈ vs', P w := by
      intro first g v vs' hv hlisted
      obtain ⟨⟨ws, r₁⟩, hws, heq⟩ := bind_eq_ok.1 hlisted
      cases heq
      intro w hw
      rcases List.mem_cons.1 hw with rfl | hw
      · exact hv
      · exact ih (fun f' hf' => hfields f' (List.mem_cons_of_mem _ hf')) hws w hw
    unfold listed at h
    split at h
    · split at h
      · rename_i hshort
        exact hrest (hf.short _ hshort) h
      · cases h
    · split at h
      · obtain ⟨⟨v, r₁⟩, hv, h⟩ := bind_eq_ok.1 h
        exact hrest (hf.read _ _ _ _ hv) h
      · split at h
        · obtain ⟨⟨v, r₁⟩, hv, h⟩ := bind_eq_ok.1 h
          exact hrest (hf.read _ _ _ _ hv) h
        · cases h
    · cases h

/-- The values of a record come from its fields, whether it stands as an object or as a list. -/
theorem gives_record (hfields : ∀ f ∈ fields, f.Gives P) :
    Gives (fun v => ∃ vs, v = .array vs ∧ ∀ w ∈ vs, P w) (record fields) := by
  intro depth g v rest h
  obtain ⟨⟨vs, r⟩, hvs, h⟩ := bind_eq_ok.1 h
  cases h
  refine ⟨vs, rfl, ?_⟩
  unfold slotsOf at hvs
  split at hvs
  · split at hvs
    · cases hvs
    · exact listed_gives hfields hvs
  · split at hvs
    · cases hvs
    · obtain ⟨⟨slots, r⟩, hslots, hfill⟩ := bind_eq_ok.1 hvs
      obtain ⟨ws, hws, heq⟩ := bind_eq_ok.1 hfill
      cases heq
      refine fill_gives hfields (sequence_keeps (I := fun slots : Slots => ∀ m ∈ slots, P m.2)
        (fun _ _ _ _ hs hitem => member_keeps hfields hs hitem)
        (fun m hm => absurd hm List.not_mem_nil) hslots) hws
  · cases hvs

end

end ClipRelay.Json
