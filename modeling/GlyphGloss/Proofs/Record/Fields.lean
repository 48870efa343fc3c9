import GlyphGloss.Proofs.Record.Written

/-!
# Cutting a record into fields

The text between the brackets of a raw record is cut at the commas outside of braces, and nothing is
lost: the fields joined with commas give it back. In the other direction, texts come back as the
fields of the record that is written with them if their commas stand inside of braces and none of
them but the last leaves a brace open. A closing brace without an opening one changes no depth, so
that a field may have braces that belong to no unit.

## Main definitions

* `Record.depth`: the depth of braces behind a text.
* `Record.CommasInside`: the texts whose commas stand inside of braces.
* `Record.AreFields`: the texts that can be the fields of a record.

## Main results

* `Record.commasInside_or_exists`: the first comma at depth zero.
* `Record.areFields_fieldsFrom`, `Record.fieldsFrom_join`: a text is cut into texts that can be
  fields, and such texts come back from the joined text.
* `Record.exists_brackets`: the brackets around the fields.
* `Record.splitFields_lossless`: the fields of a raw record, read and written.
-/

namespace GlyphGloss.Record

variable {d : Nat} {c : Char} {t field raw : Text} {fields : List Text}

/-! ### Depth -/

/-- The depth of braces behind a text that starts at a depth. -/
def depth (d : Nat) (t : Text) : Nat :=
  t.foldl depthAfter d

/-- Whether every comma of a text that starts at a depth of braces stands inside of braces. -/
def CommasInside (d : Nat) (t : Text) : Prop :=
  ∀ i, t[i]? = some ',' → 0 < depth d (t.take i)

theorem commasInside_nil (d : Nat) : CommasInside d [] :=
  nofun

theorem commasInside_cons :
    CommasInside d (c :: t) ↔ (c = ',' → 0 < d) ∧ CommasInside (depthAfter d c) t := by
  rw [CommasInside, ← Nat.and_forall_add_one]
  simp [CommasInside, depth]

instance decidableCommasInside : (d : Nat) → (t : Text) → Decidable (CommasInside d t)
  | d, [] => isTrue (commasInside_nil d)
  | d, c :: t =>
    have := decidableCommasInside (depthAfter d c) t
    decidable_of_iff _ commasInside_cons.symm

/-! ### Cuts -/

/-- A text whose commas stand inside of braces is one field. -/
theorem fieldsFrom_of_commasInside (h : CommasInside d t) : fieldsFrom d t = [t] := by
  induction t generalizing d with
  | nil => rfl
  | cons c t ih =>
    obtain ⟨hcomma, hrest⟩ := commasInside_cons.1 h
    have hinside : ¬(c = ',' ∧ d = 0) := fun hcut => (hcomma hcut.1).ne' hcut.2
    rw [fieldsFrom, if_neg hinside, ih hrest, Text.consHead]

/-- The text up to the first comma at depth zero is the first field. -/
theorem fieldsFrom_append_cons (hclosed : depth d field = 0) (h : CommasInside d field)
    (rest : Text) : fieldsFrom d (field ++ ',' :: rest) = field :: fieldsFrom 0 rest := by
  induction field generalizing d with
  | nil => rw [List.nil_append, fieldsFrom, if_pos ⟨rfl, hclosed⟩]
  | cons c field ih =>
    obtain ⟨hcomma, hfield⟩ := commasInside_cons.1 h
    have hinside : ¬(c = ',' ∧ d = 0) := fun hcut => (hcomma hcut.1).ne' hcut.2
    rw [List.cons_append, fieldsFrom, if_neg hinside, ih hclosed hfield, Text.consHead]

/-- A text has a first comma at depth zero, unless all its commas stand inside of braces. -/
theorem commasInside_or_exists (d : Nat) (t : Text) :
    CommasInside d t ∨ ∃ field rest, t = field ++ ',' :: rest ∧ depth d field = 0 ∧
      CommasInside d field := by
  induction t generalizing d with
  | nil => exact .inl (commasInside_nil d)
  | cons c t ih =>
    by_cases hcut : c = ',' ∧ d = 0
    · obtain ⟨rfl, rfl⟩ := hcut
      exact .inr ⟨[], t, rfl, rfl, commasInside_nil 0⟩
    · have hcomma : c = ',' → 0 < d := fun hc => Nat.pos_of_ne_zero fun hd => hcut ⟨hc, hd⟩
      rcases ih (depthAfter d c) with h | ⟨field, rest, rfl, hclosed, h⟩
      · exact .inl (commasInside_cons.2 ⟨hcomma, h⟩)
      · exact .inr ⟨c :: field, rest, rfl, hclosed, commasInside_cons.2 ⟨hcomma, h⟩⟩

/-! ### All fields -/

/-- Texts that can be the fields of a record. -/
structure AreFields (fields : List Text) : Prop where
  /-- All of them but the last close the braces that they open. -/
  closed : ∀ field ∈ fields.dropLast, depth 0 field = 0
  /-- Their commas stand inside of braces. -/
  commasInside : ∀ field ∈ fields, CommasInside 0 field

instance (fields : List Text) : Decidable (AreFields fields) :=
  decidable_of_iff ((∀ field ∈ fields.dropLast, depth 0 field = 0) ∧
      ∀ field ∈ fields, CommasInside 0 field)
    ⟨fun ⟨hclosed, hcommas⟩ => ⟨hclosed, hcommas⟩, fun h => ⟨h.closed, h.commasInside⟩⟩

theorem AreFields.singleton (h : CommasInside 0 field) : AreFields [field] :=
  ⟨nofun, List.forall_mem_singleton.2 h⟩

theorem areFields_cons (hne : fields ≠ []) :
    AreFields (field :: fields) ↔
      depth 0 field = 0 ∧ CommasInside 0 field ∧ AreFields fields := by
  constructor
  · rintro ⟨hclosed, hcommas⟩
    rw [List.dropLast_cons_of_ne_nil hne, List.forall_mem_cons] at hclosed
    rw [List.forall_mem_cons] at hcommas
    exact ⟨hclosed.1, hcommas.1, hclosed.2, hcommas.2⟩
  · rintro ⟨hfield, hcomma, hclosed, hcommas⟩
    refine ⟨?_, List.forall_mem_cons.2 ⟨hcomma, hcommas⟩⟩
    rw [List.dropLast_cons_of_ne_nil hne]
    exact List.forall_mem_cons.2 ⟨hfield, hclosed⟩

/-- A text is cut into texts that can be fields. -/
theorem areFields_fieldsFrom (t : Text) : AreFields (fieldsFrom 0 t) := by
  induction hlength : t.length using Nat.strong_induction_on generalizing t with
  | _ n ih =>
    rcases commasInside_or_exists 0 t with h | ⟨field, rest, rfl, hclosed, h⟩
    · rw [fieldsFrom_of_commasInside h]
      exact .singleton h
    · have hshorter : rest.length < n := by
        rw [← hlength, List.length_append, List.length_cons]
        omega
      rw [fieldsFrom_append_cons hclosed h, areFields_cons (fieldsFrom_ne_nil 0 rest)]
      exact ⟨hclosed, h, ih _ hshorter rest rfl⟩

/-- Texts that can be fields come back from the joined text. -/
theorem fieldsFrom_join (hne : fields ≠ []) (h : AreFields fields) :
    fieldsFrom 0 (Text.join [','] fields) = fields := by
  induction fields with
  | nil => exact absurd rfl hne
  | cons field fields ih =>
    cases fields with
    | nil =>
      rw [Text.join_singleton]
      exact fieldsFrom_of_commasInside (h.commasInside field List.mem_cons_self)
    | cons next fields =>
      obtain ⟨hclosed, hcommas, hrest⟩ := (areFields_cons (List.cons_ne_nil _ _)).1 h
      rw [Text.join_cons_cons, List.append_assoc, List.singleton_append,
        fieldsFrom_append_cons hclosed hcommas, ih (List.cons_ne_nil _ _) hrest]

/-! ### Brackets -/

theorem exists_opening (t : Text) :
    ∃ front, t = front ++ dropOpening t ∧
      (front = ['['] ∨ front = [] ∧ t.head? ≠ some '[') := by
  unfold dropOpening
  split
  · next rest => exact ⟨['['], rfl, .inl rfl⟩
  · next hopens =>
    refine ⟨[], rfl, .inr ⟨rfl, fun hhead => ?_⟩⟩
    obtain ⟨rest, rfl⟩ := List.head?_eq_some_iff.1 hhead
    exact hopens rest rfl

theorem exists_closing (t : Text) :
    ∃ back, t = dropClosing t ++ back ∧
      (back = [']'] ∨ back = [] ∧ (dropClosing t).getLast? ≠ some ']') := by
  unfold dropClosing
  split_ifs with hcloses
  · obtain ⟨front, rfl⟩ := List.getLast?_eq_some_iff.1 hcloses
    exact ⟨[']'], by rw [List.dropLast_concat], .inl rfl⟩
  · exact ⟨[], (List.append_nil t).symm, .inr ⟨rfl, hcloses⟩⟩

/-- One bracket is taken away at either end of a trimmed text, if there is one. -/
theorem exists_brackets (raw : Text) :
    ∃ front back, raw.trim = front ++ stripBrackets raw ++ back ∧
      (front = ['['] ∨ front = [] ∧ raw.trim.head? ≠ some '[') ∧
      (back = [']'] ∨ back = [] ∧ (stripBrackets raw).getLast? ≠ some ']') := by
  obtain ⟨front, hfront, hopens⟩ := exists_opening raw.trim
  obtain ⟨back, hback, hcloses⟩ := exists_closing (dropOpening raw.trim)
  refine ⟨front, back, ?_, hopens, hcloses⟩
  rw [stripBrackets, List.append_assoc, ← hback, ← hfront]

/-! ### Reading and writing -/

theorem splitFields_of_ne_nil (h : stripBrackets raw ≠ []) :
    splitFields raw = fieldsFrom 0 (stripBrackets raw) := by
  simp [splitFields, h]

/-- The fields of a raw record, joined with commas, are the text between its brackets. -/
theorem join_splitFields (raw : Text) : Text.join [','] (splitFields raw) = stripBrackets raw := by
  by_cases hempty : stripBrackets raw = []
  · rw [(splitFields_eq_nil_iff raw).2 hempty, hempty]
    rfl
  · rw [splitFields_of_ne_nil hempty, join_fieldsFrom]

theorem areFields_splitFields (raw : Text) : AreFields (splitFields raw) := by
  by_cases hempty : stripBrackets raw = []
  · rw [(splitFields_eq_nil_iff raw).2 hempty]
    exact ⟨nofun, nofun⟩
  · rw [splitFields_of_ne_nil hempty]
    exact areFields_fieldsFrom _

theorem join_ne_nil (hne : fields ≠ []) (hempty : fields ≠ [[]]) :
    Text.join [','] fields ≠ [] := by
  obtain ⟨field, fields, rfl⟩ := List.exists_cons_of_ne_nil hne
  cases fields with
  | nil =>
    rw [Text.join_singleton]
    exact fun hnil => hempty (by rw [hnil])
  | cons next fields => simp [Text.join_cons_cons]

/-- Written fields are read again. -/
theorem splitFields_write (hne : fields ≠ []) (hempty : fields ≠ [[]]) (h : AreFields fields) :
    splitFields (write ⟨fields⟩) = fields := by
  have hread : ofRaw? (write ⟨fields⟩) = some ⟨fieldsFrom 0 (Text.join [','] fields)⟩ :=
    ofRaw?_bracketed (join_ne_nil hne hempty)
  rw [splitFields_of_ofRaw? hread, fieldsFrom_join hne h]

/-- **Fields are read without loss, and as they were written.** The fields of a raw record, joined
with commas, are its trimmed text without one bracket at either end, and there are none exactly if
nothing is left there. Every field but the last closes the braces that it opens, and the commas of
a field stand inside of braces. The other way round, fields of this kind are what is read of their
written form, unless there is none of them or only an empty one. -/
theorem splitFields_lossless (raw : Text) :
    Text.join [','] (splitFields raw) = stripBrackets raw ∧
    (splitFields raw = [] ↔ stripBrackets raw = []) ∧
    (∃ front back, raw.trim = front ++ stripBrackets raw ++ back ∧
      (front = ['['] ∨ front = [] ∧ raw.trim.head? ≠ some '[') ∧
      (back = [']'] ∨ back = [] ∧ (stripBrackets raw).getLast? ≠ some ']')) ∧
    AreFields (splitFields raw) ∧
    ∀ fields, fields ≠ [] → fields ≠ [[]] → AreFields fields →
      splitFields (write ⟨fields⟩) = fields :=
  ⟨join_splitFields raw, splitFields_eq_nil_iff raw, exists_brackets raw,
    areFields_splitFields raw, fun _ => splitFields_write⟩

/-- A comma inside of braces, a closing brace too many, an empty field, and a last field with a
brace that stays open. -/
theorem splitFields_lossless_openBrace :
    let fields := ["[\x7ba,b\x7d\x7d口".toList, [], "k\x7bd,e".toList]
    AreFields fields ∧ splitFields "[[\x7ba,b\x7d\x7d口,,k\x7bd,e]".toList = fields := by
  intro fields
  have hfields : AreFields fields := by decide
  obtain ⟨-, -, -, -, hread⟩ := splitFields_lossless (write ⟨fields⟩)
  exact ⟨hfields, hread fields (by decide) (by decide) hfields⟩

end GlyphGloss.Record
