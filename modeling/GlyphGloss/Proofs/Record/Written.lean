import GlyphGloss.Proofs.Record.Check

/-!
# Records that read back as they are written

The check of a value asks for brackets around each of its records and for a spelling. Reading a
record asks for nothing: it takes away the brackets that are there and splits what is left wherever
no brace is open. The two agree all the same. What passes the check is exactly what is read without
loss, so that writing the records down again gives the raw records of the value, one by one.

## Main results

* `Record.isMalformed_eq_false_iff`: a raw record passes if it is the written form of a record with
  a spelling.
* `Record.hasMalformed_eq_false_iff`: a value passes if its raw records are the written forms of
  its records, and these have spellings.
* `Record.findMalformed_written`: entries that are reported, and entries that are not.
-/

namespace GlyphGloss.Record

variable {part value : Text} {parts : List Text} {r : Record}

/-! ### One record -/

/-- A written record stands between brackets. -/
theorem bracketed_write (r : Record) : r.write.head? = some '[' ∧ r.write.getLast? = some ']' :=
  ⟨rfl, List.getLast?_concat⟩

theorem exists_body (hopens : part.head? = some '[') (hcloses : part.getLast? = some ']') :
    ∃ body, part = '[' :: body ++ [']'] := by
  obtain ⟨rest, rfl⟩ := List.head?_eq_some_iff.1 hopens
  have hrest : rest ≠ [] := by
    rintro rfl
    exact absurd hcloses (by decide)
  rw [List.getLast?_cons_of_ne_nil hrest] at hcloses
  obtain ⟨body, rfl⟩ := List.getLast?_eq_some_iff.1 hcloses
  exact ⟨body, rfl⟩

/-- One bracket is taken away at either end, whatever stands inside. -/
theorem stripBrackets_bracketed (body : Text) : stripBrackets ('[' :: body ++ [']']) = body := by
  have htrim : Text.trim ('[' :: body ++ [']']) = '[' :: body ++ [']'] :=
    trim_of_bracketed rfl List.getLast?_concat
  rw [stripBrackets, htrim, List.cons_append, dropOpening, dropClosing,
    if_pos List.getLast?_concat, List.dropLast_concat]

/-- A bracketed text with something inside is the written form of the record that is read. -/
theorem ofRaw?_bracketed {body : Text} (hbody : body ≠ []) :
    ofRaw? ('[' :: body ++ [']']) = some ⟨fieldsFrom 0 body⟩ := by
  have hfields : splitFields ('[' :: body ++ [']']) = fieldsFrom 0 body := by
    rw [splitFields, stripBrackets_bracketed]
    simp [hbody]
  obtain ⟨field, fields, hcons⟩ := List.exists_cons_of_ne_nil (fieldsFrom_ne_nil 0 body)
  rw [ofRaw?, hfields, hcons]

theorem splitFields_of_ofRaw? (h : ofRaw? part = some r) : splitFields part = r.fields := by
  unfold ofRaw? at h
  split at h
  · cases h
  · next hfields => cases h; rfl

/-- A raw record passes the check exactly if it is the written form of the record that is read, and
that has a spelling. -/
theorem isMalformed_eq_false_iff :
    isMalformed part = false ↔ ∃ r, ofRaw? part = some r ∧ r.write = part ∧ r.spelling ≠ [] := by
  have hspelling (r : Record) (hread : ofRaw? part = some r) :
      ((splitFields part).head?.getD []).isEmpty = false ↔ r.spelling ≠ [] := by
    rw [splitFields_of_ofRaw? hread, spelling, ← List.head?_eq_getElem?, List.isEmpty_eq_false_iff]
  constructor
  · intro h
    obtain ⟨hopens, hcloses⟩ := bracketed_of_isMalformed_eq_false h
    obtain ⟨body, rfl⟩ := exists_body hopens hcloses
    have hcheck : ((splitFields ('[' :: body ++ [']'])).head?.getD []).isEmpty = false := by
      rwa [isMalformed, if_pos ⟨hopens, hcloses⟩] at h
    have hbody : body ≠ [] := by
      rintro rfl
      exact absurd hcheck (by decide)
    have hread := ofRaw?_bracketed hbody
    exact ⟨_, hread, by rw [write, join_fieldsFrom], (hspelling _ hread).1 hcheck⟩
  · rintro ⟨r, hread, hwrite, hne⟩
    have hbrackets := hwrite ▸ r.bracketed_write
    rw [isMalformed, if_pos hbrackets]
    exact (hspelling r hread).2 hne

/-! ### All records of a value -/

/-- Raw records are the written forms of what is read of them exactly if each of them is. -/
theorem eq_map_write_iff :
    parts = (parts.filterMap ofRaw?).map write ↔
      ∀ part ∈ parts, ∃ r, ofRaw? part = some r ∧ r.write = part := by
  constructor
  · intro h
    -- None is dropped, for there are as many written forms as raw records.
    have hlength : (parts.filterMap ofRaw?).length = parts.length := by
      conv_rhs => rw [h, List.length_map]
    have hsome := List.filterMap_length_eq_length.1 hlength
    induction parts with
    | nil => exact fun part hpart => absurd hpart List.not_mem_nil
    | cons first parts ih =>
      obtain ⟨r, hread⟩ := Option.isSome_iff_exists.1 (hsome first List.mem_cons_self)
      rw [List.filterMap_cons_some hread] at h hlength
      obtain ⟨hfirst, hrest⟩ := List.cons.inj h
      have hsome' := fun part hpart => hsome part (List.mem_cons_of_mem _ hpart)
      intro part hpart
      obtain rfl | hpart := List.mem_cons.1 hpart
      · exact ⟨r, hread, hfirst.symm⟩
      · exact ih hrest (Nat.succ.inj hlength) hsome' part hpart
  · intro h
    induction parts with
    | nil => rfl
    | cons first parts ih =>
      obtain ⟨r, hread, hwrite⟩ := h first List.mem_cons_self
      rw [List.filterMap_cons_some hread, List.map_cons, hwrite,
        ← ih fun part hpart => h part (List.mem_cons_of_mem _ hpart)]

/-- A value passes the check exactly if its raw records are the written forms of its records, and
these have spellings. -/
theorem hasMalformed_eq_false_iff :
    hasMalformed value = false ↔
      splitJoined value = (readAll value).map write ∧ ∀ r ∈ readAll value, r.spelling ≠ [] := by
  rw [hasMalformed_eq, List.any_eq_false, readAll, eq_map_write_iff]
  simp only [Bool.not_eq_true, isMalformed_eq_false_iff, List.mem_filterMap]
  constructor
  · intro h
    refine ⟨fun part hpart => ?_, ?_⟩
    · obtain ⟨r, hread, hwrite, -⟩ := h part hpart
      exact ⟨r, hread, hwrite⟩
    · rintro r ⟨part, hpart, hread⟩
      obtain ⟨r', hread', -, hspelling⟩ := h part hpart
      rwa [Option.some.inj (hread.symm.trans hread')]
  · rintro ⟨hwritten, hspelling⟩ part hpart
    obtain ⟨r, hread, hwrite⟩ := hwritten part hpart
    exact ⟨r, hread, hwrite, hspelling r ⟨part, hpart, hread⟩⟩

/-- **What passes the check is read without loss.** An entry is not reported exactly if the raw
records of its value are its records written down again, each of which has a spelling. So a value
with a raw record that is dropped, or that changes when it is written down again, is reported. -/
theorem findMalformed_written {entries : List (Text × Text)} {key value : Text}
    (hentry : (key, value) ∈ entries) :
    ((key, value) ∉ findMalformed entries ↔
      splitJoined value = (readAll value).map write ∧ ∀ r ∈ readAll value, r.spelling ≠ []) ∧
    ∀ part ∈ splitJoined value,
      (ofRaw? part = none ∨ ∃ r, ofRaw? part = some r ∧ r.write ≠ part) →
      (key, value) ∈ findMalformed entries := by
  have hreported : (key, value) ∈ findMalformed entries ↔ hasMalformed value = true := by
    simp [findMalformed, hentry]
  refine ⟨?_, fun part hpart hlost => ?_⟩
  · rw [hreported, Bool.not_eq_true, hasMalformed_eq_false_iff]
  · by_contra hnone
    rw [hreported, Bool.not_eq_true, hasMalformed_eq_false_iff, readAll, eq_map_write_iff] at hnone
    obtain ⟨r, hread, hwrite⟩ := hnone.1 part hpart
    obtain hdropped | ⟨r', hread', hchanged⟩ := hlost
    · rw [hread] at hdropped
      cases hdropped
    · rw [Option.some.inj (hread'.symm.trans hread)] at hchanged
      exact hchanged hwrite

/-- A value with a brace that stays open and brackets inside passes the check; one with an empty
record behind another one does not. -/
theorem findMalformed_written_openBrace :
    let unclosed := "[\x7b口,丨,[k]]\t [一]".toList
    let entries := [(['中'], unclosed), (['国'], "[囗,gw] []".toList)]
    (readAll unclosed).map write = ["[\x7b口,丨,[k]]".toList, "[一]".toList] ∧
      (['国'], "[囗,gw] []".toList) ∈ findMalformed entries := by
  intro unclosed entries
  have hpass : (['中'], unclosed) ∉ findMalformed entries := by decide
  have hwritten := ((findMalformed_written (by decide)).1.1 hpass).1
  refine ⟨hwritten.symm.trans (by decide), ?_⟩
  exact (findMalformed_written (by decide)).2 "[]".toList (by decide) (.inl (by decide))

end GlyphGloss.Record
