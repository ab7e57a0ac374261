import Credentials.Key.Json

/-!
# Documents read back

What the printer writes, the reader takes in as it was meant: a string comes
back character by character whatever it holds, a whole number digit by digit,
and a record as the object of its fields. So does what others write in the plainest
way: a boolean, a list of texts, and an object that holds one of these. The steps
are stated on a printed form with anything behind it, so that they chain along a
document.
-/

namespace Credentials.Json

open Text (Symbol digits signedDigits)

/-! ## Strings -/

/-- The pieces of a string of which the first one is known. -/
def consPiece (p : Piece) (found : Option (List Piece × List Symbol)) :
    Option (List Piece × List Symbol) :=
  found.map fun (ps, after) => (p :: ps, after)

theorem pieces_char {c : Char} (hq : c ≠ '"') (hb : c ≠ '\\') (hc : ¬ c.toNat < 0x20)
    (s : List Symbol) : pieces (some c :: s) = consPiece (.char c) (pieces s) := by
  rw [pieces]
  · rw [if_neg (by simp [hb, hc])]
    cases pieces s <;> rfl
  · exact hq
  · exact fun _ _ _ _ _ _ h => hb h
  · exact fun _ _ _ h => hb h

theorem pieces_backslash {e c : Char} (h : unescape? e = some c) (s : List Symbol) :
    pieces (some '\\' :: some e :: s) = consPiece (.char c) (pieces s) := by
  have hu : e ≠ 'u' := by
    rintro rfl
    cases h
  rw [pieces]
  · rw [h]
    cases pieces s <;> rfl
  · exact fun _ _ _ _ _ _ h => hu h

theorem pieces_unit {n : Nat} (h : n < 0x20) (s : List Symbol) :
    pieces (some '\\' :: some 'u' :: some '0' :: some '0' :: some (Bytes.hexDigit (n / 16))
      :: some (Bytes.hexDigit (n % 16)) :: s) = consPiece (.unit n) (pieces s) := by
  have h1 : hexValue? (some (Bytes.hexDigit (n / 16))) = some (n / 16) :=
    Bytes.hexValue?_hexDigit (by omega)
  have h2 : hexValue? (some (Bytes.hexDigit (n % 16))) = some (n % 16) :=
    Bytes.hexValue?_hexDigit (by omega)
  have h0 : hexValue? (some '0') = some 0 := by decide
  have hn : n / 16 * 16 + n % 16 = n := Nat.div_add_mod' n 16
  rw [pieces, h0, h1, h2]
  cases hs : pieces s <;> simp [consPiece, hn]

/-- The piece that the written form of a character is read as: a number for the
control characters without a short escape, and the character itself otherwise. -/
def writtenPiece (c : Char) : Piece :=
  if c.toNat < 0x20 ∧ c ∉ ['\x08', '\t', '\n', '\x0C', '\r'] then .unit c.toNat else .char c

theorem pieces_escape (c : Char) (s : List Symbol) :
    pieces ((escape c).map some ++ s) = consPiece (writtenPiece c) (pieces s) := by
  -- one case for each character with an escape of its own, then the other control characters
  unfold escape
  split
  · next h => subst h; exact pieces_backslash rfl s
  split
  · next h => subst h; exact pieces_backslash rfl s
  split
  · next h => subst h; exact pieces_backslash rfl s
  split
  · next h => subst h; exact pieces_backslash rfl s
  split
  · next h => subst h; exact pieces_backslash rfl s
  split
  · next h => subst h; exact pieces_backslash rfl s
  split
  · next h => subst h; exact pieces_backslash rfl s
  next hq hb h1 h2 h3 h4 h5 =>
    split
    · next hc =>
      rw [show writtenPiece c = .unit c.toNat from if_pos (by simp [hc, h1, h2, h3, h4, h5])]
      exact pieces_unit hc s
    · next hc =>
      rw [show writtenPiece c = .char c from if_neg (by simp [hc])]
      exact pieces_char hq hb hc s

/-- A string between its quotes is read character by character. -/
theorem pieces_flatMap_escape (cs : List Char) (s : List Symbol) :
    pieces ((cs.flatMap escape).map some ++ some '"' :: s) = some (cs.map writtenPiece, s) := by
  induction cs with
  | nil => rfl
  | cons c cs ih =>
    rw [List.flatMap_cons, List.map_append, List.append_assoc, pieces_escape, ih]
    rfl

theorem characters?_unit {n : Nat} (h : n < 0x20) (ps : List Piece) :
    characters? (.unit n :: ps) = (Char.ofNat n :: ·) <$> characters? ps := by
  have hh : isHighSurrogate n = false := by
    simp only [isHighSurrogate, Bool.and_eq_false_iff, decide_eq_false_iff_not]
    omega
  have hl : isLowSurrogate n = false := by
    simp only [isLowSurrogate, Bool.and_eq_false_iff, decide_eq_false_iff_not]
    omega
  -- the reader looks at the next piece only when it is a unit as well
  cases ps with
  | nil => simp [characters?, hh, hl]
  | cons p ps => cases p <;> simp [characters?, hh, hl]

theorem characters?_map_writtenPiece (cs : List Char) :
    characters? (cs.map writtenPiece) = some cs := by
  induction cs with
  | nil => rfl
  | cons c cs ih =>
    rw [List.map_cons, writtenPiece]
    split
    · next h =>
      rw [characters?_unit h.1, ih, Char.ofNat_toNat]
      rfl
    · rw [characters?, ih]
      rfl

theorem spelled?_map_writtenPiece (text : String) :
    spelled? (text.toList.map writtenPiece) = some text := by
  rw [spelled?, characters?_map_writtenPiece]
  simp

theorem value_quote (text : String) (fuel : Nat) (s : List Symbol) :
    value (fuel + 1) ((quote text).map some ++ s) = some (.text text, s) := by
  have hp := pieces_flatMap_escape text.toList s
  simp only [quote, List.map_append, List.map_cons, List.cons_append, List.append_assoc,
    List.map_nil, List.nil_append]
  simp [value, skipSpace, hp, ofPieces, spelled?_map_writtenPiece]

/-! ## Numbers -/

/-- What follows the value of a member: a comma or the closing brace. -/
def EndsMember (s : List Symbol) : Prop :=
  ∃ rest, s = some ',' :: rest ∨ s = some '\x7d' :: rest

theorem EndsMember.spanDigits {s : List Symbol} (h : EndsMember s) {ds : List Char}
    (hd : ∀ c ∈ ds, c.isDigit) : spanDigits (ds.map some ++ s) = (ds, s) := by
  induction ds with
  | nil => obtain ⟨rest, rfl | rfl⟩ := h <;> rfl
  | cons c ds ih =>
    have hc : c.isDigit := hd c List.mem_cons_self
    have htail := ih fun d hd' => hd d (List.mem_cons_of_mem c hd')
    simp [Json.spanDigits, hc, htail]

/-- Only zero is written with a zero in front. -/
theorem digits_head {n : Nat} (h : 0 < n) : ∃ d ds, digits n = d :: ds ∧ d ≠ '0' := by
  induction n using Nat.strongRecOn with
  | ind n ih =>
    by_cases hn : n < 10
    · refine ⟨Nat.digitChar n, [], Nat.toDigits_of_lt_base hn, ?_⟩
      have hall : ∀ m < 10, 0 < m → Nat.digitChar m ≠ '0' := by decide
      exact hall n hn h
    · obtain ⟨d, ds, hds, hd⟩ := ih (n / 10) (by omega) (by omega)
      refine ⟨d, ds ++ [Nat.digitChar (n % 10)], ?_, hd⟩
      rw [digits, Nat.toDigits_of_base_le (by decide) (by omega), ← digits, hds]
      rfl

theorem EndsMember.wholePart {s : List Symbol} (h : EndsMember s) (n : Nat) :
    wholePart ((digits n).map some ++ s) = some (digits n, s) := by
  rcases Nat.eq_zero_or_pos n with rfl | hn
  · rfl
  · have hspan := h.spanDigits fun c hc => Text.isDigit_of_mem_digits (n := n) hc
    obtain ⟨d, ds, hds, hd⟩ := digits_head hn
    rw [hds] at hspan ⊢
    rw [Json.wholePart.eq_def]
    split
    · next heq =>
      exact absurd (Option.some.inj (List.cons.inj heq).1) hd
    · rw [someDigits, hspan]

theorem EndsMember.numeral {s : List Symbol} (h : EndsMember s) (n : Int) :
    numeral ((signedDigits n).map some ++ s) = some (.ofInt n, s) := by
  have hfraction : fraction s = some ([], s) := by
    obtain ⟨rest, rfl | rfl⟩ := h <;> rfl
  have hexponent : exponent s = some (none, s) := by
    obtain ⟨rest, rfl | rfl⟩ := h <;> rfl
  cases n with
  | ofNat n =>
    -- no digit is a minus sign, so the reader expects none
    have hsign : ∀ rest, (digits n).map some ++ s = some '-' :: rest → False := by
      intro rest heq
      cases hds : digits n with
      | nil => exact Nat.toDigits_ne_nil hds
      | cons d ds =>
        have hdigit : d.isDigit := Text.isDigit_of_mem_digits (n := n) (hds ▸ List.mem_cons_self)
        rw [hds] at heq
        cases heq
        exact absurd hdigit (by decide)
    rw [signedDigits, Json.numeral, h.wholePart]
    · simp [hfraction, hexponent, Numeral.ofInt]
    · exact hsign
  | negSucc n =>
    simp [signedDigits, Json.numeral, h.wholePart, hfraction, hexponent, Numeral.ofInt]

/-! ## Records -/

theorem signedDigits_head (n : Int) :
    ∃ c cs, signedDigits n = c :: cs ∧ (c = '-' ∨ c.isDigit) := by
  cases n with
  | ofNat n =>
    cases hds : digits n with
    | nil => exact absurd hds Nat.toDigits_ne_nil
    | cons d ds =>
      have hd : d ∈ digits n := hds ▸ List.mem_cons_self
      exact ⟨d, ds, hds, .inr (Text.isDigit_of_mem_digits hd)⟩
  | negSucc n => exact ⟨'-', digits (n + 1), rfl, .inl rfl⟩

/-- No value but a number starts with a minus sign or a digit. -/
theorem value_numeral {c : Char} (h : c = '-' ∨ c.isDigit) (fuel : Nat) (s : List Symbol) :
    value (fuel + 1) (some c :: s)
      = (numeral (some c :: s)).map fun (n, after) => (.number n, after) := by
  have hne : ∀ d ∈ [' ', '\n', '\t', '\r', '\x7b', '[', '"', 'n', 't', 'f'], c ≠ d := by
    intro d hd hc
    subst hc
    revert h
    simp only [List.mem_cons, List.not_mem_nil, or_false] at hd
    rcases hd with rfl | rfl | rfl | rfl | rfl | rfl | rfl | rfl | rfl | rfl <;> decide
  simp only [List.mem_cons, List.not_mem_nil, or_false, forall_eq_or_imp, forall_eq] at hne
  simp [value, skipSpace, hne]

theorem EndsMember.value {s : List Symbol} (h : EndsMember s) (fuel : Nat) (v : Scalar) :
    value (fuel + 1) (v.print.map some ++ s) = some (v.toJson, s) := by
  cases v with
  | text text => exact value_quote text fuel s
  | integer n =>
    obtain ⟨c, cs, hcs, hc⟩ := signedDigits_head n
    have hn := h.numeral n
    rw [hcs, List.map_cons, List.cons_append] at hn
    rw [Scalar.print, hcs, List.map_cons, List.cons_append, value_numeral hc, hn]
    rfl

/-- The member of an object that a field reads back as. -/
def writtenMember (field : String × Scalar) : Option String × Json := (some field.1, field.2.toJson)

theorem members_last (field : String × Scalar) (fuel : Nat) (s : List Symbol) :
    members (fuel + 2) ((printField field).map some ++ some '\x7d' :: s)
      = some ([writtenMember field], s) := by
  have hp := pieces_flatMap_escape field.1.toList
  have hv := EndsMember.value (s := some '\x7d' :: s) ⟨s, .inr rfl⟩ fuel field.2
  rw [members]
  simp [printField, quote, hp, hv, skipSpace, expect, spelled?_map_writtenPiece, writtenMember]

theorem members_more (field : String × Scalar) (fuel : Nat) (s : List Symbol) :
    members (fuel + 2) ((printField field).map some ++ some ',' :: s)
      = (members (fuel + 1) s).map fun (ms, after) => (writtenMember field :: ms, after) := by
  have hp := pieces_flatMap_escape field.1.toList
  have hv := EndsMember.value (s := some ',' :: s) ⟨s, .inl rfl⟩ fuel field.2
  rw [members]
  simp [printField, quote, hp, hv, skipSpace, expect, spelled?_map_writtenPiece, writtenMember]
  cases members (fuel + 1) s <;> rfl

/-- The fields of a record, comma by comma, are read as the members of an object. -/
theorem members_intercalate (field : String × Scalar) (record : Record) (fuel : Nat)
    (s : List Symbol) :
    members (record.length + fuel + 2)
        ((List.intercalate [','] ((field :: record).map printField)).map some ++ some '\x7d' :: s)
      = some ((field :: record).map writtenMember, s) := by
  -- each field before the last takes one unit of fuel, the last one takes two
  induction record generalizing field with
  | nil =>
    have hlast := members_last field (0 + fuel) s
    simpa [List.intercalate] using hlast
  | cons next record ih =>
    have hcomma : List.intercalate [','] ((field :: next :: record).map printField)
        = printField field ++ ',' :: List.intercalate [','] ((next :: record).map printField) := by
      simp [List.intercalate_cons_cons]
    have hfuel : (next :: record).length + fuel + 2 = (record.length + fuel + 1) + 2 := by
      simp only [List.length_cons]
      omega
    rw [hcomma, hfuel, List.map_append, List.map_cons, List.append_assoc, List.cons_append,
      members_more, ih next]
    rfl

/-- What is written with commas in between has at least as many characters as parts. -/
theorem length_le_intercalate {α : Type} {write : α → List Char} (h : ∀ a, write a ≠ [])
    (list : List α) : list.length ≤ (List.intercalate [','] (list.map write)).length := by
  induction list with
  | nil => exact Nat.zero_le _
  | cons a list ih =>
    have ha : 0 < (write a).length := List.length_pos_iff.2 (h a)
    cases list with
    | nil =>
      rw [List.map_singleton, List.intercalate_singleton, List.length_singleton]
      exact ha
    | cons b list =>
      rw [List.map_cons, List.map_cons, List.intercalate_cons_cons, ← List.map_cons,
        List.length_append, List.length_append, List.length_cons]
      omega

/-- A printed record has at least as many characters as fields. -/
theorem length_le_print (record : Record) : record.length ≤ (print record).length := by
  have hne (field : String × Scalar) : printField field ≠ [] := List.cons_ne_nil _ _
  have h := length_le_intercalate hne record
  simp only [print, List.length_append, List.length_cons]
  omega

/-- A printed record is read as the object of its fields. -/
theorem ofSymbols?_print (record : Record) :
    ofSymbols? ((print record).map some) = some (ofRecord record) := by
  cases record with
  | nil => rfl
  | cons field record =>
    have hlen := length_le_print (field :: record)
    -- the reader has fuel by the length of the text, which is at least the number of fields
    obtain ⟨fuel, hfuel⟩ : ∃ fuel, 2 * (print (field :: record)).length + 2
        = (record.length + fuel + 2) + 1 := by
      refine ⟨2 * (print (field :: record)).length - record.length - 1, ?_⟩
      simp only [List.length_cons] at hlen
      omega
    have hm := members_intercalate field record fuel []
    have hquote : ∃ rest,
        List.intercalate [','] ((field :: record).map printField) = '"' :: rest := by
      cases record <;> exact ⟨_, rfl⟩
    obtain ⟨rest, hrest⟩ := hquote
    rw [hrest] at hm
    rw [ofSymbols?, List.length_map, hfuel, print, hrest]
    simp only [List.map_cons, List.map_append, List.cons_append, List.map_nil] at hm ⊢
    simp [value, skipSpace, hm, ofRecord, writtenMember]

/-- A document that was written reads back from its bytes. -/
theorem ofBytes?_utf8_render (record : Record) :
    ofBytes? (Text.utf8 (render record)) = some (ofRecord record) := by
  rw [ofBytes?, Text.symbols_utf8, render, String.toList_ofList]
  exact ofSymbols?_print record

/-- A document that was written reads back from its text. -/
theorem ofString?_render (record : Record) :
    ofString? (render record) = some (ofRecord record) := by
  rw [ofString?, render, String.toList_ofList]
  exact ofSymbols?_print record

/-! ## Booleans and lists of texts -/

theorem value_toString (b : Bool) (fuel : Nat) (s : List Symbol) :
    value (fuel + 1) ((toString b).toList.map some ++ s) = some (.bool b, s) := by
  cases b <;> rfl

/-- A list of texts as JSON. -/
def quoteAll (texts : List String) : List Char :=
  '[' :: List.intercalate [','] (texts.map quote) ++ [']']

theorem items_last (text : String) (fuel : Nat) (s : List Symbol) :
    items (fuel + 2) ((quote text).map some ++ some ']' :: s) = some ([.text text], s) := by
  simp [items, value_quote, skipSpace]

theorem items_more (text : String) (fuel : Nat) (s : List Symbol) :
    items (fuel + 2) ((quote text).map some ++ some ',' :: s)
      = (items (fuel + 1) s).map fun (vs, after) => (.text text :: vs, after) := by
  have hcomma : skipSpace (some ',' :: s) = some ',' :: s := by simp [skipSpace]
  rw [items, value_quote]
  simp only [Option.bind_eq_bind, Option.bind_some, hcomma]
  cases items (fuel + 1) s <;> rfl

/-- The texts of a list, comma by comma, are read as the items of an array. -/
theorem items_intercalate (text : String) (texts : List String) (fuel : Nat) (s : List Symbol) :
    items (texts.length + fuel + 2)
        ((List.intercalate [','] ((text :: texts).map quote)).map some ++ some ']' :: s)
      = some ((text :: texts).map .text, s) := by
  -- as with members, each text before the last takes one unit of fuel, the last one takes two
  induction texts generalizing text with
  | nil =>
    have hlast := items_last text (0 + fuel) s
    simpa [List.intercalate] using hlast
  | cons next texts ih =>
    have hcomma : List.intercalate [','] ((text :: next :: texts).map quote)
        = quote text ++ ',' :: List.intercalate [','] ((next :: texts).map quote) := by
      simp [List.intercalate_cons_cons]
    have hfuel : (next :: texts).length + fuel + 2 = (texts.length + fuel + 1) + 2 := by
      simp only [List.length_cons]
      omega
    rw [hcomma, hfuel, List.map_append, List.map_cons, List.append_assoc, List.cons_append,
      items_more, ih next]
    rfl

/-- A list of texts is read as the array of them. -/
theorem value_quoteAll {texts : List String} {fuel : Nat} (h : texts.length + 2 ≤ fuel)
    (s : List Symbol) :
    value fuel ((quoteAll texts).map some ++ s) = some (.array (texts.map .text), s) := by
  obtain ⟨fuel, rfl⟩ := Nat.exists_eq_add_of_le h
  cases texts with
  | nil =>
    rw [Nat.add_comm]
    rfl
  | cons text texts =>
    have hfuel : (text :: texts).length + 2 + fuel = (texts.length + fuel + 2) + 1 := by
      simp only [List.length_cons]
      omega
    have hitems := items_intercalate text texts fuel s
    have hquote : ∃ rest, List.intercalate [','] ((text :: texts).map quote) = '"' :: rest := by
      cases texts <;> exact ⟨_, rfl⟩
    obtain ⟨rest, hrest⟩ := hquote
    rw [hrest] at hitems
    rw [hfuel, quoteAll, hrest]
    simp only [List.map_cons, List.map_append, List.cons_append, List.map_nil, List.append_assoc,
      List.nil_append] at hitems ⊢
    simp [value, skipSpace, hitems]

/-- A list of texts as JSON has at least as many characters as texts, and its brackets. -/
theorem length_le_quoteAll (texts : List String) : texts.length + 2 ≤ (quoteAll texts).length := by
  have hne (text : String) : quote text ≠ [] := List.cons_ne_nil _ _
  have h := length_le_intercalate hne texts
  simp only [quoteAll, List.length_append, List.length_cons, List.length_nil]
  omega

/-- An object with one member, whose value has been written already, as a text. -/
def renderMember (name : String) (written : List Char) : String :=
  String.ofList ('\x7b' :: quote name ++ ':' :: written ++ ['\x7d'])

theorem ofBytes?_utf8_renderMember (name : String) {written : List Char} {v : Json}
    (h : ∀ (fuel : Nat) (s : List Symbol), written.length ≤ fuel →
      value fuel (written.map some ++ s) = some (v, s)) :
    ofBytes? (Text.utf8 (renderMember name written)) = some (.object [(some name, v)]) := by
  rw [ofBytes?, Text.symbols_utf8, renderMember, String.toList_ofList, ofSymbols?, List.length_map]
  obtain ⟨fuel, hfuel, hle⟩ : ∃ fuel,
      2 * ('\x7b' :: quote name ++ ':' :: written ++ ['\x7d']).length + 2 = fuel + 2 ∧
        written.length ≤ fuel := by
    refine ⟨_, rfl, ?_⟩
    simp only [List.length_append, List.length_cons]
    omega
  have hname := pieces_flatMap_escape name.toList
  have hvalue := h fuel [some '\x7d'] hle
  rw [hfuel]
  simp [value, members, quote, hname, hvalue, skipSpace, expect, spelled?_map_writtenPiece]

theorem ofBytes?_utf8_bool (name : String) (b : Bool) :
    ofBytes? (Text.utf8 (renderMember name (toString b).toList))
      = some (.object [(some name, .bool b)]) := by
  refine ofBytes?_utf8_renderMember name fun fuel s hle => ?_
  obtain ⟨fuel, rfl⟩ : ∃ n, fuel = n + 1 := by
    refine Nat.exists_eq_add_one.2 (Nat.lt_of_lt_of_le ?_ hle)
    cases b <;> decide
  exact value_toString b fuel s

theorem ofBytes?_utf8_texts (name : String) (texts : List String) :
    ofBytes? (Text.utf8 (renderMember name (quoteAll texts)))
      = some (.object [(some name, .array (texts.map .text))]) :=
  ofBytes?_utf8_renderMember name fun _ s hle =>
    value_quoteAll (Nat.le_trans (length_le_quoteAll texts) hle) s

/-! ## Fields -/

theorem named?_map_writtenMember (record : Record) :
    named? (record.map writtenMember)
      = some (record.map fun field => (field.1, field.2.toJson)) := by
  induction record with
  | nil => rfl
  | cons field record ih =>
    rw [List.map_cons, writtenMember, named?, ih]
    rfl

@[simp] theorem lookup_present (name other : String) (v : Option Scalar) :
    (present name v).lookup other = if other = name then v else none := by
  cases v with
  | none => simp [present]
  | some v =>
    by_cases h : other = name
    · simp [present, h]
    · simp [present, List.lookup_cons, h, beq_eq_false_iff_ne.2 h]

/-- A name that is written at most once is found where it was written. -/
theorem filter_eq_present {record : Record} (h : (record.map Prod.fst).Nodup) (name : String) :
    record.filter (·.1 == name) = present name (record.lookup name) := by
  induction record with
  | nil => rfl
  | cons field record ih =>
    obtain ⟨other, v⟩ := field
    obtain ⟨hnot, hrest⟩ := List.nodup_cons.1 h
    by_cases hname : other = name
    · subst hname
      have hnone : record.filter (·.1 == other) = [] := by
        refine List.filter_eq_nil_iff.2 fun field hfield hother => hnot ?_
        exact List.mem_map.2 ⟨field, hfield, beq_iff_eq.1 hother⟩
      simp [hnone, present]
    · have hother : (name == other) = false := beq_eq_false_iff_ne.2 (Ne.symm hname)
      simp [List.lookup_cons, hname, hother, ih hrest]

theorem member?_map_toJson {record : Record} (h : (record.map Prod.fst).Nodup) (name : String) :
    member? (record.map fun field => (field.1, field.2.toJson)) name
      = some ((record.lookup name).map Scalar.toJson) := by
  have hfilter : (record.map fun field => (field.1, field.2.toJson)).filter (·.1 == name)
      = (present name (record.lookup name)).map fun field => (field.1, field.2.toJson) := by
    rw [List.filter_map, ← filter_eq_present h name]
    rfl
  rw [member?, hfilter]
  cases record.lookup name <;> rfl

/-- A record whose names differ gives each field that is asked for the value written under its
name. -/
theorem fields?_ofRecord {record : Record} (h : (record.map Prod.fst).Nodup)
    (fields : List Field) :
    fields? fields (ofRecord record)
      = some (fields.map fun field => (record.lookup field.name).map Scalar.toJson) := by
  have hnamed := named?_map_writtenMember record
  rw [ofRecord, fields?, ofMembers?]
  change named? (record.map writtenMember) >>= _ = _
  rw [hnamed, Option.bind_eq_bind, Option.bind_some]
  simp only [member?_map_toJson h]
  exact List.mapM_pure

end Credentials.Json
