import CredentialHelper.Proofs.JsonNumber
import CredentialHelper.Proofs.Members

/-!
# Spellings

A value has many documents: blanks may stand around each of its parts, a symbol of a string may be
escaped, and a key of an object may be named more than once. `Spells` is the grammar of all of them,
apart from floating-point numbers, which are spelled only as they are written. Wherever a spelling
stands, the reader finds its value and stops behind it (`Spells.reads`).
-/

namespace CredentialHelper

namespace Json

open Reader

/-! ## What a value begins with -/

def startsScalar (c : Char) : Bool := c.isDigit || "-ntfNI".toList.contains c

def startsValue (c : Char) : Bool := startsScalar c || "\"[\x7b".toList.contains c

theorem word?_eq_some {word : String} {t rest : Text} (h : word? word t = some rest) :
    t = Text.ofString word ++ rest := by
  rw [word?] at h
  split at h
  · next htake =>
    cases h
    exact (List.take_append_drop (Text.ofString word).length t).symm.trans
      (congrArg (· ++ t.drop (Text.ofString word).length) htake)
  · cases h

theorem word?_of_head {word : String} {c : Char} {cs : List Char} {t : Text}
    (hword : word.toList = c :: cs) (h : t.head? ≠ some (.char c)) : word? word t = none := by
  cases hsome : word? word t with
  | none => rfl
  | some rest =>
    rw [word?_eq_some hsome, Text.ofString, hword] at h
    exact absurd rfl h

theorem integerDigits_of_head {t : Text} (h : NoDigit t) : integerDigits t = ([], t) := by
  cases t with
  | nil => rfl
  | cons s t =>
    have hs := h s rfl
    rw [integerDigits.eq_def]
    split
    · next heq =>
      rw [(List.cons.inj heq).1] at hs
      cases hs
    · simp [digits, hs]

theorem scalar_eq_error {t : Text} (h : ∀ c, startsScalar c = true → t.head? ≠ some (.char c)) :
    ∃ e, scalar t = .error e := by
  have hdigit : NoDigit t := by
    intro s hs
    cases s with
    | surrogate n => rfl
    | char c =>
      rw [← Bool.not_eq_true]
      intro hc
      exact h c (by rw [startsScalar, show c.isDigit = true from hc, Bool.true_or]) hs
  rw [scalar.eq_def, word?_of_head rfl (h 'n' (by decide)), word?_of_head rfl (h 't' (by decide)),
    word?_of_head rfl (h 'f' (by decide)), word?_of_head rfl (h 'N' (by decide)),
    word?_of_head rfl (h 'I' (by decide)), word?_of_head rfl (h '-' (by decide))]
  dsimp only
  split
  · exact absurd rfl (h '-' (by decide))
  · rw [number, integerDigits_of_head hdigit]
    exact ⟨_, rfl⟩

theorem start_of_scalar {t : Text} {r : Json × Text} (h : scalar t = .ok r) :
    ∃ c t', t = .char c :: t' ∧ startsScalar c = true := by
  refine Classical.byContradiction fun hnot => ?_
  have hhead : ∀ c, startsScalar c = true → t.head? ≠ some (.char c) := by
    intro c hc hhead
    obtain ⟨t', rfl⟩ := List.head?_eq_some_iff.1 hhead
    exact hnot ⟨c, t', rfl, hc⟩
  obtain ⟨e, he⟩ := scalar_eq_error hhead
  rw [he] at h
  cases h

theorem value_of_scalar {t : Text} {r : Json × Text} (h : scalar t = .ok r) (fuel depth : Nat) :
    value (fuel + 1) depth t = .ok r := by
  obtain ⟨c, t', rfl, hc⟩ := start_of_scalar h
  have hne {c' : Char} (hc' : startsScalar c' = false) : Symbol.char c ≠ .char c' := by
    rintro ⟨⟩
    rw [hc] at hc'
    cases hc'
  rw [value.eq_def]
  dsimp only
  split
  · next heq => exact absurd (List.cons.inj heq).1 (hne (by decide))
  · next heq => exact absurd (List.cons.inj heq).1 (hne (by decide))
  · next heq => exact absurd (List.cons.inj heq).1 (hne (by decide))
  · exact h

theorem start_of_value {fuel depth : Nat} {t : Text} {r : Json × Text}
    (h : value fuel depth t = .ok r) : ∃ c t', t = .char c :: t' ∧ startsValue c = true := by
  cases fuel with
  | zero => cases h
  | succ fuel =>
    rw [value.eq_def] at h
    dsimp only at h
    split at h
    · exact ⟨_, _, rfl, by decide⟩
    · exact ⟨_, _, rfl, by decide⟩
    · exact ⟨_, _, rfl, by decide⟩
    · obtain ⟨c, t', rfl, hc⟩ := start_of_scalar h
      exact ⟨c, t', rfl, by rw [startsValue, hc, Bool.true_or]⟩

/-! ## Blanks -/

/-- Characters that say nothing between the parts of a document. -/
def Blanks (cs : List Char) : Prop := ∀ c ∈ cs, isSpace (.char c) = true

theorem blanks_nil : Blanks [] := by
  intro c hc
  cases hc

theorem Blanks.append {cs cs' : List Char} (h : Blanks cs) (h' : Blanks cs') :
    Blanks (cs ++ cs') :=
  fun c hc => (List.mem_append.1 hc).elim (h c) (h' c)

theorem skipSpace_cons {c : Char} (h : isSpace (.char c) = false) (rest : Text) :
    skipSpace (.char c :: rest) = .char c :: rest := by
  rw [skipSpace, List.dropWhile_cons_of_neg (by simp [h])]

theorem Blanks.skipSpace {cs : List Char} (h : Blanks cs) (rest : Text) :
    skipSpace (cs.map .char ++ rest) = skipSpace rest := by
  rw [Reader.skipSpace, List.dropWhile_append_of_pos, Reader.skipSpace]
  intro s hs
  obtain ⟨c, hc, rfl⟩ := List.mem_map.1 hs
  exact h c hc

theorem Blanks.skipSpace_cons {cs : List Char} (h : Blanks cs) {c : Char}
    (hc : isSpace (.char c) = false) (rest : Text) :
    Reader.skipSpace (cs.map .char ++ .char c :: rest) = .char c :: rest := by
  rw [h.skipSpace, Json.skipSpace_cons hc]

theorem delimited_nil : Delimited [] := by
  intro s hs
  cases hs

theorem Blanks.delimited {cs : List Char} (h : Blanks cs) {c : Char}
    (hc : isDelimiter (.char c) = true) (rest : Text) :
    Delimited (cs.map .char ++ .char c :: rest) := by
  intro s hs
  cases cs with
  | nil =>
    cases hs
    exact hc
  | cons b cs =>
    cases hs
    simp [isDelimiter, h b (List.mem_cons_self ..)]

theorem Blanks.delimited_end {cs : List Char} (h : Blanks cs) : Delimited (cs.map .char) := by
  intro s hs
  cases cs with
  | nil => cases hs
  | cons b cs =>
    cases hs
    simp [isDelimiter, h b (List.mem_cons_self ..)]

theorem isSpace_of_startsValue {c : Char} (h : startsValue c = true) :
    isSpace (.char c) = false := by
  rw [← Bool.not_eq_true]
  intro hspace
  simp only [isSpace, Bool.or_eq_true, beq_iff_eq, Symbol.char.injEq] at hspace
  rcases hspace with ((rfl | rfl) | rfl) | rfl <;> revert h <;> decide

/-! ## Texts that are read -/

/-- Characters that are read as a value inside `depth` arrays and objects, whatever follows. -/
def Reads (depth : Nat) (v : Json) (cs : List Char) : Prop :=
  ∀ (fuel : Nat) (rest : Text), Delimited rest → cs.length ≤ fuel →
    Reader.value fuel depth (cs.map .char ++ rest) = .ok (v, rest)

theorem Reads.start {depth : Nat} {v : Json} {cs : List Char} (h : Reads depth v cs) :
    ∃ c cs', cs = c :: cs' ∧ startsValue c = true := by
  obtain ⟨c, t, heq, hc⟩ := start_of_value (h _ [] delimited_nil (Nat.le_refl _))
  rw [List.append_nil] at heq
  obtain ⟨c', cs', rfl, hc', -⟩ := List.map_eq_cons_iff.1 heq
  cases hc'
  exact ⟨c, cs', rfl, hc⟩

theorem Reads.skipSpace {depth : Nat} {v : Json} {cs : List Char} (h : Reads depth v cs)
    (rest : Text) : skipSpace (cs.map .char ++ rest) = cs.map .char ++ rest := by
  obtain ⟨c, cs', rfl, hc⟩ := h.start
  exact skipSpace_cons (isSpace_of_startsValue hc) _

theorem exists_fuel {cs : List Char} {fuel : Nat} (hne : cs ≠ []) (h : cs.length ≤ fuel) :
    ∃ n, fuel = n + 1 := by
  have hpos := List.length_pos_iff.2 hne
  exact ⟨fuel - 1, by omega⟩

theorem reads_of_scalar {depth : Nat} {v : Json} {cs : List Char}
    (h : ∀ rest, Delimited rest → scalar (cs.map .char ++ rest) = .ok (v, rest)) :
    Reads depth v cs := by
  intro fuel rest hrest hfuel
  have hne : cs ≠ [] := by
    rintro rfl
    obtain ⟨c, t, heq, -⟩ := start_of_scalar (h [] delimited_nil)
    cases heq
  obtain ⟨fuel, rfl⟩ := exists_fuel hne hfuel
  exact value_of_scalar (h rest hrest) fuel depth

theorem reads_string {depth : Nat} {t : Text} {cs : List Char} (ht : WrittenText t cs)
    (h : Joined t) : Reads depth (.string t) ('"' :: cs ++ ['"']) := by
  intro fuel rest hrest hfuel
  obtain ⟨fuel, rfl⟩ := exists_fuel (by simp) hfuel
  rw [List.cons_append, List.map_cons, List.map_append, List.cons_append, Reader.value]
  simp only [List.map_cons, List.map_nil, List.append_assoc, List.singleton_append]
  rw [ht.stringBody h]

theorem exists_intercalate_cons (first : List Char) (more : List (List Char)) :
    ∃ cs, [','].intercalate (first :: more) = first ++ cs := by
  cases more with
  | nil => exact ⟨[], by rw [List.intercalate_singleton, List.append_nil]⟩
  | cons second more => exact ⟨_, by rw [List.intercalate_cons_cons, List.append_assoc]⟩

/-! ## Arrays -/

/-- An item of an array as it stands between two commas. -/
structure Part where
  value : Json
  text : List Char
  before : List Char
  after : List Char
  blanks_before : Blanks before
  blanks_after : Blanks after

namespace Part

def whole (p : Part) : List Char := p.before ++ p.text ++ p.after

theorem skipSpace_whole {depth : Nat} {p : Part} (h : Reads depth p.value p.text) (rest : Text) :
    skipSpace (p.whole.map .char ++ rest) =
      p.text.map .char ++ (p.after.map .char ++ rest) := by
  rw [whole, List.map_append, List.map_append, List.append_assoc, List.append_assoc,
    p.blanks_before.skipSpace, h.skipSpace]

theorem length_text_le (p : Part) : p.text.length ≤ p.whole.length := by
  rw [whole, List.length_append, List.length_append]
  omega

end Part

theorem items_of_comma {fuel depth : Nat} {read : List Json} {t rest rest' : Text} {v : Json}
    (hv : Reader.value fuel depth t = .ok (v, rest)) (h : skipSpace rest = .char ',' :: rest') :
    Reader.items (fuel + 1) depth read t =
      Reader.items fuel depth (v :: read) (skipSpace rest') := by
  rw [Reader.items, hv]
  simp only [h]

theorem items_of_bracket {fuel depth : Nat} {read : List Json} {t rest rest' : Text} {v : Json}
    (hv : Reader.value fuel depth t = .ok (v, rest)) (h : skipSpace rest = .char ']' :: rest') :
    Reader.items (fuel + 1) depth read t = .ok (.array (v :: read).reverse, rest') := by
  rw [Reader.items, hv]
  simp only [h]

theorem items_intercalate {depth : Nat} {p : Part} {more : List Part}
    (h : ∀ q ∈ p :: more, Reads depth q.value q.text) {closing : List Char}
    (hclosing : Blanks closing) (fuel : Nat) (read : List Json) (rest : Text)
    (hfuel : ([','].intercalate ((p :: more).map (·.whole))).length < fuel) :
    Reader.items fuel depth read (skipSpace
        (([','].intercalate ((p :: more).map (·.whole))).map .char ++
          (closing.map .char ++ .char ']' :: rest))) =
      .ok (.array (read.reverse ++ (p :: more).map (·.value)), rest) := by
  induction more generalizing p fuel read with
  | nil =>
    obtain ⟨fuel, rfl⟩ := Nat.exists_eq_add_one_of_ne_zero (Nat.ne_zero_of_lt hfuel)
    have hp := h p (List.mem_cons_self ..)
    have hlength := p.length_text_le
    rw [List.map_cons, List.map_nil, List.intercalate_singleton] at hfuel ⊢
    have hblanks := p.blanks_after.append hclosing
    have hread := hp fuel _ (hblanks.delimited (c := ']') (by decide) rest) (by omega)
    have hend := hblanks.skipSpace_cons (c := ']') (by decide) rest
    rw [Part.skipSpace_whole hp, ← List.append_assoc (p.after.map _), ← List.map_append,
      items_of_bracket hread hend]
    simp
  | cons q more ih =>
    obtain ⟨fuel, rfl⟩ := Nat.exists_eq_add_one_of_ne_zero (Nat.ne_zero_of_lt hfuel)
    have hp := h p (List.mem_cons_self ..)
    have hlength := p.length_text_le
    have htail := ih (fun u hu => h u (List.mem_cons_of_mem _ hu)) fuel (p.value :: read)
    rw [List.map_cons, List.map_cons, List.intercalate_cons_cons, ← List.map_cons] at hfuel ⊢
    -- the text behind the comma counts only as a whole
    generalize [','].intercalate ((q :: more).map (·.whole)) = cs at hfuel htail ⊢
    simp only [List.length_append, List.length_singleton] at hfuel
    have hblanks := p.blanks_after
    have hread := hp fuel _ (hblanks.delimited (c := ',') (by decide)
      (cs.map .char ++ (closing.map .char ++ .char ']' :: rest))) (by omega)
    rw [List.map_append, List.map_append, List.append_assoc, List.append_assoc,
      Part.skipSpace_whole hp]
    refine (items_of_comma hread (hblanks.skipSpace_cons (by decide) _)).trans ?_
    rw [htail (by omega)]
    simp

theorem value_of_items {fuel depth : Nat} {t t' : Text} {c : Char} (hdepth : depth < maxDepth)
    (h : skipSpace t = .char c :: t') (hc : c ≠ ']') :
    Reader.value (fuel + 1) depth (.char '[' :: t) =
      Reader.items fuel (depth + 1) [] (skipSpace t) := by
  rw [Reader.value, if_neg (Nat.not_le.2 hdepth), h]
  split
  · next heq => exact absurd (Symbol.char.inj (List.cons.inj heq).1) hc
  · rfl

theorem reads_array {depth : Nat} {parts : List Part} {closing : List Char}
    (hdepth : depth < maxDepth) (hclosing : Blanks closing)
    (h : ∀ p ∈ parts, Reads (depth + 1) p.value p.text) :
    Reads depth (.array (parts.map (·.value)))
      ('[' :: [','].intercalate (parts.map (·.whole)) ++ closing ++ [']']) := by
  intro fuel rest hrest hfuel
  obtain ⟨fuel, rfl⟩ := exists_fuel (by simp) hfuel
  cases parts with
  | nil =>
    rw [Reader.value.eq_def]
    simp only [List.map_nil, List.intercalate_nil, List.cons_append, List.nil_append,
      List.map_cons, List.map_append, List.append_assoc, if_neg (Nat.not_le.2 hdepth),
      hclosing.skipSpace_cons (c := ']') (by decide)]
  | cons p more =>
    have hitems := items_intercalate h hclosing fuel [] rest
    obtain ⟨cs, hcs⟩ := exists_intercalate_cons p.whole (more.map (·.whole))
    obtain ⟨c, cs', hstart, hc⟩ := (h p (List.mem_cons_self ..)).start
    have hbracket : c ≠ ']' := by
      rintro rfl
      cases hc
    have hskip (t : Text) : skipSpace ((p.whole ++ cs).map .char ++ t) =
        .char c :: (cs'.map .char ++ (p.after.map .char ++ (cs.map .char ++ t))) := by
      rw [List.map_append, List.append_assoc, Part.skipSpace_whole (h p (List.mem_cons_self ..)),
        hstart, List.map_cons, List.cons_append]
    simp only [List.map_cons, hcs] at hitems hfuel ⊢
    simp only [List.length_append, List.length_cons, List.length_nil] at hfuel
    simp only [List.cons_append, List.map_cons, List.map_append, List.append_assoc]
      at hitems hskip ⊢
    rw [value_of_items hdepth (hskip _) hbracket, List.map_nil, List.nil_append]
    exact hitems (by simp only [List.length_append]; omega)

/-! ## Objects -/

structure Field extends Part where
  key : Text
  name : List Char
  lead : List Char
  gap : List Char
  written_name : WrittenText key name
  blanks_lead : Blanks lead
  blanks_gap : Blanks gap

namespace Field

def whole (f : Field) : List Char :=
  f.lead ++ '"' :: f.name ++ '"' :: f.gap ++ ':' :: f.toPart.whole

def pair (f : Field) : Text × Json := (f.key, f.value)

theorem skipSpace_whole (f : Field) (rest : Text) :
    skipSpace (f.whole.map .char ++ rest) =
      .char '"' :: (f.name.map .char ++ .char '"' :: (f.gap.map .char ++
        .char ':' :: (f.toPart.whole.map .char ++ rest))) := by
  simp only [whole, List.map_append, List.map_cons, List.append_assoc, List.cons_append]
  exact f.blanks_lead.skipSpace_cons (by decide) _

theorem length_text_lt (f : Field) : f.text.length < f.whole.length := by
  have hlength := f.toPart.length_text_le
  simp only [whole, List.length_append, List.length_cons]
  omega

theorem members_whole {fuel depth : Nat} {f : Field} {read : Members} {rest : Text}
    (hkey : Joined f.key) (h : Reads depth f.value f.text)
    (hrest : Delimited (f.after.map .char ++ rest)) (hfuel : f.text.length ≤ fuel) :
    Reader.members (fuel + 1) depth read (skipSpace (f.whole.map .char ++ rest)) =
      match skipSpace (f.after.map .char ++ rest) with
      | .char '\x7d' :: rest => .ok (.object (read.insert f.key f.value), rest)
      | .char ',' :: rest =>
        Reader.members fuel depth (read.insert f.key f.value) (skipSpace rest)
      | rest => .error (.flaw .expectingComma rest.length) := by
  rw [f.skipSpace_whole, Reader.members]
  rw [f.written_name.stringBody hkey]
  dsimp only
  rw [f.blanks_gap.skipSpace_cons (by decide)]
  split
  · next heq =>
    cases heq
    have hvalue := h fuel _ hrest hfuel
    rw [Part.skipSpace_whole h]
    generalize Reader.value fuel depth _ = r at hvalue ⊢
    subst hvalue
    rfl
  · next hne => exact absurd rfl (hne _)

end Field

theorem members_intercalate {depth : Nat} {f : Field} {more : List Field}
    (h : ∀ g ∈ f :: more, Joined g.key ∧ Reads depth g.value g.text) {closing : List Char}
    (hclosing : Blanks closing) (fuel : Nat) (read : Members) (rest : Text)
    (hfuel : ([','].intercalate ((f :: more).map (·.whole))).length < fuel) :
    Reader.members fuel depth read (skipSpace
        (([','].intercalate ((f :: more).map (·.whole))).map .char ++
          (closing.map .char ++ .char '\x7d' :: rest))) =
      .ok (.object (((f :: more).map (·.pair)).foldl (fun ms p => Members.insert p.1 p.2 ms) read),
        rest) := by
  induction more generalizing f fuel read with
  | nil =>
    obtain ⟨fuel, rfl⟩ := Nat.exists_eq_add_one_of_ne_zero (Nat.ne_zero_of_lt hfuel)
    obtain ⟨hkey, hf⟩ := h f (List.mem_cons_self ..)
    have hlength := f.length_text_lt
    rw [List.map_cons, List.map_nil, List.intercalate_singleton] at hfuel ⊢
    have hblanks := f.blanks_after.append hclosing
    have hend := hblanks.skipSpace_cons (c := '\x7d') (by decide) rest
    have hdelimited := hblanks.delimited (c := '\x7d') (by decide) rest
    rw [List.map_append, List.append_assoc] at hend hdelimited
    rw [Field.members_whole hkey hf hdelimited (by omega), hend]
    rfl
  | cons g more ih =>
    obtain ⟨fuel, rfl⟩ := Nat.exists_eq_add_one_of_ne_zero (Nat.ne_zero_of_lt hfuel)
    obtain ⟨hkey, hf⟩ := h f (List.mem_cons_self ..)
    have hlength := f.length_text_lt
    have htail := ih (fun u hu => h u (List.mem_cons_of_mem _ hu)) fuel
      (read.insert f.key f.value)
    rw [List.map_cons, List.map_cons, List.intercalate_cons_cons, ← List.map_cons] at hfuel ⊢
    -- the text behind the comma counts only as a whole
    generalize [','].intercalate ((g :: more).map (·.whole)) = cs at hfuel htail ⊢
    simp only [List.length_append, List.length_singleton] at hfuel
    have hend := f.blanks_after.skipSpace_cons (c := ',') (by decide)
      (cs.map .char ++ (closing.map .char ++ .char '\x7d' :: rest))
    have hdelimited := f.blanks_after.delimited (c := ',') (by decide)
      (cs.map .char ++ (closing.map .char ++ .char '\x7d' :: rest))
    rw [List.map_append, List.map_append, List.append_assoc, List.append_assoc]
    refine (Field.members_whole hkey hf hdelimited (by omega)).trans ?_
    rw [hend]
    exact htail (by omega)

theorem value_of_members {fuel depth : Nat} {t t' : Text} {c : Char} (hdepth : depth < maxDepth)
    (h : skipSpace t = .char c :: t') (hc : c ≠ '\x7d') :
    Reader.value (fuel + 1) depth (.char '\x7b' :: t) =
      Reader.members fuel (depth + 1) [] (skipSpace t) := by
  rw [Reader.value, if_neg (Nat.not_le.2 hdepth), h]
  split
  · next heq => exact absurd (Symbol.char.inj (List.cons.inj heq).1) hc
  · rfl

theorem reads_object {depth : Nat} {fields : List Field} {closing : List Char}
    (hdepth : depth < maxDepth) (hclosing : Blanks closing)
    (h : ∀ f ∈ fields, Joined f.key ∧ Reads (depth + 1) f.value f.text) :
    Reads depth (.object (Members.ofPairs (fields.map (·.pair))))
      ('\x7b' :: [','].intercalate (fields.map (·.whole)) ++ closing ++ ['\x7d']) := by
  intro fuel rest hrest hfuel
  obtain ⟨fuel, rfl⟩ := exists_fuel (by simp) hfuel
  cases fields with
  | nil =>
    rw [Reader.value.eq_def]
    simp only [List.map_nil, List.intercalate_nil, List.cons_append, List.nil_append,
      List.map_cons, List.map_append, List.append_assoc, if_neg (Nat.not_le.2 hdepth),
      hclosing.skipSpace_cons (c := '\x7d') (by decide)]
    rfl
  | cons f more =>
    have hmembers := members_intercalate h hclosing fuel [] rest
    obtain ⟨cs, hcs⟩ := exists_intercalate_cons f.whole (more.map (·.whole))
    have hskip (t : Text) := f.skipSpace_whole (cs.map .char ++ t)
    simp only [List.map_cons, hcs] at hmembers hfuel ⊢
    simp only [List.length_append, List.length_cons, List.length_nil] at hfuel
    simp only [List.cons_append, List.map_cons, List.map_append, List.append_assoc] at hmembers ⊢
    rw [value_of_members hdepth (hskip _) (by decide), List.map_nil, List.nil_append]
    exact hmembers (by simp only [List.length_append]; omega)

/-! ## The grammar -/

/-- The spellings of a value inside `depth` arrays and objects. -/
inductive Spells : Nat → Json → List Char → Prop
  | null {depth : Nat} : Spells depth .null "null".toList
  | bool {depth : Nat} (b : Bool) : Spells depth (.bool b) (if b then "true" else "false").toList
  | whole {depth : Nat} {ds : List Char} (h : WholePart ds) (hlength : ds.length ≤ maxDigits) :
    Spells depth (.int (Nat.ofDigitChars 10 ds 0)) ds
  | negative {depth : Nat} {ds : List Char} (h : WholePart ds)
      (hlength : ds.length ≤ maxDigits) :
    Spells depth (.int (-(Nat.ofDigitChars 10 ds 0 : Int))) ('-' :: ds)
  | float {depth : Nat} (x : Binary64) : Spells depth (.float (rereadFloat x)) (Writer.float x)
  | string {depth : Nat} {t : Text} {cs : List Char} (h : Joined t) (ht : WrittenText t cs) :
    Spells depth (.string t) ('"' :: cs ++ ['"'])
  | array {depth : Nat} {parts : List Part} {closing : List Char} (hdepth : depth < maxDepth)
      (hclosing : Blanks closing) (h : ∀ p ∈ parts, Spells (depth + 1) p.value p.text) :
    Spells depth (.array (parts.map (·.value)))
      ('[' :: [','].intercalate (parts.map (·.whole)) ++ closing ++ [']'])
  | object {depth : Nat} {fields : List Field} {closing : List Char} (hdepth : depth < maxDepth)
      (hclosing : Blanks closing) (hkeys : ∀ f ∈ fields, Joined f.key)
      (h : ∀ f ∈ fields, Spells (depth + 1) f.value f.text) :
    Spells depth (.object (Members.ofPairs (fields.map (·.pair))))
      ('\x7b' :: [','].intercalate (fields.map (·.whole)) ++ closing ++ ['\x7d'])

/-- Every spelling is read as its value. -/
theorem Spells.reads {depth : Nat} {v : Json} {cs : List Char} (h : Spells depth v cs) :
    Reads depth v cs := by
  induction h with
  | null => exact reads_of_scalar fun rest _ => scalar_null rest
  | bool b =>
    refine reads_of_scalar fun rest _ => ?_
    cases b with
    | true => exact scalar_true rest
    | false => exact scalar_false rest
  | whole h hlength => exact reads_of_scalar fun rest => scalar_whole h hlength
  | negative h hlength => exact reads_of_scalar fun rest => scalar_negative h hlength
  | float x => exact reads_of_scalar fun rest => scalar_float x
  | string h ht => exact reads_string ht h
  | array hdepth hclosing h ih => exact reads_array hdepth hclosing ih
  | object hdepth hclosing hkeys h ih =>
    exact reads_object hdepth hclosing fun f hf => ⟨hkeys f hf, ih f hf⟩

inductive Document : Json → List Char → Prop
  | mk (p : Part) (h : Spells 0 p.value p.text) : Document p.value p.whole

theorem Document.ne_mark {v : Json} {cs : List Char} (h : Document v cs) :
    cs.head? ≠ some '\ufeff' := by
  obtain ⟨p, h⟩ := h
  obtain ⟨c, cs', hstart, hc⟩ := h.reads.start
  rw [Part.whole, hstart]
  cases hbefore : p.before with
  | nil =>
    rintro ⟨⟩
    cases hc
  | cons b bs =>
    have hb := p.blanks_before b (hbefore ▸ List.mem_cons_self ..)
    rintro ⟨⟩
    cases hb

/-- Every document is read as its value. -/
theorem Document.parse {v : Json} {cs : List Char} (h : Document v cs) :
    parse (cs.map .char) = .ok v := by
  have hmark := h.ne_mark
  obtain ⟨p, h⟩ := h
  have hlength := p.length_text_le
  have hread := h.reads (2 * (p.whole.map Symbol.char).length + 2) (p.after.map .char)
    p.blanks_after.delimited_end (by rw [List.length_map]; omega)
  have hskip := Part.skipSpace_whole h.reads []
  have hend := p.blanks_after.skipSpace []
  rw [List.append_nil] at hskip hend
  rw [List.append_nil] at hskip
  have hdocument : Reader.document (p.whole.map .char) = .ok p.value := by
    rw [Reader.document.eq_def]
    split
    · next hhead =>
      obtain ⟨c, cs, hcs, hc, -⟩ := List.map_eq_cons_iff.1 hhead
      rw [hcs, Symbol.char.inj hc] at hmark
      exact absurd rfl hmark
    · rw [hskip, hread]
      dsimp only
      rw [hend]
      rfl
  rw [Json.parse, hdocument]

end Json

end CredentialHelper
