import CredentialHelper.Http.Form
import CredentialHelper.Proofs.FileName
import CredentialHelper.Proofs.JsonString
import CredentialHelper.Proofs.Path
import CredentialHelper.Proofs.Utf8

/-!
# Forms both ways

What is encoded as a form is read back as it was: no component holds one of the signs between
components, and the bytes of an encoded component are those of its characters.  A form can be
encoded exactly if none of its texts holds a surrogate.
-/

namespace CredentialHelper

/-! ## The texts that can be encoded -/

namespace Encoding

theorem map_char_filterMap {t : Text} (h : Json.Whole t) :
    (t.filterMap Symbol.char?).map .char = t := by
  induction t with
  | nil => rfl
  | cons s t ih =>
    have hrest := ih fun s' hs' => h s' (List.mem_cons_of_mem _ hs')
    cases s with
    | char c => exact congrArg (Symbol.char c :: ·) hrest
    | surrogate n => cases h _ List.mem_cons_self

theorem characters_eq_ok_iff {t : Text} {cs : List Char} :
    characters t = .ok cs ↔ t = cs.map .char := by
  rw [characters]
  cases hrefused : refused? (fun _ => false) 0 t with
  | some e =>
    refine ⟨fun h => (by cases h), fun h => ?_⟩
    rw [h, refused?_map_char] at hrefused
    cases hrefused
  | none =>
    have hwhole : Json.Whole t := by
      intro s hs
      cases s with
      | char c => rfl
      | surrogate n => cases FileName.refused?_eq_none_iff.1 hrefused n hs
    constructor
    · intro h
      cases h
      exact (map_char_filterMap hwhole).symm
    · rintro rfl
      rw [List.filterMap_map]
      exact congrArg Except.ok List.filterMap_some

theorem exists_characters_iff {t : Text} : (∃ cs, characters t = .ok cs) ↔ Json.Whole t := by
  constructor
  · rintro ⟨cs, h⟩
    rw [characters_eq_ok_iff.1 h]
    intro s hs
    obtain ⟨c, -, rfl⟩ := List.mem_map.1 hs
    rfl
  · intro h
    exact ⟨_, characters_eq_ok_iff.2 (map_char_filterMap h).symm⟩

end Encoding

/-! ## Percent encoding -/

namespace Percent

theorem hexValue?_hexDigit {n : Nat} (h : n < 16) : hexValue? (hexDigit n) = some n := by
  revert n
  decide

theorem hexDigit_ne {n : Nat} (h : n < 16) : hexDigit n ≠ '&' ∧ hexDigit n ≠ '=' := by
  revert n
  decide

theorem ne_of_isUnreserved {c : Char} (h : isUnreserved c = true) :
    c ≠ '&' ∧ c ≠ '=' ∧ c ≠ '+' ∧ c ≠ '%' := by
  refine ⟨?_, ?_, ?_, ?_⟩ <;> rintro rfl <;> exact absurd h (by decide)

theorem ne_of_mem_byte {b : UInt8} {c : Char} (h : c ∈ byte b) : c ≠ '&' ∧ c ≠ '=' := by
  have hb := b.toNat_lt
  simp only [byte, List.mem_cons, List.not_mem_nil, or_false] at h
  rcases h with rfl | rfl | rfl
  · decide
  · exact hexDigit_ne (by omega)
  · exact hexDigit_ne (by omega)

end Percent

namespace Form

/-! ## Components -/

def written (c : Char) : List Char :=
  if c = ' ' then ['+'] else if Percent.isUnreserved c then [c] else Percent.char c

theorem component_eq (cs : List Char) : component cs = cs.flatMap written := by
  rw [component]
  congr 1
  funext c
  simp [written, Percent.encode]

theorem ne_of_mem_component {cs : List Char} {c : Char} (h : c ∈ component cs) :
    c ≠ '&' ∧ c ≠ '=' := by
  rw [component_eq] at h
  obtain ⟨d, -, hc⟩ := List.mem_flatMap.1 h
  rw [written] at hc
  split at hc
  · obtain rfl := List.mem_singleton.1 hc
    decide
  · split at hc
    · next hunreserved =>
      obtain rfl := List.mem_singleton.1 hc
      obtain ⟨hand, hequals, -⟩ := Percent.ne_of_isUnreserved hunreserved
      exact ⟨hand, hequals⟩
    · obtain ⟨b, -, hb⟩ := List.mem_flatMap.1 hc
      exact Percent.ne_of_mem_byte hb

theorem componentBytes_byte (b : UInt8) (rest : List Char) :
    componentBytes (Percent.byte b ++ rest) = b :: componentBytes rest := by
  have hb := b.toNat_lt
  have hdigits : b.toNat / 16 * 16 + b.toNat % 16 = b.toNat := by omega
  rw [Percent.byte, List.cons_append, List.cons_append, List.cons_append, List.nil_append,
    componentBytes, Percent.hexValue?_hexDigit (by omega), Percent.hexValue?_hexDigit (by omega)]
  dsimp only
  rw [hdigits, UInt8.ofNat_toNat]

theorem componentBytes_bytes (bs : Bytes) (rest : List Char) :
    componentBytes (bs.flatMap Percent.byte ++ rest) = bs ++ componentBytes rest := by
  induction bs with
  | nil => rfl
  | cons b bs ih =>
    rw [List.flatMap_cons, List.append_assoc, componentBytes_byte, ih, List.cons_append]

theorem componentBytes_written (c : Char) (rest : List Char) :
    componentBytes (written c ++ rest) = String.utf8EncodeChar c ++ componentBytes rest := by
  rw [written]
  by_cases hblank : c = ' '
  · rw [if_pos hblank, hblank]
    rfl
  · rw [if_neg hblank]
    by_cases hunreserved : Percent.isUnreserved c = true
    · obtain ⟨-, -, hplus, hpercent⟩ := Percent.ne_of_isUnreserved hunreserved
      rw [if_pos hunreserved, List.cons_append, List.nil_append, componentBytes]
      · exact hplus
      · exact fun _ _ _ h => absurd h hpercent
    · rw [if_neg hunreserved, Percent.char, componentBytes_bytes]

theorem componentBytes_component (cs : List Char) :
    componentBytes (component cs) = Utf8.encodeChars cs := by
  rw [component_eq]
  induction cs with
  | nil => rfl
  | cons c cs ih =>
    rw [List.flatMap_cons, componentBytes_written, ih, Utf8.encodeChars, Utf8.encodeChars,
      List.flatMap_cons]

theorem decodeComponent_component (cs : List Char) :
    decodeComponent (component cs) = cs.map .char := by
  rw [decodeComponent, componentBytes_component, Utf8.decodeLenient_encodeChars]

/-! ## Fields -/

theorem ne_of_mem_field {name value : List Char} {c : Char} (h : c ∈ field name value) :
    c ≠ '&' := by
  rw [field] at h
  rcases List.mem_append.1 h with h | h
  · exact (ne_of_mem_component h).1
  · rcases List.mem_cons.1 h with rfl | h
    · decide
    · exact (ne_of_mem_component h).1

/-- The ampersands of a form stand between its fields alone. -/
theorem splitAtChar_joined {fields : List (List Char × List Char)} (h : fields ≠ []) :
    splitAtChar '&' (joined fields) = fields.map fun f => field f.1 f.2 := by
  have hfield (name value : List Char) : ∀ c ∈ field name value, (c == '&') = false :=
    fun c hc => beq_eq_false_iff_ne.2 (ne_of_mem_field hc)
  fun_induction joined fields with
  | case1 => exact absurd rfl h
  | case2 name value => rw [splitAtChar, splitWhere_of_forall (hfield name value)]; rfl
  | case3 name value rest hrest ih =>
    have htail : splitAtChar '&' (joined rest) = rest.map fun f => field f.1 f.2 := ih (by
      rintro rfl
      exact hrest rfl)
    rw [splitAtChar] at htail ⊢
    have hfront (bs : List Char) : splitWhere (· == '&') (field name value ++ '&' :: bs) =
        splitWhere (· == '&') (field name value) ++ splitWhere (· == '&') bs :=
      splitWhere_append rfl _ bs
    rw [hfront, splitWhere_of_forall (hfield name value), htail]
    rfl

theorem cut_field (name value : List Char) :
    (field name value).takeWhile (· != '=') = component name ∧
      ((field name value).dropWhile (· != '=')).drop 1 = component value := by
  have hname : ∀ c ∈ component name, (c != '=') = true :=
    fun c hc => bne_iff_ne.2 (ne_of_mem_component hc).2
  constructor
  · rw [field, List.takeWhile_append_of_pos hname]
    simp
  · rw [field, List.dropWhile_append_of_pos hname]
    simp

/-! ## Forms -/

theorem decode_joined (fields : List (List Char × List Char)) :
    decode (String.ofList (joined fields)) =
      fields.map fun f => (f.1.map .char, f.2.map .char) := by
  by_cases hfields : fields = []
  · rw [hfields]
    rfl
  · have hnonempty : ∀ piece ∈ fields.map (fun f => field f.1 f.2), (!piece.isEmpty) = true := by
      intro piece hpiece
      obtain ⟨f, -, rfl⟩ := List.mem_map.1 hpiece
      simp [field]
    rw [decode, String.toList_ofList, splitAtChar_joined hfields,
      List.filter_eq_self.2 hnonempty, List.map_map]
    refine List.map_congr_left fun f _ => ?_
    dsimp only [Function.comp_apply]
    rw [(cut_field f.1 f.2).1, (cut_field f.1 f.2).2, decodeComponent_component,
      decodeComponent_component]

def fieldCharacters (f : String × Text) : Except EncodeError (List Char × List Char) := do
  return (f.1.toList, ← Encoding.characters f.2)

theorem encode_eq (fields : List (String × Text)) :
    encode fields =
      (fields.mapM fieldCharacters).map fun read => String.ofList (joined read) := by
  rw [encode]
  show (fields.mapM fieldCharacters >>= _) = _
  cases fields.mapM fieldCharacters <;> rfl

theorem mapM_fieldCharacters_eq_ok {fields : List (String × Text)}
    {read : List (List Char × List Char)} (h : fields.mapM fieldCharacters = .ok read) :
    fields.map (fun f => (Text.ofString f.1, f.2)) =
      read.map fun f => (f.1.map .char, f.2.map .char) := by
  induction fields generalizing read with
  | nil =>
    cases h
    rfl
  | cons f fields ih =>
    rw [List.mapM_cons, fieldCharacters] at h
    cases hvalue : Encoding.characters f.2 with
    | error e =>
      rw [hvalue] at h
      cases h
    | ok value =>
      rw [hvalue] at h
      cases hrest : fields.mapM fieldCharacters with
      | error e =>
        rw [hrest] at h
        cases h
      | ok rest =>
        rw [hrest] at h
        cases h
        rw [List.map_cons, List.map_cons, ih hrest, ← Encoding.characters_eq_ok_iff.1 hvalue]
        rfl

/-- An encoded form is read back as it was. -/
theorem decode_of_encode {fields : List (String × Text)} {s : String}
    (h : encode fields = .ok s) :
    decode s = fields.map fun f => (Text.ofString f.1, f.2) := by
  rw [encode_eq] at h
  cases hread : fields.mapM fieldCharacters with
  | error e =>
    rw [hread] at h
    cases h
  | ok read =>
    rw [hread] at h
    cases h
    rw [decode_joined, mapM_fieldCharacters_eq_ok hread]

theorem exists_mapM_iff {fields : List (String × Text)} :
    (∃ read, fields.mapM fieldCharacters = .ok read) ↔ ∀ f ∈ fields, Json.Whole f.2 := by
  induction fields with
  | nil => exact ⟨fun _ f hf => (by cases hf), fun _ => ⟨[], rfl⟩⟩
  | cons f fields ih =>
    rw [List.forall_mem_cons, ← ih, ← Encoding.exists_characters_iff, List.mapM_cons,
      fieldCharacters]
    cases Encoding.characters f.2 with
    | error e => exact ⟨fun ⟨_, h⟩ => (by cases h), fun ⟨⟨_, h⟩, _⟩ => (by cases h)⟩
    | ok value =>
      cases fields.mapM fieldCharacters with
      | error e => exact ⟨fun ⟨_, h⟩ => (by cases h), fun ⟨_, _, h⟩ => (by cases h)⟩
      | ok rest => exact ⟨fun _ => ⟨⟨_, rfl⟩, _, rfl⟩, fun _ => ⟨_, rfl⟩⟩

/-- A form can be encoded exactly if none of its texts holds a surrogate. -/
theorem exists_encode_iff {fields : List (String × Text)} :
    (∃ s, encode fields = .ok s) ↔ ∀ f ∈ fields, Json.Whole f.2 := by
  rw [← exists_mapM_iff, encode_eq]
  cases fields.mapM fieldCharacters with
  | error e => exact ⟨fun ⟨_, h⟩ => (by cases h), fun ⟨_, h⟩ => (by cases h)⟩
  | ok read => exact ⟨fun _ => ⟨_, rfl⟩, fun _ => ⟨_, rfl⟩⟩

end Form

end CredentialHelper
