import CredentialHelper.Proofs.JsonReadable
import CredentialHelper.Proofs.Utf8
import CredentialHelper.Store.Contents

/-!
# The contents of a JSON file

Nothing that is written holds a carriage return, so a document that is written into a file is read
back from it; and whatever is read from a file can be written and read back.
-/

namespace CredentialHelper

namespace Json

open Reader

/-! ## Carriage returns -/

theorem Digits.no_return {ds : List Char} (h : Digits ds) : '\r' ∉ ds :=
  fun hmem => absurd (h _ hmem) (by decide)

theorem WholePart.no_return {ds : List Char} (h : WholePart ds) : '\r' ∉ ds := by
  cases h with
  | zero => decide
  | digits hc hds => exact hds.no_return

theorem FloatText.no_return {cs : List Char} (h : FloatText cs) : '\r' ∉ cs := by
  cases h with
  | point hds hfs hne => simp [hds.no_return, hfs.no_return]
  | power hds negative hes hne => cases negative <;> simp [hds.no_return, hes.no_return]
  | pointPower hds hfs hne negative hes hne' =>
    cases negative <;> simp [hds.no_return, hfs.no_return, hes.no_return]

theorem no_return_symbol (s : Symbol) : '\r' ∉ Writer.symbol s :=
  fun hmem => absurd (le_of_mem_symbol hmem) (by decide)

theorem no_return_string (t : Text) : '\r' ∉ Writer.string t := by
  rw [Writer.string]
  simp [no_return_symbol]

theorem no_return_integer (n : Int) : '\r' ∉ Writer.integer n := by
  have hdigits (m : Nat) : '\r' ∉ m.repr.toList := by
    rw [Nat.toList_repr]
    exact (digits_toDigits m).no_return
  rw [Writer.integer, Int.toString_eq_repr, Int.repr_eq_if]
  split
  · exact hdigits _
  · rw [String.toList_append, List.mem_append, not_or]
    exact ⟨by decide, hdigits _⟩

theorem no_return_float (x : Binary64) : '\r' ∉ Writer.float x := by
  cases x with
  | nan => decide
  | infinite negative => cases negative <;> decide
  | finite negative m e =>
    obtain ⟨cs, hcs, htext⟩ := exists_floatText negative m e
    rw [htext]
    cases negative <;> simp [hcs.no_return]

theorem no_return_gap (layout : Layout) (level : Nat) : '\r' ∉ Writer.gap layout level := by
  cases layout <;> simp [Writer.gap]

theorem no_return_separator (layout : Layout) (level : Nat) :
    '\r' ∉ Writer.separator layout level := by
  cases layout <;> simp [Writer.separator, no_return_gap]

mutual

theorem no_return_value (layout : Layout) (level : Nat) (v : Json) :
    '\r' ∉ Writer.value layout level v := by
  match v with
  | .null => rw [Writer.value]; decide
  | .bool b => cases b <;> (rw [Writer.value]; decide)
  | .int n =>
    rw [Writer.value]
    exact no_return_integer n
  | .float x =>
    rw [Writer.value]
    exact no_return_float x
  | .string t =>
    rw [Writer.value]
    exact no_return_string t
  | .array [] => rw [Writer.value]; decide
  | .array (v :: rest) =>
    rw [Writer.value]
    simp [no_return_gap, no_return_value layout (level + 1) v,
      no_return_items layout (level + 1) rest]
  | .object [] => rw [Writer.value]; decide
  | .object ((k, v) :: rest) =>
    rw [Writer.value]
    simp [no_return_gap, no_return_string, no_return_value layout (level + 1) v,
      no_return_members layout (level + 1) rest]

theorem no_return_items (layout : Layout) (level : Nat) (items : List Json) :
    '\r' ∉ Writer.items layout level items := by
  match items with
  | [] => rw [Writer.items]; decide
  | v :: rest =>
    rw [Writer.items]
    simp [no_return_separator, no_return_value layout level v, no_return_items layout level rest]

theorem no_return_members (layout : Layout) (level : Nat) (members : List (Text × Json)) :
    '\r' ∉ Writer.members layout level members := by
  match members with
  | [] => rw [Writer.members]; decide
  | (k, v) :: rest =>
    rw [Writer.members]
    simp [no_return_separator, no_return_string, no_return_value layout level v,
      no_return_members layout level rest]

end

end Json

/-! ## Reading what was written -/

open Json

theorem unifyLines_of_no_return {t : Text} (h : .char '\r' ∉ t) : unifyLines t = t := by
  fun_induction unifyLines t
  case case1 => rfl
  case case2 => exact absurd (List.mem_cons_self ..) h
  case case3 => exact absurd (List.mem_cons_self ..) h
  case case4 ih => rw [ih fun hmem => h (List.mem_cons_of_mem _ hmem)]

theorem whole_unifyLines {t : Text} (h : Whole t) : Whole (unifyLines t) := by
  have hcons {s : Symbol} {t : Text} (hs : s.isSurrogate = false) (ht : Whole t) :
      Whole (s :: t) := by
    intro s' hs'
    rcases List.mem_cons.1 hs' with rfl | hs'
    · exact hs
    · exact ht s' hs'
  fun_induction unifyLines t
  case case1 => exact h
  case case2 ih => exact hcons rfl (ih (h.drop 2))
  case case3 ih => exact hcons rfl (ih (h.drop 1))
  case case4 ih => exact hcons (h _ (List.mem_cons_self ..)) (ih (h.drop 1))

namespace FileTree

variable {tree : FileTree} {path : Text}

theorem readJson_of_bytes {bytes : Bytes} {name : Bytes} (hname : FileName.encode path = .ok name)
    (hbytes : tree.read path = .ok bytes) {t : Text} (ht : Utf8.decode bytes = .ok t) :
    tree.readJson path = (Json.parse (unifyLines t)).mapError .document := by
  rw [readJson, readText, hname, hbytes]
  simp only [ht]

theorem exists_parse_jsonBytes {v : Json} (hv : Readable 0 v) :
    ∃ t, Utf8.decode (jsonBytes v) = .ok t ∧ Json.parse (unifyLines t) = .ok (reread v) := by
  have hreturn : Symbol.char '\r' ∉ Text.ofString (v.render .block) := by
    rw [Text.ofString, render, String.toList_ofList, List.mem_map]
    rintro ⟨c, hc, heq⟩
    cases heq
    exact no_return_value .block 0 v hc
  refine ⟨_, Utf8.decode_encode _, ?_⟩
  rw [unifyLines_of_no_return hreturn, parse_render hv]

theorem readJson_jsonBytes {name : Bytes} (hname : FileName.encode path = .ok name) {v : Json}
    (hbytes : tree.read path = .ok (jsonBytes v)) (hv : Readable 0 v) :
    tree.readJson path = .ok (reread v) := by
  obtain ⟨t, ht, hparse⟩ := exists_parse_jsonBytes hv
  rw [readJson_of_bytes hname hbytes ht, hparse]
  rfl

theorem readText_eq_ok {t : Text} (h : tree.readText path = .ok t) :
    ∃ mode content text, tree.stat path = .ok (.file mode content) ∧
      Utf8.decode content = .ok text ∧ t = unifyLines text := by
  rw [readText] at h
  split at h
  · cases h
  · split at h
    · cases h
    · next bytes hbytes =>
      split at h
      · cases h
      · next text htext =>
        cases h
        rw [read] at hbytes
        split at hbytes
        · cases hbytes
        · cases hbytes
        · next hstat =>
          cases hbytes
          exact ⟨_, bytes, text, hstat, htext, rfl⟩

theorem readJson_eq_ok_iff {v : Json} :
    tree.readJson path = .ok v ↔ ∃ t, tree.readText path = .ok t ∧ parse t = .ok v := by
  rw [readJson]
  cases tree.readText path with
  | error c => simp
  | ok t =>
    simp only [Except.ok.injEq, exists_eq_left']
    cases parse t <;> simp [Except.mapError]

/-- Whatever is read from a file can be written and read back. -/
theorem readable_of_readJson {v : Json} (h : tree.readJson path = .ok v) : Readable 0 v := by
  obtain ⟨t, ht, hparse⟩ := readJson_eq_ok_iff.1 h
  obtain ⟨mode, content, text, -, hdecode, rfl⟩ := readText_eq_ok ht
  exact readable_of_parse (whole_unifyLines (Utf8.isSurrogate_of_decode hdecode)) hparse

end FileTree

end CredentialHelper
