import CredentialHelper.Proofs.JsonSpelling

/-!
# Documents that are written

A value that is written in either layout is read back, except that a floating-point number becomes
the one of its text (`reread`): what is written is a spelling of the value that is read back.
-/

namespace CredentialHelper

namespace Json

open Reader

/-! ## Values as they are read back -/

mutual

/-- The value as it is read back: floating-point numbers are those of their texts. -/
def reread : Json → Json
  | .null => .null
  | .bool b => .bool b
  | .int n => .int n
  | .float x => .float (rereadFloat x)
  | .string t => .string t
  | .array items => .array (rereadItems items)
  | .object members => .object (rereadMembers members)

def rereadItems : List Json → List Json
  | [] => []
  | v :: rest => reread v :: rereadItems rest

def rereadMembers : List (Text × Json) → List (Text × Json)
  | [] => []
  | (k, v) :: rest => (k, reread v) :: rereadMembers rest

end

/-- What is read inside `depth` arrays and objects and, if it is written, read back: strings without
split pairs, integers of not too many digits, different keys, and no deeper nesting than is read. -/
inductive Readable : Nat → Json → Prop
  | null {depth : Nat} : Readable depth .null
  | bool {depth : Nat} (b : Bool) : Readable depth (.bool b)
  | int {depth : Nat} {n : Int} (h : Short n) : Readable depth (.int n)
  | float {depth : Nat} (x : Binary64) : Readable depth (.float x)
  | string {depth : Nat} {t : Text} (h : Joined t) : Readable depth (.string t)
  | array {depth : Nat} {items : List Json} (hdepth : depth < maxDepth)
      (h : ∀ v ∈ items, Readable (depth + 1) v) : Readable depth (.array items)
  | object {depth : Nat} {members : Members} (hdepth : depth < maxDepth)
      (hkeys : members.keys.Nodup) (hjoined : ∀ k ∈ members.keys, Joined k)
      (h : ∀ p ∈ members, Readable (depth + 1) p.2) : Readable depth (.object members)

theorem rereadItems_eq_map (items : List Json) : rereadItems items = items.map reread := by
  induction items with
  | nil => rfl
  | cons v rest ih => rw [rereadItems, ih, List.map_cons]

theorem rereadMembers_eq_map (members : Members) :
    rereadMembers members = members.map fun p => (p.1, reread p.2) := by
  induction members with
  | nil => rfl
  | cons p rest ih => rw [rereadMembers, ih, List.map_cons]

/-! ## What is written -/

def lead (layout : Layout) (level : Nat) : List Char :=
  match layout with
  | .line => [' ']
  | .block => Writer.gap .block level

theorem separator_eq (layout : Layout) (level : Nat) :
    Writer.separator layout level = ',' :: lead layout level := by
  cases layout <;> rfl

theorem blanks_gap (layout : Layout) (level : Nat) : Blanks (Writer.gap layout level) := by
  cases layout with
  | line => exact blanks_nil
  | block =>
    intro c hc
    rcases List.mem_cons.1 hc with rfl | hc
    · rfl
    · rw [(List.mem_replicate.1 hc).2]
      rfl

theorem blanks_lead (layout : Layout) (level : Nat) : Blanks (lead layout level) := by
  cases layout with
  | line =>
    intro c hc
    rw [List.mem_singleton.1 hc]
    rfl
  | block => exact blanks_gap .block level

section

variable {α β γ : Type} {layout : Layout} {level : Nat}

def setApart (layout : Layout) (level : Nat) (make : (before : List Char) → Blanks before → α → β) :
    List α → List β
  | [] => []
  | x :: more =>
    make _ (blanks_gap layout level) x :: more.map (make _ (blanks_lead layout level))

theorem exists_of_mem_setApart {make : (before : List Char) → Blanks before → α → β} {xs : List α}
    {y : β} (h : y ∈ setApart layout level make xs) :
    ∃ before hbefore, ∃ x ∈ xs, y = make before hbefore x := by
  cases xs with
  | nil => cases h
  | cons x more =>
    rcases List.mem_cons.1 h with rfl | h
    · exact ⟨_, _, x, List.mem_cons_self .., rfl⟩
    · obtain ⟨u, hu, rfl⟩ := List.mem_map.1 h
      exact ⟨_, _, u, List.mem_cons_of_mem _ hu, rfl⟩

theorem map_setApart {make : (before : List Char) → Blanks before → α → β} {f : β → γ} {g : α → γ}
    (h : ∀ before hbefore x, f (make before hbefore x) = g x) (xs : List α) :
    (setApart layout level make xs).map f = xs.map g := by
  cases xs with
  | nil => rfl
  | cons x more =>
    rw [setApart, List.map_cons, h, List.map_map, List.map_cons]
    exact congrArg _ (List.map_congr_left fun u _ => h _ _ u)

def writtenPart (layout : Layout) (level : Nat) (before : List Char) (h : Blanks before)
    (v : Json) : Part :=
  ⟨reread v, Writer.value layout level v, before, [], h, blanks_nil⟩

def writtenField (layout : Layout) (level : Nat) (before : List Char) (h : Blanks before)
    (p : Text × Json) : Field :=
  ⟨writtenPart layout level _ (blanks_lead .line level) p.2, p.1, p.1.flatMap Writer.symbol, before,
    [], writtenText_flatMap p.1, h, blanks_nil⟩

theorem whole_writtenPart (before : List Char) (h : Blanks before) (v : Json) :
    (writtenPart layout level before h v).whole = before ++ Writer.value layout level v :=
  List.append_nil _

theorem whole_writtenField (before : List Char) (h : Blanks before) (k : Text) (v : Json) :
    (writtenField layout level before h (k, v)).whole =
      before ++ (Writer.string k ++ ':' :: ' ' :: Writer.value layout level v) := by
  simp [Field.whole, writtenField, whole_writtenPart, Writer.string, lead]

theorem append_items (before : List Char) (h : Blanks before) (v : Json) (more : List Json) :
    before ++ Writer.value layout level v ++ Writer.items layout level more =
      [','].intercalate ((writtenPart layout level before h v ::
        more.map (writtenPart layout level _ (blanks_lead layout level))).map (·.whole)) := by
  induction more generalizing v before with
  | nil =>
    rw [Writer.items, List.append_nil, List.map_nil, List.map_cons, List.map_nil,
      List.intercalate_singleton, whole_writtenPart]
  | cons u more ih =>
    rw [List.map_cons, List.map_cons, List.map_cons, List.intercalate_cons_cons, ← List.map_cons,
      ← ih _ (blanks_lead layout level), whole_writtenPart, Writer.items, separator_eq]
    simp

theorem append_members (before : List Char) (h : Blanks before) (k : Text) (v : Json)
    (more : Members) :
    before ++ (Writer.string k ++ ':' :: ' ' :: Writer.value layout level v) ++
        Writer.members layout level more =
      [','].intercalate ((writtenField layout level before h (k, v) ::
        more.map (writtenField layout level _ (blanks_lead layout level))).map (·.whole)) := by
  induction more generalizing k v before with
  | nil =>
    rw [Writer.members, List.append_nil, List.map_nil, List.map_cons, List.map_nil,
      List.intercalate_singleton, whole_writtenField]
  | cons p more ih =>
    obtain ⟨k', u⟩ := p
    rw [List.map_cons, List.map_cons, List.map_cons, List.intercalate_cons_cons, ← List.map_cons,
      ← ih _ (blanks_lead layout level), whole_writtenField, Writer.members, separator_eq]
    simp

theorem value_array (layout : Layout) (level : Nat) (items : List Json) :
    ∃ closing, Blanks closing ∧ Writer.value layout level (.array items) =
      '[' :: [','].intercalate ((setApart layout (level + 1)
        (writtenPart layout (level + 1)) items).map (·.whole)) ++ closing ++ [']'] := by
  cases items with
  | nil => exact ⟨[], blanks_nil, by rw [Writer.value]; rfl⟩
  | cons v more =>
    refine ⟨_, blanks_gap layout level, ?_⟩
    rw [Writer.value, setApart, ← append_items]
    rfl

theorem value_object (layout : Layout) (level : Nat) (members : Members) :
    ∃ closing, Blanks closing ∧ Writer.value layout level (.object members) =
      '\x7b' :: [','].intercalate ((setApart layout (level + 1)
        (writtenField layout (level + 1)) members).map (·.whole)) ++ closing ++ ['\x7d'] := by
  cases members with
  | nil => exact ⟨[], blanks_nil, by rw [Writer.value]; rfl⟩
  | cons p more =>
    refine ⟨_, blanks_gap layout level, ?_⟩
    rw [Writer.value, setApart, ← append_members]
    rfl

end

theorem spells_integer {n : Int} (h : Short n) (depth : Nat) :
    Spells depth (.int n) (Writer.integer n) := by
  cases n with
  | ofNat n =>
    have hwhole := @Spells.whole depth _ (wholePart_toDigits n) h
    rwa [Nat.ofDigitChars_ten_toDigits, ← integer_natCast] at hwhole
  | negSucc n =>
    have hnegative := @Spells.negative depth _ (wholePart_toDigits (n + 1)) h
    rwa [Nat.ofDigitChars_ten_toDigits, ← integer_negSucc] at hnegative

/-- What is written is a spelling of the value as it is read back. -/
theorem Readable.spells {depth : Nat} {v : Json} (h : Readable depth v) (layout : Layout)
    (level : Nat) : Spells depth (reread v) (Writer.value layout level v) := by
  induction h generalizing level with
  | null =>
    rw [reread, Writer.value]
    exact .null
  | bool b =>
    rw [reread, Writer.value]
    exact .bool b
  | int h =>
    rw [reread, Writer.value]
    exact spells_integer h _
  | float x =>
    rw [reread, Writer.value]
    exact .float x
  | string h =>
    rw [reread, Writer.value]
    exact .string h (writtenText_flatMap _)
  | @array depth items hdepth h ih =>
    obtain ⟨closing, hclosing, hvalue⟩ := value_array layout level items
    have hvalues : (setApart layout (level + 1) (writtenPart layout (level + 1)) items).map
        (·.value) = items.map reread :=
      map_setApart (f := Part.value) (g := reread) (fun _ _ _ => rfl) items
    rw [hvalue, reread, rereadItems_eq_map, ← hvalues]
    refine .array hdepth hclosing fun p hp => ?_
    obtain ⟨before, hbefore, v, hv, rfl⟩ := exists_of_mem_setApart hp
    exact ih v hv (level + 1)
  | @object depth members hdepth hkeys hjoined h ih =>
    obtain ⟨closing, hclosing, hvalue⟩ := value_object layout level members
    have hpairs : (setApart layout (level + 1) (writtenField layout (level + 1)) members).map
        (·.pair) = members.map fun p => (p.1, reread p.2) :=
      map_setApart (f := Field.pair) (g := fun p => (p.1, reread p.2)) (fun _ _ _ => rfl) members
    have hdistinct : (Members.keys (members.map fun p => (p.1, reread p.2))).Nodup := by
      rwa [Members.keys, List.map_map]
    rw [hvalue, reread, rereadMembers_eq_map, ← Members.ofPairs_of_nodup hdistinct]
    refine hpairs ▸ .object hdepth hclosing (fun f hf => ?_) fun f hf => ?_
    · obtain ⟨before, hbefore, p, hp, rfl⟩ := exists_of_mem_setApart hf
      exact hjoined p.1 (List.mem_map_of_mem hp)
    · obtain ⟨before, hbefore, p, hp, rfl⟩ := exists_of_mem_setApart hf
      exact ih p hp (level + 1)

theorem Readable.document {v : Json} (h : Readable 0 v) (layout : Layout) :
    Document (reread v) (Writer.value layout 0 v) := by
  have hdocument := Document.mk (writtenPart layout 0 [] blanks_nil v) (h.spells layout 0)
  rwa [whole_writtenPart] at hdocument

/-- A document that is written is read back. -/
theorem parse_render {v : Json} (h : Readable 0 v) (layout : Layout) :
    parse (Text.ofString (v.render layout)) = .ok (reread v) := by
  rw [render, Text.ofString, String.toList_ofList]
  exact (h.document layout).parse

/-! ## Members that are read back -/

theorem get?_rereadMembers (key : Text) (members : Members) :
    Members.get? key (rereadMembers members) = (members.get? key).map reread := by
  induction members with
  | nil => rfl
  | cons p rest ih =>
    rw [rereadMembers, Members.get?, Members.get?]
    by_cases hk : p.1 = key
    · rw [if_pos hk, if_pos hk, Option.map_some]
    · rw [if_neg hk, if_neg hk, ih]

theorem rereadMembers_insert (key : Text) (v : Json) (members : Members) :
    rereadMembers (members.insert key v) =
      Members.insert key (reread v) (rereadMembers members) := by
  induction members with
  | nil => rfl
  | cons p rest ih =>
    rw [rereadMembers, Members.insert, Members.insert]
    by_cases hk : p.1 = key
    · rw [if_pos hk, if_pos hk, rereadMembers]
    · rw [if_neg hk, if_neg hk, rereadMembers, ih]

inductive FloatFree : Json → Prop
  | null : FloatFree .null
  | bool (b : Bool) : FloatFree (.bool b)
  | int (n : Int) : FloatFree (.int n)
  | string (t : Text) : FloatFree (.string t)
  | array {items : List Json} (h : ∀ v ∈ items, FloatFree v) : FloatFree (.array items)
  | object {members : Members} (h : ∀ p ∈ members, FloatFree p.2) : FloatFree (.object members)

theorem floatFree_ofMembers {members : List (String × Json)} (h : ∀ p ∈ members, FloatFree p.2) :
    FloatFree (Json.ofMembers members) := by
  refine .object fun p hp => ?_
  obtain ⟨q, hq, rfl⟩ := List.mem_map.1 hp
  exact h q hq

/-- Without floating-point numbers a value is read back as it is. -/
theorem FloatFree.reread {v : Json} (h : FloatFree v) : reread v = v := by
  induction h with
  | null => rw [Json.reread]
  | bool b => rw [Json.reread]
  | int n => rw [Json.reread]
  | string t => rw [Json.reread]
  | array h ih =>
    rw [Json.reread, rereadItems_eq_map, List.map_congr_left ih, List.map_id']
  | object h ih =>
    rw [Json.reread, rereadMembers_eq_map, List.map_congr_left fun p hp => by rw [ih p hp],
      List.map_id']

theorem FloatFree.rereadMembers {members : Members} (h : ∀ p ∈ members, FloatFree p.2) :
    rereadMembers members = members := by
  rw [rereadMembers_eq_map, List.map_congr_left fun p hp => by rw [(h p hp).reread], List.map_id']

end Json

end CredentialHelper
