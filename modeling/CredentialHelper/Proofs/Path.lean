import CredentialHelper.Host.Path

/-!
# Names and directories of a path

A path is a directory part followed by a last name (`splitLast_spec`), and its names are those of
the directory part and the last name.  A suffix of the last name leaves the directory part alone.
-/

namespace CredentialHelper

section Split

variable {α : Type} {isSeparator : α → Bool}

theorem splitWhere_eq_splitOnP (isSeparator : α → Bool) (as : List α) :
    splitWhere isSeparator as = as.splitOnP isSeparator := by
  induction as with
  | nil => rw [List.splitOnP_nil, splitWhere]
  | cons a as ih =>
    rw [splitWhere, List.splitOnP_cons_eq_if_modifyHead, ih]
    by_cases ha : isSeparator a = true
    · rw [if_pos ha, if_pos ha]
    · rw [if_neg ha, if_neg ha]
      cases hsplit : as.splitOnP isSeparator with
      | nil => exact absurd hsplit (List.splitOnP_ne_nil _ _)
      | cons piece rest => rfl

theorem splitWhere_append {separator : α} (hseparator : isSeparator separator = true)
    (as bs : List α) :
    splitWhere isSeparator (as ++ separator :: bs) =
      splitWhere isSeparator as ++ splitWhere isSeparator bs := by
  simp only [splitWhere_eq_splitOnP]
  exact List.splitOnP_append_cons as bs hseparator

theorem splitWhere_of_forall {as : List α} (h : ∀ a ∈ as, isSeparator a = false) :
    splitWhere isSeparator as = [as] := by
  rw [splitWhere_eq_splitOnP, List.splitOnP_eq_singleton h]

theorem mem_of_mem_splitWhere {as piece : List α} {a : α}
    (hpiece : piece ∈ splitWhere isSeparator as) (ha : a ∈ piece) :
    a ∈ as ∧ isSeparator a = false := by
  induction as generalizing piece with
  | nil =>
    rw [splitWhere, List.mem_singleton] at hpiece
    rw [hpiece] at ha
    cases ha
  | cons b as ih =>
    have hrest {piece : List α} (hpiece : piece ∈ splitWhere isSeparator as) (ha : a ∈ piece) :
        a ∈ b :: as ∧ isSeparator a = false := (ih hpiece ha).imp_left (List.mem_cons_of_mem _)
    rw [splitWhere] at hpiece
    split at hpiece
    · rcases List.mem_cons.1 hpiece with rfl | hmem
      · cases ha
      · exact hrest hmem ha
    · next hb =>
      split at hpiece
      · next hsplit => exact absurd hsplit (splitWhere_ne_nil _ _)
      · next first rest hsplit =>
        rcases List.mem_cons.1 hpiece with rfl | hmem
        · rcases List.mem_cons.1 ha with rfl | ha
          · exact ⟨List.mem_cons_self, (Bool.not_eq_true _).mp hb⟩
          · exact hrest (hsplit ▸ List.mem_cons_self) ha
        · exact hrest (hsplit ▸ List.mem_cons_of_mem _ hmem) ha

end Split

namespace Path

/-- What holds of the directory part of a path: it is empty or ends in a slash. -/
def Closed (head : Text) : Prop := head = [] ∨ ∃ front, head = front ++ [slash]

theorem splitLast_eq {head tail : Text} (hhead : Closed head) (htail : slash ∉ tail) :
    splitLast (head ++ tail) = (head, tail) := by
  have hall : ∀ s ∈ tail.reverse, (s != slash) = true := by
    intro s hs
    rw [bne_iff_ne]
    rintro rfl
    exact htail (List.mem_reverse.1 hs)
  have hstop : head.reverse.takeWhile (· != slash) = [] := by
    rcases hhead with rfl | ⟨front, rfl⟩
    · rfl
    · simp
  have hlast : ((head ++ tail).reverse.takeWhile (· != slash)).reverse = tail := by
    rw [List.reverse_append, List.takeWhile_append_of_pos hall, hstop, List.append_nil,
      List.reverse_reverse]
  rw [splitLast, hlast]
  simp

theorem exists_splitLast (path : Text) :
    ∃ head tail, path = head ++ tail ∧ Closed head ∧ slash ∉ tail := by
  induction path with
  | nil => exact ⟨[], [], rfl, .inl rfl, List.not_mem_nil⟩
  | cons s path ih =>
    obtain ⟨head, tail, rfl, hhead, htail⟩ := ih
    rcases hhead with rfl | ⟨front, rfl⟩
    · by_cases hs : s = slash
      · exact ⟨[s], tail, rfl, .inr ⟨[], by rw [hs]; rfl⟩, htail⟩
      · refine ⟨[], s :: tail, rfl, .inl rfl, fun hmem => ?_⟩
        rcases List.mem_cons.1 hmem with heq | hmem
        · exact hs heq.symm
        · exact htail hmem
    · exact ⟨s :: (front ++ [slash]), tail, rfl, .inr ⟨s :: front, rfl⟩, htail⟩

theorem names_append (as bs : Text) : names (as ++ slash :: bs) = names as ++ names bs := by
  rw [names, splitAtChar, splitWhere_append (by simp), List.filter_append]
  rfl

theorem names_of_not_mem {name : Text} (h : slash ∉ name) :
    names name = if name = [] then [] else [name] := by
  have hall : ∀ s ∈ name, (s == slash) = false := by
    intro s hs
    rw [beq_eq_false_iff_ne]
    rintro rfl
    exact h hs
  rw [names, splitAtChar, splitWhere_of_forall hall]
  by_cases hempty : name = []
  · rw [if_pos hempty, hempty]
    rfl
  · rw [if_neg hempty]
    simp [hempty]

theorem names_replicate (as : Text) (n : Nat) :
    names (as ++ List.replicate n slash) = names as := by
  induction n with
  | zero => rw [List.replicate_zero, List.append_nil]
  | succ n ih =>
    rw [List.replicate_succ', ← List.append_assoc, names_append, ih]
    simp [names, splitAtChar, splitWhere]

theorem exists_dropSlashes (path : Text) :
    ∃ n, path = dropSlashes path ++ List.replicate n slash := by
  have hsplit : path.reverse.takeWhile (· == slash) ++ path.reverse.dropWhile (· == slash) =
      path.reverse := List.takeWhile_append_dropWhile
  have hslashes : path.reverse.takeWhile (· == slash) =
      List.replicate (path.reverse.takeWhile (· == slash)).length slash := by
    refine List.eq_replicate_iff.2 ⟨rfl, fun s hs => ?_⟩
    exact eq_of_beq (List.all_eq_true.1 List.all_takeWhile s hs)
  refine ⟨(path.reverse.takeWhile (· == slash)).length, ?_⟩
  rw [dropSlashes, ← List.reverse_replicate, ← hslashes, ← List.reverse_append, hsplit,
    List.reverse_reverse]

theorem names_dropSlashes (path : Text) : names (dropSlashes path) = names path := by
  obtain ⟨n, hn⟩ := exists_dropSlashes path
  conv => rhs; rw [hn, names_replicate]

theorem names_closed {head : Text} (h : Closed head) (tail : Text) :
    names (head ++ tail) = names head ++ names tail := by
  rcases h with rfl | ⟨front, rfl⟩
  · rfl
  · rw [List.append_assoc, List.singleton_append, names_append, names_append front []]
    simp [names, splitAtChar, splitWhere]

theorem dropSlashes_front (path : Text) : dropSlashes path <+: path := by
  obtain ⟨n, hn⟩ := exists_dropSlashes path
  exact ⟨_, hn.symm⟩

/-! ## The directory part and the last name -/

theorem split_append {head tail : Text} (hhead : Closed head) (htail : slash ∉ tail) :
    split (head ++ tail) =
      (if head.all (· == slash) then head else dropSlashes head, tail) := by
  rw [split, splitLast_eq hhead htail]

theorem split_of_not_mem {name : Text} (h : slash ∉ name) : split name = ([], name) :=
  split_append (.inl rfl) h

theorem split_spec (path : Text) :
    (split path).1 <+: path ∧ slash ∉ (split path).2 ∧
      names path = names (split path).1 ++ names (split path).2 := by
  obtain ⟨head, tail, rfl, hhead, htail⟩ := exists_splitLast path
  rw [split_append hhead htail, names_closed hhead]
  refine ⟨?_, htail, ?_⟩
  · split
    · exact List.prefix_append head tail
    · exact (dropSlashes_front head).trans (List.prefix_append head tail)
  · dsimp only
    split
    · rfl
    · rw [names_dropSlashes]

theorem lastName_suffix (path : Text) : (split path).2 <:+ path := by
  obtain ⟨head, tail, rfl, hhead, htail⟩ := exists_splitLast path
  rw [split_append hhead htail]
  exact List.suffix_append head tail

/-- A suffix without slashes belongs to the last name. -/
theorem split_suffix (path : Text) {suffix : Text} (h : slash ∉ suffix) :
    split (path ++ suffix) = ((split path).1, (split path).2 ++ suffix) := by
  obtain ⟨head, tail, rfl, hhead, htail⟩ := exists_splitLast path
  rw [split_append hhead htail, List.append_assoc, split_append hhead]
  intro hmem
  rcases List.mem_append.1 hmem with hmem | hmem
  · exact htail hmem
  · exact h hmem

theorem not_mem_of_directory {path : Text} (h : directory path = []) : slash ∉ path := by
  obtain ⟨head, tail, rfl, hhead, htail⟩ := exists_splitLast path
  rw [directory, split_append hhead htail] at h
  dsimp only at h
  have hnil : head = [] := by
    split at h
    · exact h
    · next hall =>
      obtain ⟨n, hn⟩ := exists_dropSlashes head
      rw [h, List.nil_append] at hn
      rw [hn] at hall
      exact absurd (List.all_eq_true.2 fun s hs => beq_iff_eq.2 (List.eq_of_mem_replicate hs)) hall
  rw [hnil]
  exact htail

theorem getLast?_of_split {path : Text} (h : (split path).2 ≠ []) :
    path.getLast? ≠ some slash := by
  obtain ⟨head, tail, rfl, hhead, htail⟩ := exists_splitLast path
  rw [split_append hhead htail] at h
  intro hlast
  rw [List.getLast?_append, Option.or_eq_some_iff, List.getLast?_eq_none_iff] at hlast
  rcases hlast with hlast | ⟨hnil, -⟩
  · exact htail (List.mem_of_getLast? hlast)
  · exact h hnil

theorem split_ne_nil {path : Text} (hne : path ≠ []) (hlast : path.getLast? ≠ some slash) :
    (split path).2 ≠ [] := by
  obtain ⟨head, tail, rfl, hhead, htail⟩ := exists_splitLast path
  rw [split_append hhead htail]
  rintro rfl
  rcases hhead with rfl | ⟨front, rfl⟩
  · exact hne rfl
  · exact hlast (by simp)

theorem names_split {path : Text} (h : (split path).2 ≠ []) :
    names path = names (directory path) ++ [(split path).2] := by
  obtain ⟨-, hslash, hnames⟩ := split_spec path
  rw [hnames, names_of_not_mem hslash, if_neg h, directory]

/-- What ends in the name of a file: neither in a slash nor in a name of dots. -/
structure EndsInName (path : Text) : Prop where
  ne_nil : (split path).2 ≠ []
  ne_dot : (split path).2 ≠ Text.ofString "."
  ne_dots : (split path).2 ≠ Text.ofString ".."

theorem EndsInName.names {path : Text} (h : EndsInName path) :
    names path = names (directory path) ++ [(split path).2] :=
  names_split h.ne_nil

theorem EndsInName.ne_empty {path : Text} (h : EndsInName path) : path ≠ [] := by
  rintro rfl
  exact h.ne_nil rfl

end Path

end CredentialHelper
