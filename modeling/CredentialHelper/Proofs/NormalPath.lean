import CredentialHelper.Proofs.FileChanges
import Mathlib.Data.List.Flatten

/-!
# Paths in normal form

The normal form of a path has its names without those of a single dot, which lead nowhere.  So a
path that leads to a name leads to the same one in its normal form, whatever the tree
(`FileTree.spot_normalize`).
-/

namespace CredentialHelper

/-- What is left out between separators is left out of the whole. -/
theorem intercalate_sublist {α : Type} (separator : List α) {parts parts' : List (List α)}
    (h : parts.Sublist parts') :
    (separator.intercalate parts).Sublist (separator.intercalate parts') := by
  induction h with
  | slnil => exact List.Sublist.refl _
  | @cons parts parts' part h ih =>
    cases parts' with
    | nil =>
      rw [List.sublist_nil.1 h]
      exact List.nil_sublist _
    | cons part' rest =>
      rw [List.intercalate_cons_cons]
      exact ih.trans (List.sublist_append_right _ _)
  | @cons_cons parts parts' part h ih =>
    cases parts with
    | nil =>
      cases parts' with
      | nil => exact List.Sublist.refl _
      | cons part' rest =>
        rw [List.intercalate_cons_cons, List.intercalate_singleton, List.append_assoc]
        exact List.sublist_append_left _ _
    | cons first rest =>
      cases parts' with
      | nil => cases h
      | cons part' rest' =>
        rw [List.intercalate_cons_cons, List.intercalate_cons_cons]
        exact (List.Sublist.refl _).append ih

namespace Path

/-- The names of a path that stay in its normal form. -/
def lasting (path : Text) : List Text :=
  (names path).filter fun (name : Text) => name != Text.ofString "."

/-- The number of slashes in front of a normal form, for the number in front of the path. -/
def rootSlashes (n : Nat) : Nat := if n = 0 then 0 else if n = 2 then 2 else 1

theorem rootSlashes_le (n : Nat) : rootSlashes n ≤ n := by
  rw [rootSlashes]
  split
  · omega
  · split <;> omega

theorem rootSlashes_eq_zero {n : Nat} : rootSlashes n = 0 ↔ n = 0 := by
  rw [rootSlashes]
  split
  · next h => simp [h]
  · next h =>
    split
    · next h' => simp [h']
    · simp [h]

theorem exists_slashes (path : Text) :
    ∃ n rest, path = List.replicate n slash ++ rest ∧ rest.head? ≠ some slash ∧
      path.takeWhile (· == slash) = List.replicate n slash := by
  have hslashes : path.takeWhile (· == slash) =
      List.replicate (path.takeWhile (· == slash)).length slash := by
    refine List.eq_replicate_iff.2 ⟨rfl, fun s hs => ?_⟩
    exact eq_of_beq (List.all_eq_true.1 List.all_takeWhile s hs)
  refine ⟨_, path.dropWhile (· == slash), ?_, ?_, hslashes⟩
  · rw [← hslashes, List.takeWhile_append_dropWhile]
  · intro hhead
    have hnot := List.head?_dropWhile_not (· == slash) path
    rw [hhead] at hnot
    exact absurd hnot (by simp)

theorem names_slashes (n : Nat) (rest : Text) :
    names (List.replicate n slash ++ rest) = names rest := by
  induction n with
  | zero => rfl
  | succ n ih =>
    rw [List.replicate_succ, List.cons_append, ← List.nil_append (slash :: _), names_append, ih]
    rfl

theorem lasting_eq {path rest : Text} {n : Nat} (hpath : path = List.replicate n slash ++ rest) :
    lasting path = lasting rest := by
  rw [lasting, hpath, names_slashes, lasting]

theorem normalize_eq {path rest : Text} {n : Nat} (hpath : path = List.replicate n slash ++ rest)
    (hslashes : path.takeWhile (· == slash) = List.replicate n slash) (h : lasting path ≠ []) :
    normalize path =
      List.replicate (rootSlashes n) slash ++ Text.join [slash] (lasting rest) := by
  have hlasting := lasting_eq hpath
  have hroot : (if n = 0 then [] else if n = 2 then [slash, slash] else [slash] : Text) =
      List.replicate (rootSlashes n) slash := by
    rw [rootSlashes]
    split
    · rfl
    · split <;> rfl
  have hkept : ((names path).filter fun (name : Text) => name != Text.ofString ".").isEmpty =
      false := List.isEmpty_eq_false_iff.2 h
  rw [normalize, hslashes, List.length_replicate, hroot, hkept, Bool.false_and,
    if_neg Bool.false_ne_true, ← hlasting]
  rfl

variable {path : Text}

theorem slash_not_mem_of_mem_names {name : Text} (h : name ∈ names path) : slash ∉ name := by
  intro hmem
  have hnot := (mem_of_mem_splitWhere (List.mem_of_mem_filter h) hmem).2
  exact absurd hnot (by simp)

theorem ne_nil_of_mem_names {name : Text} (h : name ∈ names path) : name ≠ [] := by
  have hkept := (List.mem_filter.1 h).2
  rintro rfl
  cases hkept

theorem names_join {kept : List Text} (hne : kept ≠ []) (hslash : ∀ name ∈ kept, slash ∉ name)
    (hnil : ∀ name ∈ kept, name ≠ []) : names (Text.join [slash] kept) = kept := by
  rw [names, splitAtChar, splitWhere_eq_splitOnP, ← List.splitOn_eq_splitOnP, Text.join,
    List.splitOn_intercalate slash hslash hne, List.filter_eq_self]
  intro name hname
  rw [Bool.not_eq_true', List.isEmpty_eq_false_iff]
  exact hnil name hname

theorem mem_names_of_mem_lasting {name : Text} (h : name ∈ lasting path) : name ∈ names path :=
  List.mem_of_mem_filter h

theorem names_normalize (h : lasting path ≠ []) : names (normalize path) = lasting path := by
  obtain ⟨n, rest, hpath, -, hslashes⟩ := exists_slashes path
  have hlasting := lasting_eq hpath
  rw [normalize_eq hpath hslashes h, names_slashes, ← hlasting]
  exact names_join h (fun name hname => slash_not_mem_of_mem_names (mem_names_of_mem_lasting hname))
    fun name hname => ne_nil_of_mem_names (mem_names_of_mem_lasting hname)

theorem normalize_sublist (h : lasting path ≠ []) : (normalize path).Sublist path := by
  obtain ⟨n, rest, hpath, -, hslashes⟩ := exists_slashes path
  have hparts : (lasting rest).Sublist (rest.splitOn slash) := by
    rw [List.splitOn_eq_splitOnP, ← splitWhere_eq_splitOnP]
    exact List.filter_sublist.trans List.filter_sublist
  have hrest : (Text.join [slash] (lasting rest)).Sublist rest := by
    have hjoined := intercalate_sublist [slash] hparts
    rwa [List.intercalate_splitOn] at hjoined
  rw [normalize_eq hpath hslashes h, hpath]
  exact ((List.replicate_sublist_replicate slash).2 (rootSlashes_le n)).append hrest

theorem ends_join {kept : List Text} (hne : kept ≠ []) (hslash : ∀ name ∈ kept, slash ∉ name)
    (hnil : ∀ name ∈ kept, name ≠ []) :
    (∃ s, (Text.join [slash] kept).head? = some s ∧ s ≠ slash) ∧
      ∃ s, (Text.join [slash] kept).getLast? = some s ∧ s ≠ slash := by
  have hname {name : Text} (hname : name ∈ kept) :
      (∃ s, name.head? = some s ∧ s ≠ slash) ∧ ∃ s, name.getLast? = some s ∧ s ≠ slash := by
    have hnot {s : Symbol} (hs : s ∈ name) : s ≠ slash := fun heq => hslash name hname (heq ▸ hs)
    have hname := hnil name hname
    exact ⟨⟨name.head hname, List.head?_eq_some_head hname, hnot (List.head_mem hname)⟩,
      ⟨name.getLast hname, List.getLast?_eq_some_getLast hname, hnot (List.getLast_mem hname)⟩⟩
  induction kept with
  | nil => exact absurd rfl hne
  | cons name more ih =>
    rw [Text.join]
    cases more with
    | nil =>
      rw [List.intercalate_singleton]
      exact hname List.mem_cons_self
    | cons name' rest =>
      rw [List.intercalate_cons_cons]
      obtain ⟨⟨a, ha, hane⟩, -⟩ := hname List.mem_cons_self
      obtain ⟨-, b, hb, hbne⟩ := ih (List.cons_ne_nil _ _)
        (fun n hn => hslash n (List.mem_cons_of_mem _ hn))
        (fun n hn => hnil n (List.mem_cons_of_mem _ hn))
        (fun hn => hname (List.mem_cons_of_mem _ hn))
      rw [Text.join] at hb
      refine ⟨⟨a, ?_, hane⟩, b, ?_, hbne⟩
      · rw [List.append_assoc, List.head?_append, ha]
        rfl
      · rw [List.getLast?_append, hb]
        rfl

theorem ends_normalize (h : lasting path ≠ []) :
    ((normalize path).head? = some slash ↔ path.head? = some slash) ∧
      (normalize path).getLast? ≠ some slash := by
  obtain ⟨n, rest, hpath, hrest, hslashes⟩ := exists_slashes path
  have hlasting := lasting_eq hpath
  have hhead {m : Nat} {t : Text} (ht : t.head? ≠ some slash) :
      (List.replicate m slash ++ t).head? = some slash ↔ m ≠ 0 := by
    cases m with
    | zero => simpa using ht
    | succ m => simp [List.replicate_succ]
  obtain ⟨⟨a, ha, hane⟩, b, hb, hbne⟩ := ends_join h
    (fun name hname => slash_not_mem_of_mem_names (mem_names_of_mem_lasting hname))
    fun name hname => ne_nil_of_mem_names (mem_names_of_mem_lasting hname)
  rw [hlasting] at ha hb
  rw [normalize_eq hpath hslashes h]
  constructor
  · rw [hhead (by rw [ha]; simpa using hane), hpath, hhead hrest, ne_eq, rootSlashes_eq_zero]
  · rw [List.getLast?_append, hb]
    simpa using hbne

end Path

/-! ## Where a path in normal form leads -/

namespace FileTree

open FileName

variable {tree tree' : FileTree} {path last : Text} {parent : Place}

/-- A name of a single dot leads nowhere. -/
theorem walk_filter (tree : FileTree) (place : Place) {names : List Text}
    (hallowed : ∀ name ∈ names, ∀ s ∈ name, Allowed s) :
    tree.walk place (names.filter fun name => name != Text.ofString ".") =
      tree.walk place names := by
  induction names generalizing place with
  | nil => rfl
  | cons name names ih =>
    have hrest (place' : Place) := ih place' fun n hn => hallowed n (List.mem_cons_of_mem _ hn)
    rw [← List.singleton_append, List.filter_append, walk_append, walk_append]
    by_cases hdot : name = Text.ofString "."
    · have hcanonical : canonical (Text.ofString ".") = Text.ofString "." :=
        canonical_map_char (by decide)
      have hstay : tree.step place (canonical (Text.ofString ".")) = .ok place := by
        rw [step, if_pos hcanonical]
      rw [hdot, walk_singleton, hstay]
      exact hrest place
    · have hkept : [name].filter (fun name => name != Text.ofString ".") = [name] := by
        simp [hdot]
      rw [hkept]
      cases tree.walk place [name] with
      | error e => rfl
      | ok place' => exact hrest place'

theorem lasting_of_names {front : List Text} {name : Text}
    (hnames : Path.names path = front ++ [name]) (hname : name ≠ Text.ofString ".") :
    Path.lasting path = front.filter (fun name => name != Text.ofString ".") ++ [name] := by
  rw [Path.lasting, hnames, List.filter_append]
  simp [hname]

theorem usable_normalize (h : Usable path) (hlasting : Path.lasting path ≠ []) :
    Usable (Path.normalize path) := by
  have hsublist := Path.normalize_sublist hlasting
  refine ⟨?_, fun s hs => h.allowed s (hsublist.subset hs), ?_⟩
  · intro hnil
    rw [← Path.names_normalize hlasting, hnil] at hlasting
    exact hlasting rfl
  · exact Nat.lt_of_le_of_lt (hsublist.flatMap symbolBytes).length_le h.size_lt

/-- A path that leads to a name in some tree leads to the same as its normal form in every tree. -/
theorem spot_normalize (h : tree.spot path = .ok (.name parent last false)) (tree' : FileTree) :
    tree'.spot (Path.normalize path) = tree'.spot path := by
  obtain ⟨husable, hslash, front, name, hnames, hname, -⟩ := names_of_spot h
  have hlasting := lasting_of_names hnames hname
  have hne : Path.lasting path ≠ [] := by simp [hlasting]
  obtain ⟨hhead, hend⟩ := Path.ends_normalize hne
  have hstart : start (Path.normalize path) = start path := by
    simp only [start, hhead]
  have hlast :
      lastSpot (Path.normalize path) (canonical name) = lastSpot path (canonical name) := by
    funext place
    rw [lastSpot, lastSpot, beq_eq_false_iff_ne.2 hend, ← hslash]
  rw [spot_concat tree' (usable_normalize husable hne)
      ((Path.names_normalize hne).trans hlasting), spot_concat tree' husable hnames, hstart, hlast,
    walk_filter]
  exact fun n hn => husable.of_mem_names (hnames ▸ List.mem_append_left _ hn)

theorem stat_normalize (h : tree.spot path = .ok (.name parent last false)) (tree' : FileTree) :
    tree'.stat (Path.normalize path) = tree'.stat path := by
  rw [stat, stat, spot_normalize h]

end FileTree

end CredentialHelper
