import CredentialHelper.Proofs.FileTree
import CredentialHelper.Proofs.KnownSources
import Mathlib.Data.List.Nodup
import Mathlib.Data.List.Perm.Subperm

/-!
# Sources that are suggested

Whatever is suggested in place of an identifier is one of the candidates, as it is spelled there and
not as it was compared (`suggestSimilar_eq_ok`).  For the sources this means that every suggestion
can be followed, and the source that the user wrote in other letters comes first
(`SourceKind.parse_suggests`).
-/

namespace CredentialHelper

/-! ## What comes first in a sorted list -/

section

variable {α : Type} {le : α → α → Bool} {a : α}

theorem head?_merge {l r : List α} (hl : ∀ b ∈ l, b = a ∨ le a b = true ∧ le b a = false)
    (hr : ∀ b ∈ r, b = a ∨ le a b = true ∧ le b a = false)
    (hhead : l.head? = some a ∨ r.head? = some a) : (l.merge r le).head? = some a := by
  cases l with
  | nil =>
    rw [List.nil_merge]
    exact hhead.resolve_left nofun
  | cons x l =>
    cases r with
    | nil =>
      rw [List.merge_right]
      exact hhead.resolve_right nofun
    | cons y r =>
      rw [List.head?_cons, List.head?_cons, Option.some_inj, Option.some_inj] at hhead
      rw [List.cons_merge_cons]
      split
      · next hle =>
        have hx : x = a := hhead.elim id fun hy =>
          (hl x List.mem_cons_self).resolve_right fun h => by simp [hy, h.2] at hle
        rw [hx, List.head?_cons]
      · next hle =>
        have hy : y = a := hhead.elim (fun hx =>
          (hr y List.mem_cons_self).resolve_right fun h => by simp [hx, h.1] at hle) id
        rw [hy, List.head?_cons]

/-- What strictly precedes everything else in a list comes first when the list is sorted.  The
relation need not be transitive. -/
theorem head?_mergeSort {l : List α} (hmem : a ∈ l)
    (hfirst : ∀ b ∈ l, b = a ∨ le a b = true ∧ le b a = false) :
    (l.mergeSort le).head? = some a := by
  induction hlength : l.length using Nat.strongRecOn generalizing l with
  | ind n ih =>
    match l with
    | [] => cases hmem
    | [b] =>
      rw [List.mem_singleton.1 hmem, List.mergeSort_singleton]
      rfl
    | b :: c :: rest =>
      rw [List.length_cons, List.length_cons] at hlength
      rw [List.mergeSort, List.MergeSort.Internal.splitInTwo_fst,
        List.MergeSort.Internal.splitInTwo_snd]
      dsimp only
      rw [List.length_cons, List.length_cons]
      generalize hhalf : (rest.length + 1 + 1 + 1) / 2 = half
      have hsplit := List.take_append_drop half (b :: c :: rest)
      have hmember (d : α)
          (hd : d ∈ List.take half (b :: c :: rest) ∨ d ∈ List.drop half (b :: c :: rest)) :
          d ∈ b :: c :: rest := hsplit ▸ List.mem_append.2 hd
      refine head?_merge (fun d hd => hfirst d (hmember d (.inl (List.mem_mergeSort.1 hd))))
        (fun d hd => hfirst d (hmember d (.inr (List.mem_mergeSort.1 hd)))) ?_
      rw [← hsplit] at hmem
      refine (List.mem_append.1 hmem).imp (fun hmem => ?_) fun hmem => ?_
      · exact ih _ (by rw [← hlength, List.length_take]; simp; omega) hmem
          (fun d hd => hfirst d (hmember d (.inl hd))) rfl
      · exact ih _ (by rw [← hlength, List.length_drop]; simp; omega) hmem
          (fun d hd => hfirst d (hmember d (.inr hd))) rfl

end

namespace Similarity

variable {candidates found names : List Text} {table : List (Text × Text)}
  {target key value : Text} {limit : Int} {cutoff : Quantity}

/-! ## Candidates under their lower-case forms -/

theorem keys_putUnder (key value : Text) (table : List (Text × Text)) :
    (putUnder key value table).map (·.1) =
      if key ∈ table.map (·.1) then table.map (·.1) else table.map (·.1) ++ [key] := by
  induction table with
  | nil => rfl
  | cons p rest ih =>
    obtain ⟨k, v⟩ := p
    rw [putUnder]
    by_cases hk : k = key
    · rw [if_pos hk, if_pos (by simp [hk])]
      rfl
    · have hmem : key ∈ ((k, v) :: rest).map (·.1) ↔ key ∈ rest.map (·.1) := by
        rw [List.map_cons, List.mem_cons, or_iff_right fun h => hk h.symm]
      rw [if_neg hk, List.map_cons, ih]
      by_cases hrest : key ∈ rest.map (·.1)
      · rw [if_pos hrest, if_pos (hmem.2 hrest)]
        rfl
      · rw [if_neg hrest, if_neg fun h => hrest (hmem.1 h)]
        rfl

theorem mem_putUnder {p : Text × Text} (h : p ∈ putUnder key value table) :
    p = (key, value) ∨ p ∈ table := by
  induction table with
  | nil => exact .inl (List.mem_singleton.1 h)
  | cons q rest ih =>
    obtain ⟨k, v⟩ := q
    rw [putUnder] at h
    split at h
    · next hk =>
      rw [hk] at h
      exact (List.mem_cons.1 h).imp_right (List.mem_cons_of_mem _)
    · rcases List.mem_cons.1 h with rfl | h
      · exact .inr List.mem_cons_self
      · exact (ih h).imp_right (List.mem_cons_of_mem _)

/-- A table holds candidates under their lower-case forms, one under each. -/
structure Tabulates (candidates : List Text) (table : List (Text × Text)) : Prop where
  nodup : (table.map (·.1)).Nodup
  candidate : ∀ p ∈ table, p.2 ∈ candidates
  form : ∀ p ∈ table, p.1 = lowercase p.2

theorem Tabulates.put (h : Tabulates candidates table) {c : Text} (hc : c ∈ candidates) :
    Tabulates candidates (putUnder (lowercase c) c table) where
  nodup := by
    rw [keys_putUnder]
    split
    · exact h.nodup
    · next hmem =>
      refine List.nodup_append.2 ⟨h.nodup, List.pairwise_singleton _ _, fun a ha b hb => ?_⟩
      rintro rfl
      exact hmem (List.mem_singleton.1 hb ▸ ha)
  candidate p hp := by
    rcases mem_putUnder hp with rfl | hp
    · exact hc
    · exact h.candidate p hp
  form p hp := by
    rcases mem_putUnder hp with rfl | hp
    · rfl
    · exact h.form p hp

theorem tabulates_byLowercase (candidates : List Text) :
    Tabulates candidates (byLowercase candidates) := by
  have hfold (more : List Text) (hmore : more ⊆ candidates) (table : List (Text × Text))
      (h : Tabulates candidates table) :
      Tabulates candidates (more.foldl (fun table c => putUnder (lowercase c) c table) table) := by
    induction more generalizing table with
    | nil => exact h
    | cons c more ih =>
      obtain ⟨hc, hmore⟩ := List.cons_subset.1 hmore
      exact ih hmore _ (h.put hc)
  exact hfold candidates (List.Subset.refl _) [] ⟨List.nodup_nil, by simp, by simp⟩

/-- No form of a table is looked up in vain, and what is found has that form. -/
theorem Tabulates.map_filterMap_lookup (h : Tabulates candidates table)
    (hfound : found ⊆ table.map (·.1)) :
    (found.filterMap fun form => table.lookup form).map lowercase = found := by
  induction found with
  | nil => rfl
  | cons form found ih =>
    obtain ⟨hform, hrest⟩ := List.cons_subset.1 hfound
    obtain ⟨p, hp, rfl⟩ := List.mem_map.1 hform
    obtain ⟨name, hname⟩ := Option.isSome_iff_exists.1
      (List.lookup_isSome_iff.2 ⟨p, hp, beq_self_eq_true _⟩)
    obtain ⟨front, back, htable, -⟩ := List.lookup_eq_some_iff.1 hname
    have hmem : (p.1, name) ∈ table := htable ▸ List.mem_append_right front List.mem_cons_self
    rw [List.filterMap_cons_some (f := fun form => table.lookup form) hname, List.map_cons,
      ih hrest, ← h.form _ hmem]

theorem Tabulates.mem_of_lookup (h : Tabulates candidates table) {form name : Text}
    (hname : table.lookup form = some name) : name ∈ candidates := by
  obtain ⟨front, back, htable, -⟩ := List.lookup_eq_some_iff.1 hname
  exact h.candidate (form, name) (htable ▸ List.mem_append_right front List.mem_cons_self)

/-! ## The closest candidates -/

theorem closest_eq_ok (h : closest target candidates limit cutoff = .ok found) :
    found.length ≤ limit.toNat ∧ found.Subperm candidates := by
  rw [closest] at h
  split at h
  · cases h
  · split at h
    · cases h
    · cases h
      constructor
      · rw [List.length_map, List.length_take]
        exact Nat.min_le_left _ _
      · have hscored : (candidates.map fun c => (ratio c target, c)).map (·.2) = candidates := by
          rw [List.map_map]
          exact List.map_id _
        have hsorted := ((List.take_sublist limit.toNat _).map Prod.snd).subperm.trans
          ((List.mergeSort_perm ((candidates.map fun c => (ratio c target, c)).filter
            fun p => cutoff.value.le p.1) precedes).map Prod.snd).subperm
        have hkept := (List.filter_sublist (l := candidates.map fun c => (ratio c target, c))
          (p := fun p => cutoff.value.le p.1)).map Prod.snd
        rw [hscored] at hkept
        exact hsorted.trans hkept.subperm

/-- A candidate that is similar enough and precedes all others is found first. -/
theorem head?_closest (h : closest target candidates limit cutoff = .ok found) {name : Text}
    (hmem : name ∈ candidates) (hcutoff : cutoff.value.le (ratio name target) = true)
    (hfirst : ∀ other ∈ candidates, other = name ∨
      precedes (ratio name target, name) (ratio other target, other) = true ∧
        precedes (ratio other target, other) (ratio name target, name) = false) :
    found.head? = some name := by
  rw [closest] at h
  split at h
  · cases h
  · next hlimit =>
    split at h
    · cases h
    · cases h
      have hhead : (((candidates.map fun c => (ratio c target, c)).filter
          fun p => cutoff.value.le p.1).mergeSort precedes).head? =
            some (ratio name target, name) := by
        refine head?_mergeSort (List.mem_filter.2 ⟨List.mem_map_of_mem hmem, hcutoff⟩)
          fun p hp => ?_
        obtain ⟨other, hother, rfl⟩ := List.mem_map.1 (List.mem_filter.1 hp).1
        exact (hfirst other hother).imp_left fun heq => by rw [heq]
      rw [List.head?_map, List.head?_take, if_neg (by omega), hhead]
      rfl

/-- What is suggested are candidates as they are spelled, no two of them alike in lower case, and as
many of them as were found by their lower-case forms. -/
theorem suggestSimilar_eq_ok (h : suggestSimilar target candidates limit cutoff = .ok names) :
    closest (lowercase target) ((byLowercase candidates).map (·.1)) limit cutoff =
        .ok (names.map lowercase) ∧
      names.length ≤ limit.toNat ∧ names.Nodup ∧ names ⊆ candidates := by
  have htable := tabulates_byLowercase candidates
  obtain ⟨found, hfound, h⟩ := FileTree.bind_eq_ok_iff.1 h
  cases h
  obtain ⟨hlength, hsubperm⟩ := closest_eq_ok hfound
  have hforms := htable.map_filterMap_lookup hsubperm.subset
  refine ⟨by rw [hforms, hfound], ?_, ?_, fun name hname => ?_⟩
  · rw [← List.length_map (f := lowercase), hforms]
    exact hlength
  · have hnodup : found.Nodup := by
      obtain ⟨kept, hperm, hsublist⟩ := hsubperm
      exact hperm.nodup_iff.1 (hsublist.nodup htable.nodup)
    rw [← hforms] at hnodup
    exact List.Nodup.of_map _ hnodup
  · obtain ⟨form, -, hname⟩ := List.mem_filterMap.1 hname
    exact htable.mem_of_lookup hname

end Similarity

/-! ## Suggestions for an identifier -/

namespace SourceKind

open Similarity

variable {identifier name : Text} {kind : SourceKind}

theorem exists_parse_iff :
    (∃ kind, parse identifier = .ok kind) ↔ identifier ∈ known.map (·.1) := by
  constructor
  · rintro ⟨kind, h⟩
    rw [parse] at h
    split at h
    · next found hfound =>
      obtain ⟨front, back, hknown, -⟩ := List.lookup_eq_some_iff.1 hfound
      rw [hknown]
      simp
    · cases h
  · intro h
    obtain ⟨p, hp, rfl⟩ := List.mem_map.1 h
    exact exists_parse (List.lookup_isSome_iff.2 ⟨p, hp, beq_self_eq_true _⟩)

def cutoff : Quantity := .real (Binary64.ofDecimal false 6 (-1))

/-- The known identifiers are in lower case, and each of them is the first of those that are similar
to it. -/
theorem known_first : ∀ name ∈ known.map (·.1), lowercase name = name ∧
    name ∈ (byLowercase (known.map (·.1))).map (·.1) ∧
    cutoff.value.le (ratio name name) = true ∧
    ∀ other ∈ (byLowercase (known.map (·.1))).map (·.1), other = name ∨
      precedes (ratio name name, name) (ratio other name, other) = true ∧
        precedes (ratio other name, other) (ratio name name, name) = false := by
  decide +kernel

theorem similar_eq (identifier : Text) :
    suggestSimilar identifier (known.map (·.1)) 3 cutoff = .ok (similar identifier) := by
  have hok : ∃ names, suggestSimilar identifier (known.map (·.1)) 3 cutoff = .ok names := by
    rw [suggestSimilar, closest, if_neg (by decide), if_neg (by decide +kernel)]
    exact ⟨_, rfl⟩
  obtain ⟨names, hnames⟩ := hok
  have hsimilar : similar identifier = names := by
    rw [similar, ← cutoff, hnames]
  rw [hnames, hsimilar]

theorem similar_spec (identifier : Text) :
    (similar identifier).length ≤ 3 ∧ (similar identifier).Nodup ∧
      similar identifier ⊆ known.map (·.1) :=
  (suggestSimilar_eq_ok (similar_eq identifier)).2

/-- The identifier that was meant, but for the case of its letters, comes first. -/
theorem head?_similar (hname : name ∈ known.map (·.1))
    (hlower : lowercase name = lowercase identifier) :
    (similar identifier).head? = some name := by
  obtain ⟨hform, hmem, hcutoff, hfirst⟩ := known_first name hname
  obtain ⟨hfound, -, -, hsubset⟩ := suggestSimilar_eq_ok (similar_eq identifier)
  rw [← hlower, hform] at hfound
  have hhead := head?_closest hfound hmem hcutoff hfirst
  rw [List.head?_map, Option.map_eq_some_iff] at hhead
  obtain ⟨found, hhead, hlowerFound⟩ := hhead
  obtain ⟨hfoundForm, -⟩ := known_first found (hsubset (List.mem_of_mem_head? hhead))
  rw [hhead, ← hfoundForm, hlowerFound]

def didYouMean (name : Text) : Text := "Did you mean '" ++ name ++ "'?"

theorem didYouMean_injective : Function.Injective didYouMean := by
  intro a b h
  exact List.append_cancel_left (List.append_cancel_right h)

def validSources : Text := "Valid token sources: " ++ Text.join ", " (known.map (·.1))

theorem suggestions_eq (identifier : Text) :
    suggestions identifier =
      if similar identifier = [] then [validSources] else (similar identifier).map didYouMean := by
  rw [suggestions]
  split
  · next h => rw [if_pos h, validSources]
  · next h => rw [if_neg h]; rfl

/-- An identifier names a source or is refused with suggestions that can be followed. -/
theorem parse_suggests (identifier : Text) :
    (∃ kind, parse identifier = .ok kind) ∨
      ∃ e, parse identifier = .error e ∧ e.kind = .unknownSource identifier ∧
        ((∃ names : List Text, (∀ name, name ∈ names ↔ ∃ kind, parse name = .ok kind) ∧
            e.suggestions = ["Valid token sources: " ++ Text.join ", " names]) ∨
          ∃ names : List Text, e.suggestions = names.map didYouMean ∧ 1 ≤ names.length ∧
            names.length ≤ 3 ∧ e.suggestions.Nodup ∧
            ∀ name ∈ names, ∃ kind, parse name = .ok kind) ∧
        ∀ name kind, parse name = .ok kind → lowercase name = lowercase identifier →
          e.suggestions.head? = some (didYouMean name) := by
  cases hparse : parse identifier with
  | ok kind => exact .inl ⟨kind, rfl⟩
  | error e =>
    refine .inr ⟨e, rfl, ?_⟩
    have he : e = unknown identifier (suggestions identifier)
        [(Text.ofString "source", .string identifier)] := by
      rw [parse] at hparse
      split at hparse
      · cases hparse
      · exact (Except.error.inj hparse).symm
    have hsuggestions : e.suggestions = if similar identifier = [] then [validSources]
        else (similar identifier).map didYouMean := by
      rw [he]
      exact suggestions_eq identifier
    obtain ⟨hlength, hnodup, hknown⟩ := similar_spec identifier
    refine ⟨by rw [he]; rfl, ?_, fun name kind hname hlower => ?_⟩
    · by_cases hnone : similar identifier = []
      · rw [if_pos hnone] at hsuggestions
        exact .inl ⟨known.map (·.1), fun name => exists_parse_iff.symm,
          by rw [hsuggestions, validSources]⟩
      · rw [if_neg hnone] at hsuggestions
        refine .inr ⟨similar identifier, hsuggestions, List.length_pos_of_ne_nil hnone, hlength, ?_,
          fun name hname => exists_parse_iff.2 (hknown hname)⟩
        rw [hsuggestions]
        exact hnodup.map didYouMean_injective
    · have hhead := head?_similar (exists_parse_iff.1 ⟨kind, hname⟩) hlower
      have hne : similar identifier ≠ [] := fun hnil => by
        rw [hnil] at hhead
        cases hhead
      rw [hsuggestions, if_neg hne, List.head?_map, hhead]
      rfl

end SourceKind

end CredentialHelper
