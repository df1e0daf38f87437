import CredentialHelper.Proofs.FileTree

/-!
# Making directories

Directories are made by one attempt for each of them, from the outside in (`Making`).  What an
attempt does and what can be chained is what all of them do (`related_makeDirectoriesFrom`); so
nothing is new after them but directories (`Opens`).  To make directories again changes nothing,
even where the first time failed half-way (`makeDirectories_again`).
-/

namespace CredentialHelper.FileTree

variable {tree tree' tree'' : FileTree} {path : Text} {mode fuel : Nat}

/-! ## Trees with more directories -/

/-- Nothing differs except that there are more directories. -/
def Opens (tree tree' : FileTree) : Prop :=
  ∀ place, tree'.get? place = tree.get? place ∨
    tree.get? place = none ∧ ∃ mode, tree'.get? place = some (.directory mode)

namespace Opens

theorem refl (tree : FileTree) : Opens tree tree := fun _ => .inl rfl

theorem trans (h : Opens tree tree') (h' : Opens tree' tree'') : Opens tree tree'' := by
  intro place
  rcases h place, h' place with ⟨heq | ⟨hnone, mode, hmade⟩, heq' | ⟨hnone', hmade'⟩⟩
  · exact .inl (heq'.trans heq)
  · exact .inr ⟨heq ▸ hnone', hmade'⟩
  · exact .inr ⟨hnone, mode, heq'.trans hmade⟩
  · rw [hmade] at hnone'
    cases hnone'

theorem get? (h : Opens tree tree') {place : Place} {entry : Entry}
    (hentry : tree.get? place = some entry) : tree'.get? place = some entry := by
  rcases h place with heq | ⟨hnone, -⟩
  · rw [heq, hentry]
  · rw [hnone] at hentry
    cases hentry

theorem keepsDirectories (h : Opens tree tree') : KeepsDirectories tree tree' :=
  fun _ _ hentry => h.get? hentry

theorem pathExists (h : Opens tree tree') (hexists : tree.pathExists path = true) :
    tree'.pathExists path = true := by
  rw [FileTree.pathExists, stat] at hexists ⊢
  cases hspot : tree.spot path with
  | error e =>
    rw [hspot] at hexists
    cases hexists
  | ok spot =>
    rw [hspot] at hexists
    rw [h.keepsDirectories.spot hspot]
    cases spot with
    | directory place => rfl
    | name parent last slash =>
      simp only [bind, Except.bind] at hexists ⊢
      cases hentry : tree.get? (parent ++ [last]) with
      | none =>
        rw [hentry] at hexists
        cases hexists
      | some entry =>
        rw [hentry] at hexists
        rw [h.get? hentry]
        exact hexists

theorem rooted (h : Opens tree tree') (hrooted : tree.Rooted) : tree'.Rooted := by
  intro place hplace mode content
  rcases h place with heq | ⟨-, mode', hmade⟩
  · rw [heq]
    exact hrooted place hplace mode content
  · rw [hmade]
    nofun

end Opens

/-! ## One directory -/

theorem makeDirectory_eq_ok (h : tree.makeDirectory path mode = .ok tree') :
    ∃ parent last slash, tree.spot path = .ok (.name parent last slash) ∧
      tree.get? (parent ++ [last]) = none ∧
      tree' = tree.put (parent ++ [last]) (.directory (masked mode)) := by
  rw [makeDirectory] at h
  split at h
  · cases h
  · cases h
  · next parent last slash hspot =>
    split at h
    · cases h
    · next hnone =>
      cases h
      exact ⟨parent, last, slash, hspot, hnone, rfl⟩

theorem opens_makeDirectory (h : tree.makeDirectory path mode = .ok tree') : Opens tree tree' := by
  obtain ⟨parent, last, slash, -, hnone, rfl⟩ := makeDirectory_eq_ok h
  intro place
  rw [get?_put_below tree (by simp)]
  by_cases heq : place = parent ++ [last]
  · rw [if_pos heq, heq]
    exact .inr ⟨hnone, _, rfl⟩
  · rw [if_neg heq]
    exact .inl rfl

theorem not_exists_of_made (h : tree.makeDirectory path mode = .ok tree') :
    tree.pathExists path = false := by
  obtain ⟨parent, last, slash, hspot, hnone, -⟩ := makeDirectory_eq_ok h
  rw [pathExists, stat, hspot]
  simp only [bind, Except.bind, hnone]
  rfl

/-- Where a directory cannot be made although nothing is there, the path leads nowhere. -/
theorem not_exists_of_makeDirectory {e : SystemError} (h : tree.makeDirectory path mode = .error e)
    (he : e.errno ≠ .exists) : tree.pathExists path = false := by
  rw [makeDirectory] at h
  split at h
  · next errno hspot =>
    rw [pathExists, stat, hspot]
    rfl
  · cases h
    exact absurd rfl he
  · split at h
    · cases h
      exact absurd rfl he
    · cases h

theorem makeDirectory_again (h : tree.makeDirectory path mode = .ok tree') :
    ∃ e, tree'.makeDirectory path mode = .error e := by
  have hopens := opens_makeDirectory h
  obtain ⟨parent, last, slash, hspot, -, rfl⟩ := makeDirectory_eq_ok h
  have hentry : (tree.put (parent ++ [last]) (.directory (masked mode))).get? (parent ++ [last]) =
      some (.directory (masked mode)) := (get?_put_below tree (by simp) _ _).trans (if_pos rfl)
  rw [makeDirectory, hopens.keepsDirectories.spot hspot]
  dsimp only
  rw [hentry]
  exact ⟨_, rfl⟩

def ensured (tree : FileTree) (path : Text) (mode : Nat) : FileTree × Except SystemError Unit :=
  match tree.makeDirectory path mode with
  | .ok made => (made, .ok ())
  | .error e => (tree, if tree.isDirectory path then .ok () else .error e)

theorem ensureWithin_unlimited (tree : FileTree) (path : Text) (mode : Nat) :
    tree.ensureWithin {} path mode = tree.ensured path mode := rfl

/-- The attempt failed, and not because something is there. -/
def Refused (r : Except SystemError Unit) : Prop := ∃ e, r = .error e ∧ e.errno ≠ .exists

theorem not_refused_ok : ¬Refused (.ok ()) := fun ⟨_, h, _⟩ => nomatch h

theorem opens_ensured (tree : FileTree) (path : Text) (mode : Nat) :
    Opens tree (tree.ensured path mode).1 := by
  rw [ensured]
  split
  · next hmade => exact opens_makeDirectory hmade
  · exact .refl tree

theorem not_exists_of_ensured (h : Refused (tree.ensured path mode).2) :
    (tree.ensured path mode).1.pathExists path = false := by
  obtain ⟨e, he, hne⟩ := h
  rw [ensured] at he ⊢
  split at he
  · cases he
  · next hfail =>
    split at he
    · cases he
    · cases he
      exact not_exists_of_makeDirectory hfail hne

/-- A second attempt changes nothing. -/
theorem ensured_again (tree : FileTree) (path : Text) (mode : Nat) :
    ∃ r, (tree.ensured path mode).1.ensured path mode = ((tree.ensured path mode).1, r) ∧
      (Refused (tree.ensured path mode).2 → Refused r) := by
  cases hmake : tree.makeDirectory path mode with
  | ok made =>
    obtain ⟨e, he⟩ := makeDirectory_again hmake
    have hmade : tree.ensured path mode = (made, .ok ()) := by rw [ensured, hmake]
    rw [hmade]
    refine ⟨_, by rw [ensured, he], fun h => absurd h not_refused_ok⟩
  | error e =>
    have hkept : (tree.ensured path mode).1 = tree := by rw [ensured, hmake]
    rw [hkept]
    exact ⟨_, Prod.ext hkept rfl, id⟩

/-! ## The directories around a path -/

theorem names_around {path : Text} (h : (around path).2 ≠ []) :
    Path.names path = Path.names (around path).1 ++ [(around path).2] := by
  have hslash : Path.slash ∉ (around path).2 := by
    rw [around]
    dsimp only
    split
    · exact (Path.split_spec _).2.1
    · exact (Path.split_spec path).2.1
  rw [(around_spec path).2, Path.names_of_not_mem hslash, if_neg h]

theorem pathExists_around_of_spot {spot : Spot} (h : tree.spot path = .ok spot)
    (hhead : (around path).1 ≠ []) (htail : (around path).2 ≠ []) :
    tree.pathExists (around path).1 = true := by
  have husable := usable_of_spot h
  have hfront := (around_spec path).1
  rw [spot_concat tree husable (names_around htail)] at h
  obtain ⟨place, hwalk, -⟩ := bind_eq_ok_iff.1 h
  rw [← start_of_front hfront hhead] at hwalk
  exact pathExists_of_walk (usable_of_front husable hfront hhead) hwalk

theorem exists_spot_of_pathExists (h : tree.pathExists path = true) :
    ∃ spot, tree.spot path = .ok spot := by
  rw [pathExists, stat] at h
  cases hspot : tree.spot path with
  | error e =>
    rw [hspot] at h
    cases h
  | ok spot => exact ⟨spot, rfl⟩

theorem ensured_of_dot (h : (around path).2 = Text.ofString ".") :
    (tree.ensured path mode).1 = tree := by
  rw [ensured]
  split
  · next hmake =>
    obtain ⟨parent, last, slash, hspot, -⟩ := makeDirectory_eq_ok hmake
    obtain ⟨-, -, front, name, hnames, hdot, -⟩ := names_of_spot hspot
    have hlast : Path.names path = Path.names (around path).1 ++ [Text.ofString "."] := by
      rw [names_around (by rw [h]; decide), h]
    rw [hnames] at hlast
    exact absurd (List.singleton_inj.1 (List.append_inj_right' hlast rfl)) hdot
  · rfl

/-- The directories around a path have to be made first. -/
structure Missing (tree : FileTree) (path : Text) : Prop where
  head : (around path).1 ≠ []
  tail : (around path).2 ≠ []
  absent : tree.pathExists (around path).1 = false

theorem missing_iff : tree.Missing path ↔
    (!(around path).1.isEmpty && !(around path).2.isEmpty &&
      !tree.pathExists (around path).1) = true := by
  simp only [Bool.and_eq_true, Bool.not_eq_true', List.isEmpty_eq_false_iff]
  constructor
  · exact fun h => ⟨⟨h.head, h.tail⟩, h.absent⟩
  · exact fun ⟨⟨hhead, htail⟩, habsent⟩ => ⟨hhead, htail, habsent⟩

theorem Opens.missing (h : Opens tree tree') (hmissing : tree'.Missing path) :
    tree.Missing path := by
  refine ⟨hmissing.head, hmissing.tail, Bool.eq_false_iff.2 fun hexists => ?_⟩
  exact absurd (h.pathExists hexists) (Bool.eq_false_iff.1 hmissing.absent)

theorem Missing.not_exists (h : tree.Missing path) : tree.pathExists path = false := by
  refine Bool.eq_false_iff.2 fun hexists => ?_
  obtain ⟨spot, hspot⟩ := exists_spot_of_pathExists hexists
  exact absurd (pathExists_around_of_spot hspot h.head h.tail) (Bool.eq_false_iff.1 h.absent)

/-- While the directories around a path are missing, an attempt to make it changes nothing. -/
theorem Missing.ensured (h : (tree.ensured path mode).1.Missing path) :
    (tree.ensured path mode).1 = tree := by
  have hmissing := (opens_ensured tree path mode).missing h
  rw [FileTree.ensured]
  split
  · next hmake =>
    obtain ⟨parent, last, slash, hspot, -⟩ := makeDirectory_eq_ok hmake
    exact absurd (pathExists_around_of_spot hspot hmissing.head hmissing.tail)
      (Bool.eq_false_iff.1 hmissing.absent)
  · rfl

/-! ## All directories of a path -/

/-- How directories are made, given what making those around the path came to. -/
inductive Making (tree : FileTree) (path : Text) (mode : Nat)
    (above : FileTree × Except SystemError Unit) : FileTree × Except SystemError Unit → Prop
  /-- Those around are there. -/
  | here (h : ¬tree.Missing path) : Making tree path mode above (tree.ensured path mode)
  /-- Those around could not be made. -/
  | refused (h : tree.Missing path) (habove : Refused above.2) : Making tree path mode above above
  /-- With those around the path itself is there. -/
  | dot (h : tree.Missing path) (habove : ¬Refused above.2)
      (hdot : (around path).2 = Text.ofString ".") : Making tree path mode above (above.1, .ok ())
  /-- Those around were made. -/
  | below (h : tree.Missing path) (habove : ¬Refused above.2)
      (hdot : (around path).2 ≠ Text.ofString ".") :
      Making tree path mode above (above.1.ensured path mode)

theorem making (tree : FileTree) (path : Text) (mode fuel : Nat) :
    Making tree path mode (tree.makeDirectoriesFrom {} (around path).1 0o777 fuel)
      (tree.makeDirectoriesFrom {} path mode (fuel + 1)) := by
  rw [makeDirectoriesFrom]
  simp only [Bool.not_false, Bool.true_and, ensureWithin_unlimited]
  split
  · next hcond =>
    have hmissing := missing_iff.2 hcond
    rcases tree.makeDirectoriesFrom {} (around path).1 0o777 fuel with ⟨front, e | _⟩
    · dsimp only
      split
      · next he => exact .refused hmissing ⟨e, rfl, he⟩
      · next he =>
        have hnot : ¬Refused (.error e) := by
          rintro ⟨_, heq, hne⟩
          cases heq
          exact he hne
        split
        · next hdot => exact .dot hmissing hnot hdot
        · next hdot => exact .below hmissing hnot hdot
    · dsimp only
      split
      · next hdot => exact .dot hmissing not_refused_ok hdot
      · next hdot => exact .below hmissing not_refused_ok hdot
  · next hcond => exact .here fun hmissing => hcond (missing_iff.1 hmissing)

theorem makeDirectoriesFrom_of_not_missing (h : ¬tree.Missing path) :
    tree.makeDirectoriesFrom {} path mode (fuel + 1) = tree.ensured path mode := by
  have hmaking := making tree path mode fuel
  generalize tree.makeDirectoriesFrom {} path mode (fuel + 1) = result at hmaking ⊢
  cases hmaking with
  | here _ => rfl
  | refused hmissing _ => exact absurd hmissing h
  | dot hmissing _ _ => exact absurd hmissing h
  | below hmissing _ _ => exact absurd hmissing h

/-- What every attempt that makes a directory does, making all of them does, also where the process
is limited. -/
theorem related_makeDirectoriesFrom {R : FileTree → FileTree → Prop} {P : Text → Prop}
    {limits : Limits} (hrefl : ∀ tree, R tree tree)
    (htrans : ∀ {tree tree' tree''}, R tree tree' → R tree' tree'' → R tree tree'')
    (hmake : ∀ {tree tree' path mode}, P path → tree.makeDirectory path mode = .ok tree' →
      R tree tree')
    (haround : ∀ path, P path → (around path).1 ≠ [] → (around path).2 ≠ [] → P (around path).1)
    (tree : FileTree) (h : P path) : R tree (tree.makeDirectoriesFrom limits path mode fuel).1 := by
  have hensured (tree : FileTree) {path : Text} (mode : Nat) (hpath : P path) :
      R tree (tree.ensureWithin limits path mode).1 := by
    rw [ensureWithin, makeDirectoryWithin]
    split
    · next made hmade =>
      split at hmade
      · cases hmade
      · exact hmake hpath hmade
    · exact hrefl tree
  induction fuel generalizing path mode with
  | zero => exact hrefl tree
  | succ fuel ih =>
    rw [makeDirectoriesFrom]
    dsimp only
    split
    · next hcond =>
      simp only [Bool.and_eq_true, Bool.not_eq_true', List.isEmpty_eq_false_iff] at hcond
      have habove := @ih _ 0o777 (haround path h hcond.1.1 hcond.1.2)
      generalize tree.makeDirectoriesFrom limits (around path).1 0o777 fuel = above at habove ⊢
      obtain ⟨front, e | _⟩ := above
      · dsimp only
        split
        · exact habove
        · split
          · exact habove
          · exact htrans habove (hensured front mode h)
      · dsimp only
        split
        · exact habove
        · exact htrans habove (hensured front mode h)
    · exact hensured tree mode h

/-- Making directories only adds some, even if it fails. -/
theorem opens_makeDirectoriesFrom (limits : Limits) (tree : FileTree) (path : Text)
    (mode fuel : Nat) : Opens tree (tree.makeDirectoriesFrom limits path mode fuel).1 :=
  related_makeDirectoriesFrom (P := fun _ => True) Opens.refl Opens.trans
    (fun _ hmade => opens_makeDirectory hmade) (fun _ _ _ _ => trivial) tree trivial

theorem makeDirectoriesWithin_of_pathExists (limits : Limits) (h : tree.pathExists path = true)
    (mode : Nat) : (tree.makeDirectoriesWithin limits path mode).1 = tree := by
  refine related_makeDirectoriesFrom (R := fun before after => before = tree → after = tree)
    (P := fun path => tree.pathExists path = true) (fun _ => id)
    (fun hfirst hsecond hstart => hsecond (hfirst hstart)) ?_ ?_ tree h rfl
  · intro before after path mode hexists hmade hstart
    rw [hstart] at hmade
    cases hexists.symm.trans (not_exists_of_made hmade)
  · intro path hexists hhead htail
    obtain ⟨spot, hspot⟩ := exists_spot_of_pathExists hexists
    exact pathExists_around_of_spot hspot hhead htail

theorem not_exists_of_makeDirectoriesFrom
    (h : Refused (tree.makeDirectoriesFrom {} path mode fuel).2) :
    (tree.makeDirectoriesFrom {} path mode fuel).1.pathExists path = false := by
  induction fuel generalizing path mode with
  | zero => exact absurd h not_refused_ok
  | succ fuel ih =>
    have hmaking := making tree path mode fuel
    generalize tree.makeDirectoriesFrom {} path mode (fuel + 1) = result at hmaking h ⊢
    cases hmaking with
    | here hhere => exact not_exists_of_ensured h
    | refused hmissing habove => exact (Missing.mk hmissing.head hmissing.tail (ih h)).not_exists
    | dot hmissing _ _ => exact absurd h not_refused_ok
    | below hmissing _ _ => exact not_exists_of_ensured h

/-- The second of two runs leaves everything as it is, and is refused if the first one was. -/
theorem makeDirectoriesFrom_again (tree : FileTree) (path : Text) (mode fuel : Nat) :
    ∃ r, (tree.makeDirectoriesFrom {} path mode fuel).1.makeDirectoriesFrom {} path mode fuel =
        ((tree.makeDirectoriesFrom {} path mode fuel).1, r) ∧
      (Refused (tree.makeDirectoriesFrom {} path mode fuel).2 → Refused r) := by
  induction fuel generalizing path mode with
  | zero => exact ⟨.ok (), rfl, id⟩
  | succ fuel ih =>
    obtain ⟨r, hagain, hrefused⟩ := ih (around path).1 0o777
    have habsent := @not_exists_of_makeDirectoriesFrom tree (around path).1 0o777 fuel
    have hfirst := making tree path mode fuel
    generalize tree.makeDirectoriesFrom {} (around path).1 0o777 fuel = above at *
    have hsecond := making above.1 path mode fuel
    rw [hagain] at hsecond
    generalize tree.makeDirectoriesFrom {} path mode (fuel + 1) = result at hfirst ⊢
    cases hfirst with
    | here hhere =>
      rw [makeDirectoriesFrom_of_not_missing fun h => hhere ((opens_ensured _ _ _).missing h)]
      exact ensured_again tree path mode
    | refused hmissing habove =>
      generalize above.1.makeDirectoriesFrom {} path mode (fuel + 1) = result' at hsecond ⊢
      cases hsecond with
      | here hhere => exact absurd ⟨hmissing.head, hmissing.tail, habsent habove⟩ hhere
      | refused _ habove' => exact ⟨r, rfl, fun _ => habove'⟩
      | dot _ hnot _ => exact absurd (hrefused habove) hnot
      | below _ hnot _ => exact absurd (hrefused habove) hnot
    | dot hmissing _ hdot =>
      generalize above.1.makeDirectoriesFrom {} path mode (fuel + 1) = result' at hsecond ⊢
      cases hsecond with
      | here _ =>
        exact ⟨(above.1.ensured path mode).2, Prod.ext (ensured_of_dot hdot) rfl,
          fun h => absurd h not_refused_ok⟩
      | refused _ habove' => exact ⟨r, rfl, fun _ => habove'⟩
      | dot _ _ _ => exact ⟨_, rfl, id⟩
      | below _ _ hnot => exact absurd hdot hnot
    | below hmissing _ hnot =>
      by_cases hagain' : (above.1.ensured path mode).1.Missing path
      · have hkept := hagain'.ensured
        rw [hkept] at hagain' ⊢
        generalize above.1.makeDirectoriesFrom {} path mode (fuel + 1) = result' at hsecond ⊢
        cases hsecond with
        | here hhere => exact absurd hagain' hhere
        | refused _ habove' => exact ⟨r, rfl, fun _ => habove'⟩
        | dot _ _ hdot => exact absurd hdot hnot
        | below _ _ _ => exact ⟨(above.1.ensured path mode).2, Prod.ext hkept rfl, id⟩
      · rw [makeDirectoriesFrom_of_not_missing hagain']
        exact ensured_again above.1 path mode

/-- To make directories again changes nothing. -/
theorem makeDirectories_again (tree : FileTree) (path : Text) (mode : Nat) :
    ((tree.makeDirectories path mode).1.makeDirectories path mode).1 =
      (tree.makeDirectories path mode).1 := by
  obtain ⟨r, hagain, -⟩ := makeDirectoriesFrom_again tree path mode (path.length + 1)
  rw [makeDirectories, makeDirectories, makeDirectoriesWithin, makeDirectoriesWithin, hagain]

end CredentialHelper.FileTree
